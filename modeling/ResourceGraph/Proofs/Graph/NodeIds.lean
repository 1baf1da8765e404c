import ResourceGraph.Graph.Node
import ResourceGraph.Proofs.Text.Trim

/-! # The ids of nodes

The id of a node is not empty and has no blank at either end. If an analyzer gave one, it is that one. -/

namespace ResourceGraph
open Text

/-- A field with text is kept without the blanks around it. -/
theorem nonBlank?_eq_some {field : Option String} {s : String} (h : nonBlank? field = some s) :
    s ≠ "" ∧ Bare s.toList := by
  unfold nonBlank? at h
  split at h
  · cases h
  · rename_i given
    split at h
    · rename_i htext
      cases h
      refine ⟨fun hempty => ?_, bare_trim given⟩
      simp [hasText, hempty] at htext
    · cases h

theorem Digest.isBlank_of_mem_blake3Hex {bytes : List UInt8} {c : Char} (hc : c ∈ (blake3Hex bytes).toList) :
    isBlank c = false := by
  have digit : ∀ n < 16, isBlank (Nat.digitChar n) = false := by decide
  have byte : ∀ {b : UInt32} {c : Char}, c ∈ hexByte b → isBlank c = false := by
    intro b c hc
    simp only [hexByte, List.mem_cons, List.not_mem_nil, or_false] at hc
    rcases hc with rfl | rfl
    · exact digit _ (Nat.mod_lt _ (by decide))
    · exact digit _ (Nat.mod_lt _ (by decide))
  unfold blake3Hex at hc
  rw [String.toList_ofList] at hc
  obtain ⟨w, -, hc⟩ := List.mem_flatMap.mp hc
  unfold hexWord at hc
  simp only [List.mem_append] at hc
  rcases hc with ((hc | hc) | hc) | hc <;> exact byte hc

namespace Node
variable {d : ResourceDescriptor}

/-- What holds of the ids of a node: it goes by the id that the analyzer gave if it gave one, and a text that
    names it is not lost when it is trimmed. -/
structure Exact (n : Node) : Prop where
  given : n.resourceId = none ∨ n.resourceId = some n.id
  nonempty : n.id ≠ ""
  bare : Bare n.id.toList

theorem bare_hashedId (d : ResourceDescriptor) : Bare (hashedId d).toList := by
  have chars : ∀ c ∈ (hashedId d).toList, isBlank c = false := by
    intro c hc
    unfold hashedId at hc
    simp only [String.toList_append, String.toList_ofList, List.mem_append] at hc
    rcases hc with hc | hc
    · have letters : "resource_".toList.all (!isBlank ·) = true := by decide
      simpa using List.all_eq_true.mp letters c hc
    · exact Digest.isBlank_of_mem_blake3Hex (List.mem_of_mem_take hc)
  exact ⟨fun c hc => chars c (List.mem_of_mem_head? hc), fun c hc => chars c (List.mem_of_getLast? hc)⟩

theorem stableId_nonempty (d : ResourceDescriptor) : stableId d ≠ "" := by
  unfold stableId
  split
  · rename_i hid
    exact (nonBlank?_eq_some hid).1
  · split
    · simp
    · simp [hashedId]

theorem bare_stableId (d : ResourceDescriptor) : Bare (stableId d).toList := by
  unfold stableId
  split
  · rename_i hid
    exact (nonBlank?_eq_some hid).2
  · split
    · rename_i htype hname
      obtain ⟨htype, bareType⟩ := nonBlank?_eq_some htype
      obtain ⟨hname, bareName⟩ := nonBlank?_eq_some hname
      rw [String.toList_append, String.toList_append]
      exact bareType.append bareName (by simpa using htype) (by simpa using hname)
    · exact bare_hashedId d

@[simp] theorem ofDescriptor_id (d : ResourceDescriptor) : (ofDescriptor d).id = stableId d := rfl

/-- The node of every resource goes by its ids. -/
theorem exact_ofDescriptor (d : ResourceDescriptor) : (ofDescriptor d).Exact where
  given := by
    unfold ofDescriptor stableId
    cases nonBlank? d.id with
    | none => exact Or.inl rfl
    | some id => exact Or.inr rfl
  nonempty := stableId_nonempty d
  bare := bare_stableId d

end Node

end ResourceGraph
