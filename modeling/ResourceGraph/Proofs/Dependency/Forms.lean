import Mathlib.Data.List.TakeWhile
import ResourceGraph.Dependency.Reference
import ResourceGraph.Proofs.Text.Cut
import ResourceGraph.Proofs.Text.Find

/-! # What the forms of references read

Each form reads a type or a word, and segments behind points (`Reading`). So no form reads an implicit
dependency, and what a form takes are word characters, points and hyphens, and at most one bracket at its end. -/

namespace ResourceGraph
open Text

namespace Reference
variable {ref : Reference} {c : Char} {cs rest middle name word : List Char}
  {path? : List Char → Option (Reference × List Char)}

/-! ## The parts of a reference -/

/-- The words of references to named things, with the category of each. -/
def namedWords : List (String × Category) :=
  [("var", .variable), ("local", .variable), ("output", .output)]

/-- A reference is read part by part from the start of a text, up to the rest. -/
inductive Reading (cs rest : List Char) : Reference → Prop where
  | resource {type behind name : List Char} {stop : Char} : resourceType? cs = some (type, behind) →
      pointSegment? behind = some (name, stop :: rest) →
      Reading cs rest ⟨String.ofList type ++ "." ++ String.ofList name, .resource⟩
  | data {behind type middle name : List Char} : dropWord? cs "data".toList = some behind →
      pointSegment? behind = some (type, middle) → pointSegment? middle = some (name, rest) →
      Reading cs rest ⟨"data." ++ String.ofList type ++ "." ++ String.ofList name, .resource⟩
  | module {behind name middle output : List Char} : dropWord? cs "module".toList = some behind →
      pointSegment? behind = some (name, middle) → pointSegment? middle = some (output, rest) →
      Reading cs rest ⟨"module." ++ String.ofList name, .module⟩
  | named {word : String} {category : Category} {behind name : List Char} : (word, category) ∈ namedWords →
      dropWord? cs word.toList = some behind → pointSegment? behind = some (name, rest) →
      Reading cs rest ⟨word ++ "." ++ String.ofList name, category⟩

theorem reading_of_resourcePath? (h : resourcePath? cs = some (ref, rest)) : Reading cs rest ref := by
  simp only [resourcePath?, Option.bind_eq_bind, Option.bind_eq_some_iff] at h
  obtain ⟨⟨type, behind⟩, htype, ⟨name, after⟩, hname, _, -, h⟩ := h
  split at h
  · cases h
  · split at h
    · rename_i hstop
      cases h
      cases hstop
      exact .resource htype hname
    · rename_i hstop
      cases h
      cases hstop
      exact .resource htype hname
    · cases h

theorem reading_of_dataPath? (h : dataPath? cs = some (ref, rest)) : Reading cs rest ref := by
  simp only [dataPath?, Option.bind_eq_bind, Option.bind_eq_some_iff] at h
  obtain ⟨behind, hdrop, ⟨type, middle⟩, htype, ⟨name, after⟩, hname, h⟩ := h
  cases h
  exact .data hdrop htype hname

theorem reading_of_modulePath? (h : modulePath? cs = some (ref, rest)) : Reading cs rest ref := by
  simp only [modulePath?, Option.bind_eq_bind, Option.bind_eq_some_iff] at h
  obtain ⟨behind, hdrop, ⟨name, middle⟩, hname, ⟨output, after⟩, houtput, h⟩ := h
  cases h
  exact .module hdrop hname houtput

theorem reading_of_namedPath? {word : String} {category : Category} (hword : (word, category) ∈ namedWords)
    (h : namedPath? word category cs = some (ref, rest)) : Reading cs rest ref := by
  simp only [namedPath?, Option.bind_eq_bind, Option.bind_eq_some_iff] at h
  obtain ⟨behind, hdrop, ⟨name, after⟩, hname, h⟩ := h
  cases h
  exact .named hword hdrop hname

theorem reading_of_mem_forms (hpath : path? ∈ forms) (h : path? cs = some (ref, rest)) : Reading cs rest ref := by
  simp only [forms, List.mem_cons, List.not_mem_nil, or_false] at hpath
  rcases hpath with rfl | rfl | rfl | rfl | rfl
  · exact reading_of_resourcePath? h
  · exact reading_of_dataPath? h
  · exact reading_of_modulePath? h
  · simp only [variablePath?, Option.orElse_eq_orElse, Option.orElse_eq_or, Option.or_eq_some_iff] at h
    rcases h with h | ⟨-, h⟩
    · exact reading_of_namedPath? (by decide) h
    · exact reading_of_namedPath? (by decide) h
  · exact reading_of_namedPath? (by decide) h

/-- No form of references is an implicit dependency. -/
theorem Reading.category (h : Reading cs rest ref) : ref.category ≠ .implicit := by
  have hnamed : ∀ row ∈ namedWords, row.2 ≠ .implicit := by decide
  cases h with
  | named hword => exact hnamed _ hword
  | _ => simp

/-- A reference that is found is read by one of the forms, where a word can start. -/
theorem exists_of_mem_findIn (h : ref ∈ findIn cs) : ∃ path? ∈ forms, ∃ front tail rest, cs = front ++ tail ∧
    startsWord front.getLast? = true ∧ path? tail = some (ref, rest) := by
  obtain ⟨path?, hpath, h⟩ := List.mem_flatMap.mp h
  obtain ⟨m, hm, rfl⟩ := List.mem_map.mp h
  obtain ⟨front, hcs, -, hp⟩ := mem_findAll hm
  unfold pattern at hp
  split at hp
  · rename_i hstarts
    obtain ⟨⟨found, rest⟩, hfound, heq⟩ := Option.map_eq_some_iff.mp hp
    cases (Prod.mk.inj heq).1
    exact ⟨path?, hpath, front, m.tail, rest, hcs, hstarts, hfound⟩
  · cases hp

/-! ## What a form takes -/

/-- A character that a reference may have inside. -/
def isInner (c : Char) : Bool :=
  isWord c || c = '.' || c = '-'

theorem isWord_of_isAlphanum (h : c.isAlphanum = true) : isWord c = true := by
  have hascii : c.toNat < 0x80 := by
    rcases Bool.or_eq_true_iff.mp h with hletter | hdigit
    · rcases Bool.or_eq_true_iff.mp hletter with hcapital | hsmall
      · exact Nat.lt_of_le_of_lt (of_decide_eq_true hcapital).2 (by decide)
      · exact Nat.lt_of_le_of_lt (of_decide_eq_true (Bool.and_eq_true_iff.mp hsmall).2) (by decide)
    · exact Nat.lt_of_le_of_lt (of_decide_eq_true (Bool.and_eq_true_iff.mp hdigit).2) (by decide)
  simp [isWord, hascii, h]

theorem isInner_of_isAlphanum_or (h : (c.isAlphanum || c = '_') = true) : isInner c = true := by
  rcases Bool.or_eq_true_iff.mp h with h | h
  · simp [isInner, isWord_of_isAlphanum h]
  · obtain rfl := of_decide_eq_true h
    decide

theorem isInner_of_isSegmentChar (h : isSegmentChar c = true) : isInner c = true := by
  rcases Bool.or_eq_true_iff.mp h with h | h
  · exact isInner_of_isAlphanum_or h
  · simp [isInner, of_decide_eq_true h]

/-- The characters in front of the rest of a text may stand inside a reference. -/
def Takes (cs rest : List Char) : Prop :=
  ∃ read, cs = read ++ rest ∧ ∀ c ∈ read, isInner c = true

theorem Takes.trans (h : Takes cs middle) (h' : Takes middle rest) : Takes cs rest := by
  obtain ⟨read, rfl, hread⟩ := h
  obtain ⟨more, rfl, hmore⟩ := h'
  refine ⟨read ++ more, (List.append_assoc ..).symm, fun c hc => ?_⟩
  exact (List.mem_append.mp hc).elim (hread c) (hmore c)

theorem Takes.cons (hc : isInner c = true) (h : Takes cs rest) : Takes (c :: cs) rest :=
  Takes.trans ⟨[c], rfl, fun _ hmem => List.mem_singleton.mp hmem ▸ hc⟩ h

theorem takes_dropWord? (hword : word.all isInner = true) (h : dropWord? cs word = some rest) : Takes cs rest :=
  ⟨word, dropWord?_eq_some h, List.all_eq_true.mp hword⟩

theorem takes_segment? (h : segment? cs = some (name, rest)) : Takes cs rest := by
  unfold segment? at h
  split at h
  · cases h
  · rename_i hne
    cases h
    refine ⟨cs.takeWhile isSegmentChar, List.takeWhile_append_dropWhile.symm, fun c hc => ?_⟩
    exact isInner_of_isSegmentChar (List.mem_takeWhile_imp hc)

theorem takes_pointSegment? (h : pointSegment? cs = some (name, rest)) : Takes cs rest := by
  unfold pointSegment? at h
  split at h
  · exact (takes_segment? h).cons (by decide)
  · cases h

theorem takes_resourceType? (h : resourceType? cs = some (name, rest)) : Takes cs rest := by
  unfold resourceType? at h
  split at h
  · cases h
  · rename_i c tail
    split at h
    · dsimp only at h
      split at h
      · cases h
        refine ⟨_, (List.prefix_iff_eq_append.mp (List.takeWhile_prefix _)).symm, fun x hx => ?_⟩
        have hchar : (x.isAlphanum || x = '_') = true :=
          List.mem_takeWhile_imp (p := fun c => c.isAlphanum || c = '_') hx
        exact isInner_of_isAlphanum_or hchar
      · cases h
    · cases h

/-- A reading takes characters that references have inside, and perhaps one more at the end. -/
theorem Reading.takes (h : Reading cs rest ref) : Takes cs rest ∨ ∃ stop, Takes cs (stop :: rest) := by
  have hnamed : ∀ row ∈ namedWords, row.1.toList.all isInner = true := by decide
  cases h with
  | resource htype hname => exact Or.inr ⟨_, (takes_resourceType? htype).trans (takes_pointSegment? hname)⟩
  | data hdrop htype hname =>
    have hword : Takes cs _ := takes_dropWord? (by decide) hdrop
    exact Or.inl ((hword.trans (takes_pointSegment? htype)).trans (takes_pointSegment? hname))
  | module hdrop hname houtput =>
    have hword : Takes cs _ := takes_dropWord? (by decide) hdrop
    exact Or.inl ((hword.trans (takes_pointSegment? hname)).trans (takes_pointSegment? houtput))
  | named hword hdrop hname =>
    exact Or.inl ((takes_dropWord? (hnamed _ hword) hdrop).trans (takes_pointSegment? hname))

/-- All but the last of the characters that a form takes may stand inside a reference. -/
theorem within_pattern (hpath : path? ∈ forms) :
    Pattern.Within (pattern path?) isInner := by
  intro before cs ref length h c hc
  unfold pattern at h
  split at h
  · obtain ⟨⟨found, rest⟩, hfound, heq⟩ := Option.map_eq_some_iff.mp h
    obtain ⟨rfl, rfl⟩ := Prod.mk.inj heq
    rcases (reading_of_mem_forms hpath hfound).takes with ⟨read, rfl, hread⟩ | ⟨stop, read, rfl, hread⟩
    · refine hread c (List.mem_of_mem_take (i := read.length - 1) ?_)
      rwa [List.length_append, Nat.add_sub_cancel, List.take_append_of_le_length (Nat.sub_le ..)] at hc
    · refine hread c ?_
      have hlength : (read ++ stop :: rest).length - rest.length - 1 = read.length := by
        rw [List.length_append, List.length_cons]
        omega
      rwa [hlength, List.take_left] at hc
  · cases h

end Reference

end ResourceGraph
