import Mathlib.Data.List.Basic
import ResourceGraph.Analysis.Response

/-! # What is accepted from an answer

The entries of an answer's object are read one after the other, and each of them is either found and counted as
accepted, or counted as left out (`SiftedFrom`). So the two counts add up to the number of entries, and whatever is
accepted is valid. -/

namespace ResourceGraph.Analysis

/-! ## Reading entries -/

section Sift
variable {α : Type} {read : Json → Option α} {s : Sifted α} {listed : List Json}

/-- What some entries have given. -/
structure SiftedFrom (read : Json → Option α) (listed : List Json) (s : Sifted α) : Prop where
  found : s.found = listed.filterMap read
  accepted : s.accepted = s.found.length
  entries : listed.length = s.malformed + s.accepted

theorem SiftedFrom.start : SiftedFrom read [] .start := ⟨rfl, rfl, rfl⟩

theorem SiftedFrom.step (h : SiftedFrom read listed s) (entry : Json) :
    SiftedFrom read (listed ++ [entry]) (s.step read entry) := by
  obtain ⟨hfound, haccepted, hentries⟩ := h
  unfold Sifted.step
  split
  · rename_i x hx
    refine ⟨?_, ?_, ?_⟩
    · simp [hfound, hx]
    · simp [haccepted]
    · simp only [List.length_append, List.length_singleton]
      omega
  · rename_i hx
    refine ⟨?_, haccepted, ?_⟩
    · simp [hfound, hx]
    · simp only [List.length_append, List.length_singleton]
      omega

theorem SiftedFrom.foldl (h : SiftedFrom read listed s) (rest : List Json) :
    SiftedFrom read (listed ++ rest) (rest.foldl (Sifted.step read) s) := by
  induction rest generalizing listed s with
  | nil => rwa [List.append_nil]
  | cons entry rest ih =>
    have hnext := ih (h.step entry)
    rwa [List.append_assoc, List.singleton_append] at hnext

theorem SiftedFrom.exists_entry (h : SiftedFrom read listed s) {x : α} (hx : x ∈ s.found) :
    ∃ entry ∈ listed, read entry = some x := by
  rw [h.found] at hx
  exact List.mem_filterMap.mp hx

theorem siftedFrom_sift (read : Json → Option α) (listed : List Json) : SiftedFrom read listed (sift read listed) :=
  SiftedFrom.start.foldl listed

end Sift

/-- What is said about an answer counts its entries. -/
theorem ofJson_counts (v : Json) :
    (entries v "resources").length = (ofJson v).2.resourcesMalformed + (ofJson v).1.resources.length ∧
      (entries v "relationships").length = (ofJson v).2.relationshipsMalformed + (ofJson v).1.relationships.length ∧
      (ofJson v).1.relationships.length = (ofJson v).2.relationshipsAccepted := by
  have resources := siftedFrom_sift resource? (entries v "resources")
  have relationships := siftedFrom_sift relationship? (entries v "relationships")
  refine ⟨?_, ?_, relationships.accepted.symm⟩
  · exact resources.entries.trans (congrArg _ resources.accepted)
  · exact relationships.entries.trans (congrArg _ relationships.accepted)

/-! ## Valid analyses -/

/-- All resources have a name of some kind, and all relationships two ends and a confidence from zero to
    one. -/
structure Valid (a : Analysis) : Prop where
  resources : ∀ d ∈ a.resources, d.isNamed = true
  relationships : ∀ d ∈ a.relationships, d.isValid = true

/-- What the object of an answer says is valid. -/
theorem ofJson_valid (v : Json) : (ofJson v).1.Valid where
  resources d hd := by
    obtain ⟨entry, -, hentry⟩ := (siftedFrom_sift resource? _).exists_entry hd
    exact (Option.filter_eq_some_iff.mp hentry).2
  relationships d hd := by
    obtain ⟨entry, -, hentry⟩ := (siftedFrom_sift relationship? _).exists_entry hd
    exact (Option.filter_eq_some_iff.mp hentry).2

/-! ## Answers -/

/-- The JSON object in an answer. -/
def object? (raw : String) : Option Json := (objectText? raw.toList).bind fun cs => Json.read? (String.ofList cs)

theorem ofResponse_ok {raw : String} {found : Analysis × Validation} (h : ofResponse raw = .ok found) :
    ∃ v, object? raw = some v ∧ found = ofJson v := by
  unfold ofResponse at h
  unfold object?
  split at h
  · cases h
  · rename_i cs hcs
    rw [hcs, Option.bind_some]
    split at h
    · cases h
    · rename_i v hv
      cases h
      exact ⟨v, hv, rfl⟩

/-- What is accepted from an answer is valid. -/
theorem ofResponse_valid {raw : String} {found : Analysis × Validation} (h : ofResponse raw = .ok found) :
    found.1.Valid := by
  obtain ⟨v, -, rfl⟩ := ofResponse_ok h
  exact ofJson_valid v

end ResourceGraph.Analysis
