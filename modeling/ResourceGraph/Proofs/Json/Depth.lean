import ResourceGraph.Proofs.Ascending
import ResourceGraph.Proofs.Json.Reader

/-! # The depth of a value that was read

Lists and objects are read at most 127 levels deep, and the keys of an object that was read ascend. A part of such a
value has fewer levels, since each container that is open while it is read takes one. -/

namespace ResourceGraph.Json
open Sorted

/-! ## Levels -/

/-- A value has at most so many levels of lists and objects, and the keys of its objects ascend. -/
inductive Fits : Nat → Json → Prop where
  | plain {n : Nat} {v : Json} : v.isPlain = true → Fits n v
  | list {n : Nat} {items : List Json} : (∀ v ∈ items, Fits n v) → Fits (n + 1) (.list items)
  | object {n : Nat} {fields : List (String × Json)} : Ascending Prod.fst fields → (∀ f ∈ fields, Fits n f.2) →
      Fits (n + 1) (.object fields)

section Levels
variable {n m : Nat} {v : Json} {key : String} {items : List Json} {fields : List (String × Json)}

theorem Fits.mono (h : Fits n v) (hnm : n ≤ m) : Fits m v := by
  induction h generalizing m with
  | plain hv => exact .plain hv
  | list _ ih =>
    obtain ⟨k, rfl⟩ := Nat.exists_eq_add_of_le' (Nat.le_of_add_left_le hnm)
    exact .list fun v hv => ih v hv (by omega)
  | object hfields _ ih =>
    obtain ⟨k, rfl⟩ := Nat.exists_eq_add_of_le' (Nat.le_of_add_left_le hnm)
    exact .object hfields fun f hf => ih f hf (by omega)

theorem Fits.of_list (h : Fits (n + 1) (.list items)) : ∀ v ∈ items, Fits n v := by
  cases h with
  | plain h => cases h
  | list h => exact h

theorem Fits.of_object (h : Fits (n + 1) (.object fields)) : ∀ f ∈ fields, Fits n f.2 := by
  cases h with
  | plain h => cases h
  | object _ h => exact h

theorem Fits.find? (h : ∀ f ∈ fields, Fits n f.2) (hfind : Table.find? fields key = some v) : Fits n v := by
  obtain ⟨entry, hentry, rfl⟩ := Option.map_eq_some_iff.mp hfind
  exact h entry (find?_eq_some_mem hentry).1

theorem Fits.ofList (h : ∀ f ∈ fields, Fits n f.2) : ∀ f ∈ Table.ofList fields, Fits n f.2 := by
  have hmem : ∀ f ∈ upsertAll Prod.fst [] fields, f ∈ fields := fun f hf =>
    (List.mem_filter.mp (List.mem_of_getLast? (mem_upsertAll_nil.mp hf))).1
  exact fun f hf => h f (hmem f hf)

theorem Fits.ofFields (h : ∀ f ∈ fields, Fits n f.2) : Fits (n + 1) (ofFields fields) :=
  .object (Ascending.upsertAll .nil) (ofList h)

end Levels

/-! ## Progress -/

/-- What is in an open container has at most so many levels. -/
def Frame.Fits (n : Nat) : Frame → Prop
  | .items done => ∀ v ∈ done, v.Fits n
  | .fields done | .awaiting done _ => ∀ f ∈ done, f.2.Fits n

/-- Each open container takes one of the levels. -/
inductive StackFits : List Frame → Prop where
  | nil : StackFits []
  | cons {n : Nat} {f : Frame} {outer : List Frame} : f.Fits n → outer.length + (n + 1) = maxDepth →
      StackFits outer → StackFits (f :: outer)

/-- No value, open or complete, has more levels than there are. -/
structure Progress.Fits (p : Progress) : Prop where
  stack : StackFits p.stack
  result : ∀ v, p.result = some v → v.Fits maxDepth

section Steps
variable {n : Nat} {v : Json} {t : Token} {ts : List Token} {p q : Progress} {f : Frame} {outer : List Frame}
  {expect : Expect} {result : Option Json}

theorem Progress.Fits.push (houter : StackFits outer) (hv : v.Fits n) (hn : outer.length + n = maxDepth)
    (hq : Progress.push ⟨outer, expect, result⟩ v = some q) : q.Fits := by
  cases houter with
  | nil =>
    cases hq
    refine ⟨.nil, fun w hw => ?_⟩
    cases hw
    exact hv.mono (Nat.le_of_eq ((Nat.zero_add n).symm.trans hn))
  | @cons m f outer hf hm houter =>
    obtain rfl : n = m := by
      rw [List.length_cons] at hn
      omega
    cases f with
    | fields done => cases hq
    | items done =>
      cases hq
      exact ⟨.cons (f := .items _) (List.forall_mem_cons.mpr ⟨hv, hf⟩) hm houter, nofun⟩
    | awaiting done key =>
      cases hq
      exact ⟨.cons (f := .fields _) (List.forall_mem_cons.mpr ⟨hv, hf⟩) hm houter, nofun⟩

theorem Progress.Fits.open (houter : StackFits outer) (hlength : outer.length < maxDepth) (hf : ∀ n, f.Fits n) :
    Progress.Fits ⟨f :: outer, expect, none⟩ := by
  obtain ⟨n, hn⟩ := Nat.exists_eq_add_of_lt hlength
  exact ⟨.cons (hf n) hn.symm houter, nofun⟩

/-- A container that is closed leaves its level to its value. -/
theorem Progress.Fits.close (hstack : StackFits (f :: outer)) (hv : ∀ n, f.Fits n → v.Fits (n + 1))
    (hq : Progress.push ⟨outer, expect, result⟩ v = some q) : q.Fits := by
  cases hstack with
  | cons hf hn houter => exact push houter (hv _ hf) hn hq

theorem StackFits.length_le (h : StackFits outer) : outer.length ≤ maxDepth := by
  cases h with
  | nil => exact Nat.zero_le _
  | cons _ hn _ =>
    rw [List.length_cons]
    omega

theorem Progress.Fits.step (h : p.Fits) (ht : ∀ v, t = .scalar v → v.isPlain = true) (hstep : p.step t = some q) :
    q.Fits := by
  obtain ⟨stack, expect, result⟩ := p
  have hstack : StackFits stack := h.stack
  cases t with
  | scalar v =>
    unfold Progress.step at hstep
    dsimp only at hstep
    split at hstep
    · exact push hstack (.plain (ht v rfl)) (Nat.add_sub_of_le hstack.length_le) hstep
    · split at hstep <;> cases hstep
      · cases hstack with
        | cons hf hn houter => exact ⟨.cons (f := .awaiting _ _) hf hn houter, nofun⟩
      · cases hstack with
        | cons hf hn houter => exact ⟨.cons (f := .awaiting _ _) hf hn houter, nofun⟩
  | openList | openObject =>
    obtain ⟨⟨-, hlength⟩, hq⟩ := Option.ite_none_right_eq_some.mp hstep
    cases hq
    exact .open hstack hlength fun _ => nofun
  | closeList =>
    have hlist : ∀ done n, Frame.Fits n (.items done) → Json.Fits (n + 1) (.list done.reverse) := fun done n hdone =>
      .list fun v hv => hdone v (List.mem_reverse.mp hv)
    unfold Progress.step at hstep
    dsimp only at hstep
    split at hstep
    · exact close hstack (hlist _) hstep
    · exact close hstack (hlist _) hstep
    · cases hstep
  | closeObject =>
    have hobject : ∀ done n, Frame.Fits n (.fields done) → Json.Fits (n + 1) (ofFields done.reverse) :=
      fun done n hdone => .ofFields fun f hf => hdone f (List.mem_reverse.mp hf)
    unfold Progress.step at hstep
    dsimp only at hstep
    split at hstep
    · exact close hstack (hobject _) hstep
    · exact close hstack (hobject _) hstep
    · cases hstep
  | colon =>
    unfold Progress.step at hstep
    dsimp only at hstep
    split at hstep <;> cases hstep
    exact ⟨hstack, h.result⟩
  | comma =>
    unfold Progress.step at hstep
    dsimp only at hstep
    split at hstep <;> cases hstep <;> exact ⟨hstack, h.result⟩

theorem Progress.Fits.run (h : p.Fits) (hts : ∀ v, .scalar v ∈ ts → v.isPlain = true) (hrun : p.run ts = some q) :
    q.Fits := by
  induction ts generalizing p with
  | nil =>
    cases hrun
    exact h
  | cons t ts ih =>
    rw [Progress.run_cons] at hrun
    obtain ⟨next, hstep, hrest⟩ := Option.bind_eq_some_iff.mp hrun
    have ht : ∀ v, t = .scalar v → v.isPlain = true := by
      rintro v rfl
      exact hts v List.mem_cons_self
    exact ih (h.step ht hstep) (fun v hv => hts v (List.mem_cons_of_mem _ hv)) hrest

/-- What was read has no more levels than there are. -/
theorem fits_of_read {s : String} (h : read? s = some v) : v.Fits maxDepth := by
  rw [← String.ofList_toList (s := s), read_ofList] at h
  obtain ⟨ts, hts, hvalue⟩ := Option.bind_eq_some_iff.mp h
  obtain ⟨q, hrun, hq⟩ := Option.bind_eq_some_iff.mp hvalue
  have hstart : Progress.Fits ⟨[], .value, none⟩ := ⟨.nil, nofun⟩
  exact (hstart.run (tokenized_of_tokens hts).isPlain hrun).result v hq

end Steps

end ResourceGraph.Json
