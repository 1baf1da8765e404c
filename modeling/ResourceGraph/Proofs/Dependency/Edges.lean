import ResourceGraph.Dependency.Map
import ResourceGraph.Proofs.Ascending

/-! # The dependencies of a map

Recording a dependency adds it to those of the map and keeps all others, and mentioning a resource adds none.
What is proved about dependencies can therefore forget how a map stores them. -/

namespace ResourceGraph
open Sorted

namespace Targets
variable {t : Targets} {c c' : Category} {x y : String}

theorem get_empty (c : Category) : empty.get c = [] := by cases c <;> rfl

theorem mem_add : y ∈ (t.add c x).get c' ↔ (c' = c ∧ y = x) ∨ y ∈ t.get c' := by
  by_cases hc : c' = c
  · subst hc
    cases c' <;> simp [add, set, get, Names.mem_insert]
  · have hget : (t.add c x).get c' = t.get c' := by cases c <;> cases c' <;> first | rfl | exact absurd rfl hc
    simp [hget, hc]

end Targets

namespace DependencyMap

/-- The dependencies of one entry. -/
def row (entry : String × Targets) : List Dependency :=
  Category.all.flatMap fun c => (entry.2.get c).map fun target => ⟨entry.1, target, c⟩

theorem mem_row {entry : String × Targets} {e : Dependency} :
    e ∈ row entry ↔ e.source = entry.1 ∧ e.target ∈ entry.2.get e.category := by
  have hall : ∀ c, c ∈ Category.all := by intro c; cases c <;> decide
  unfold row
  rw [List.mem_flatMap]
  constructor
  · rintro ⟨c, -, he⟩
    obtain ⟨target, htarget, rfl⟩ := List.mem_map.mp he
    exact ⟨rfl, htarget⟩
  · rintro ⟨hsource, htarget⟩
    exact ⟨e.category, hall _, List.mem_map.mpr ⟨e.target, htarget, by rw [← hsource]⟩⟩

section Changes
variable {m : DependencyMap} {e : Dependency} {id source target : String} {category : Category}
  {entries : List (String × Targets)}

theorem mem_flatMap_updateIn_add : e ∈ (updateIn source (·.add category target) entries).flatMap row ↔
    e = ⟨source, target, category⟩ ∨ e ∈ entries.flatMap row := by
  have hnew : ∀ t : Targets, e ∈ row (source, t.add category target) ↔
      e = ⟨source, target, category⟩ ∨ e ∈ row (source, t) := by
    intro t
    rw [mem_row, mem_row, Targets.mem_add]
    cases e
    simp only [Dependency.mk.injEq]
    constructor
    · rintro ⟨rfl, ⟨rfl, rfl⟩ | ht⟩
      · exact Or.inl ⟨rfl, rfl, rfl⟩
      · exact Or.inr ⟨rfl, ht⟩
    · rintro (⟨rfl, rfl, rfl⟩ | ⟨rfl, ht⟩)
      · exact ⟨rfl, Or.inl ⟨rfl, rfl⟩⟩
      · exact ⟨rfl, Or.inr ht⟩
  induction entries with
  | nil =>
    have hnone : e ∉ row (source, .empty) := by simp [mem_row, Targets.get_empty]
    simp [updateIn, hnew, hnone]
  | cons entry rest ih =>
    unfold updateIn
    split
    · rename_i hid
      cases entry
      cases hid
      rw [List.flatMap_cons, List.flatMap_cons, List.mem_append, List.mem_append, hnew, or_assoc]
    · rw [List.flatMap_cons, List.flatMap_cons, List.mem_append, List.mem_append]
      exact (or_congr_right ih).trans or_left_comm

/-- Recording a dependency adds it. -/
theorem mem_edges_record : e ∈ (m.record source target category).edges ↔ e = ⟨source, target, category⟩ ∨ e ∈ m.edges :=
  mem_flatMap_updateIn_add

/-- Mentioning a resource adds no dependency. -/
theorem mem_edges_touch : e ∈ (m.touch id).edges ↔ e ∈ m.edges := by
  have hupdate : ∀ entries : List (String × Targets),
      e ∈ (updateIn id (fun t => t) entries).flatMap row ↔ e ∈ entries.flatMap row := by
    intro entries
    induction entries with
    | nil => simp [updateIn, mem_row, Targets.get_empty]
    | cons entry rest ih =>
      unfold updateIn
      split
      · exact Iff.rfl
      · rw [List.flatMap_cons, List.flatMap_cons, List.mem_append, List.mem_append, ih]
  exact hupdate m.entries

/-! ## Passes -/

section Passes
variable {β : Type} {step : DependencyMap → β → DependencyMap} {b : β} {bs : List β}

/-- A pass keeps a dependency if each of its steps does. -/
theorem mem_edges_foldl (hkeep : ∀ m b, e ∈ m.edges → e ∈ (step m b).edges) (h : e ∈ m.edges) :
    e ∈ (bs.foldl step m).edges :=
  List.foldlRecOn bs step h fun m hm b _ => hkeep m b hm

/-- A dependency that one step of a pass records, whatever the map, is there in the end if all steps keep it. -/
theorem mem_edges_foldl_of_mem (hkeep : ∀ m b, e ∈ m.edges → e ∈ (step m b).edges)
    (hrecord : ∀ m, e ∈ (step m b).edges) (hb : b ∈ bs) : e ∈ (bs.foldl step m).edges := by
  obtain ⟨front, back, rfl⟩ := List.append_of_mem hb
  rw [List.foldl_append, List.foldl_cons]
  exact mem_edges_foldl hkeep (hrecord _)

/-- The dependencies behind a pass are those in front of it and those that one of its steps adds. -/
theorem mem_edges_foldl_iff {Adds : β → Prop} (hstep : ∀ m b, e ∈ (step m b).edges ↔ e ∈ m.edges ∨ Adds b) :
    e ∈ (bs.foldl step m).edges ↔ e ∈ m.edges ∨ ∃ b ∈ bs, Adds b := by
  induction bs generalizing m with
  | nil => simp
  | cons b bs ih => simp [ih, hstep, or_assoc]

end Passes

end Changes

end DependencyMap

end ResourceGraph
