import ResourceGraph.Registry
import ResourceGraph.Proofs.Ascending

/-! # Registries

A registry that was built by declaring one thing after another, and by taking in other such registries, keeps
each declaration under its own address. What it lists is therefore declared at the address that it gives.
No declaration is ever removed, so every address in the order of resources stays declared, and none stands
there twice. -/

namespace ResourceGraph
open Sorted

namespace Registry
variable {r other : Registry} {d : Declaration} {id : String}

/-- A registry that was built from the empty one. -/
inductive Built : Registry → Prop where
  | empty : Built .empty
  | insert {r : Registry} : Built r → ∀ d, Built (r.insert d)
  | extend {r other : Registry} : Built r → Built other → Built (r.extend other)

theorem Built.insertAll (h : r.Built) (ds : List Declaration) : (r.insertAll ds).Built := by
  induction ds generalizing r with
  | nil => exact h
  | cons d ds ih => exact ih (h.insert d)

/-- Every declaration is kept under its address. -/
def Keyed (r : Registry) : Prop := ∀ entry ∈ r.table, entry.2.id = entry.1

theorem Keyed.insert (h : r.Keyed) (d : Declaration) : (r.insert d).Keyed := by
  intro entry hentry
  rcases mem_upsert_of hentry with rfl | hentry
  · rfl
  · exact h entry hentry

theorem Keyed.insertAll (h : r.Keyed) (ds : List Declaration) : (r.insertAll ds).Keyed := by
  induction ds generalizing r with
  | nil => exact h
  | cons d ds ih => exact ih (h.insert d)

theorem Built.keyed (h : r.Built) : r.Keyed := by
  induction h with
  | empty => exact fun _ hentry => absurd hentry List.not_mem_nil
  | insert _ d ih => exact ih.insert d
  | extend _ _ ih _ => exact ih.insertAll _

theorem Keyed.id_of_get? (h : r.Keyed) (hget : r.get? id = some d) : d.id = id := by
  obtain ⟨entry, hfind, rfl⟩ := Option.map_eq_some_iff.mp hget
  obtain ⟨hmem, hkey⟩ := find?_eq_some_mem hfind
  exact (h entry hmem).trans hkey

theorem contains_iff : r.contains id = true ↔ ∃ d, r.get? id = some d := Option.isSome_iff_exists

/-- A declaration that a registry lists is declared at its address. -/
theorem Keyed.contains_of_mem (h : r.Keyed) (hd : d ∈ r.declarations) : r.contains d.id = true := by
  obtain ⟨entry, hentry, rfl⟩ := List.mem_map.mp hd
  obtain ⟨found, hfound⟩ : ∃ found, find? Prod.fst entry.1 r.table = some found := exists_find?_of_mem hentry
  rw [h entry hentry]
  exact contains_iff.mpr ⟨found.2, Option.map_eq_some_iff.mpr ⟨found, hfound, rfl⟩⟩

/-- A resource that a registry lists is what it holds at the address of a resource. -/
theorem Keyed.of_mem_resources (h : r.Keyed) (hd : d ∈ r.resources) : d.id ∈ r.resourceIds ∧ r.get? d.id = some d := by
  obtain ⟨id, hid, hget⟩ := List.mem_filterMap.mp hd
  rw [h.id_of_get? hget]
  exact ⟨hid, hget⟩

/-! ## The order of resources -/

theorem get?_insert : (r.insert d).get? id = if id = d.id then some d else r.get? id := Table.find?_insert

theorem contains_insert : (r.insert d).contains id = true ↔ id = d.id ∨ r.contains id = true := by
  unfold contains
  rw [get?_insert]
  split
  · rename_i hid
    simp [hid]
  · rename_i hid
    simp [hid]

/-- The order of resources lists no address twice, and only addresses at which something is declared. -/
structure Listed (r : Registry) : Prop where
  nodup : r.order.Nodup
  contains : ∀ id ∈ r.order, r.contains id = true

theorem Listed.empty : Registry.empty.Listed :=
  ⟨List.nodup_nil, fun _ hid => absurd hid List.not_mem_nil⟩

theorem Listed.insert (h : r.Listed) (d : Declaration) : (r.insert d).Listed := by
  have kept : ∀ id ∈ r.order, (r.insert d).contains id = true := fun id hid =>
    contains_insert.mpr (Or.inr (h.contains id hid))
  by_cases hnew : d.kind = .resource ∧ !r.contains d.id
  · have horder : (r.insert d).order = r.order ++ [d.id] := if_pos hnew
    have habsent : d.id ∉ r.order := fun hid => by simp [h.contains _ hid] at hnew
    constructor
    · rw [horder]
      grind [h.nodup]
    · intro id hid
      rw [horder] at hid
      rcases List.mem_append.mp hid with hid | hid
      · exact kept id hid
      · exact contains_insert.mpr (Or.inl (List.mem_singleton.mp hid))
  · have horder : (r.insert d).order = r.order := if_neg hnew
    constructor
    · rw [horder]
      exact h.nodup
    · rw [horder]
      exact kept

theorem Listed.insertAll (h : r.Listed) (ds : List Declaration) : (r.insertAll ds).Listed := by
  induction ds generalizing r with
  | nil => exact h
  | cons d ds ih => exact ih (h.insert d)

theorem Built.listed (h : r.Built) : r.Listed := by
  induction h with
  | empty => exact .empty
  | insert _ d ih => exact ih.insert d
  | extend _ _ ih _ => exact ih.insertAll _

/-- The resources of a registry are declared at the addresses of resources, one at each. -/
theorem Keyed.map_id_resources (hk : r.Keyed) (hl : r.Listed) : r.resources.map Declaration.id = r.resourceIds := by
  have each : ∀ ids : List String, (∀ id ∈ ids, r.contains id = true) →
      (ids.filterMap r.get?).map Declaration.id = ids := by
    intro ids hids
    induction ids with
    | nil => rfl
    | cons id ids ih =>
      obtain ⟨d, hget⟩ := contains_iff.mp (hids id List.mem_cons_self)
      rw [List.filterMap_cons_some hget, List.map_cons, hk.id_of_get? hget,
        ih fun other hother => hids other (List.mem_cons_of_mem _ hother)]
  exact each r.order hl.contains

end Registry

end ResourceGraph
