import ResourceGraph.Dependency.Resolve
import ResourceGraph.Proofs.Ascending

/-! # The table of symbols

The table is filled once, with the resources of a registry and then with its declarations of other kinds. What an
address or a type gives when it is looked up there is what a search through the registry gives. -/

namespace ResourceGraph
open Sorted

namespace SymbolTable
variable {t : SymbolTable} {registry : Registry} {ds : List Declaration} {kinds : List Kind} {id type : String}

/-! ## Filling the table -/

theorem mem_resources_foldl_addResource :
    id ∈ (ds.foldl addResource t).resources ↔ id ∈ t.resources ∨ ∃ d ∈ ds, d.id = id := by
  have hfold : (ds.foldl addResource t).resources = ds.foldl (fun names d => names.insert d.id) t.resources := by
    induction ds generalizing t with
    | nil => rfl
    | cons d ds ih => exact ih
  rw [hfold]
  exact Names.mem_foldl_insert

/-- The resources of a type are put behind one another in the order in which they are added. -/
theorem byType_foldl_addResource : ((ds.foldl addResource t).byType.find? type).getD [] =
    (t.byType.find? type).getD [] ++ (ds.filter fun d => d.type = type).map Declaration.id := by
  induction ds generalizing t with
  | nil => exact (List.append_nil _).symm
  | cons d ds ih =>
    have hadd : ((t.addResource d).byType.find? type).getD [] =
        (t.byType.find? type).getD [] ++ if d.type = type then [d.id] else [] := by
      have hbyType : (t.addResource d).byType = alter d.type [] (fun ids => ids ++ [d.id]) t.byType := rfl
      rw [hbyType, Table.find?, value?_alter, Table.find?]
      by_cases htype : type = d.type
      · simp [htype]
      · simp [htype, Ne.symm htype]
    rw [List.foldl_cons, ih, hadd, List.append_assoc, List.filter_cons]
    congr 1
    by_cases htype : d.type = type <;> simp [htype]

theorem others_foldl_addResource : (ds.foldl addResource t).others = t.others := by
  induction ds generalizing t with
  | nil => rfl
  | cons d ds ih => exact ih

/-- Other kinds change neither the resources nor their types. -/
theorem foldl_addKind_resources : (kinds.foldl (addKind registry) t).resources = t.resources ∧
    (kinds.foldl (addKind registry) t).byType = t.byType := by
  induction kinds generalizing t with
  | nil => exact ⟨rfl, rfl⟩
  | cons kind kinds ih => exact ih

theorem mem_others_foldl_addKind : id ∈ (kinds.foldl (addKind registry) t).others ↔
    id ∈ t.others ∨ ∃ d ∈ registry.declarations, d.kind ∈ kinds ∧ d.id = id := by
  induction kinds generalizing t with
  | nil => simp
  | cons kind kinds ih =>
    have hadd : id ∈ (addKind registry t kind).others ↔
        id ∈ t.others ∨ ∃ d ∈ registry.declarations, d.kind = kind ∧ d.id = id := by
      refine Names.mem_foldl_insert.trans (or_congr_right ?_)
      simp [Registry.ofKind, and_assoc]
    rw [List.foldl_cons, ih, hadd, or_assoc, ← exists_or]
    refine or_congr_right (exists_congr fun d => ?_)
    rw [← and_or_left, ← or_and_right, List.mem_cons]

/-! ## The table of a registry -/

theorem mem_resources_build : id ∈ (build registry).resources ↔ ∃ d ∈ registry.resources, d.id = id := by
  rw [build, foldl_addKind_resources.1, mem_resources_foldl_addResource]
  exact or_iff_right List.not_mem_nil

theorem byType_build : ((build registry).byType.find? type).getD [] =
    (registry.resources.filter fun d => d.type = type).map Declaration.id := by
  rw [build, foldl_addKind_resources.2, byType_foldl_addResource]
  rfl

theorem mem_others_build : id ∈ (build registry).others ↔
    ∃ d ∈ registry.declarations, d.kind ∈ targetKinds ∧ d.id = id := by
  rw [build, mem_others_foldl_addKind, others_foldl_addResource]
  exact or_iff_right List.not_mem_nil

end SymbolTable

/-! ## Looking up and searching -/

namespace Resolver
variable {r : Resolver} {id type : String}

theorem isResource_iff_exists : r.isResource id = true ↔ ∃ d ∈ r.registry.resources, d.id = id := by
  rw [isResource, List.contains_iff_mem, symbols, r.indexed.built]
  exact SymbolTable.mem_resources_build

theorem isTarget_iff_exists : r.isTarget id = true ↔
    r.isResource id = true ∨ ∃ d ∈ r.registry.declarations, d.kind ∈ SymbolTable.targetKinds ∧ d.id = id := by
  rw [isTarget, Bool.or_eq_true_iff, List.contains_iff_mem, symbols, r.indexed.built]
  exact or_congr_right SymbolTable.mem_others_build

theorem resourcesOfType_eq (type : String) :
    r.resourcesOfType type = (r.registry.resources.filter fun d => d.type = type).map Declaration.id := by
  rw [resourcesOfType, symbols, r.indexed.built]
  exact SymbolTable.byType_build

end Resolver

end ResourceGraph
