import ResourceGraph.Proofs.Dependency.Symbols
import ResourceGraph.Proofs.Registry

/-! # The order of first encounter

A registry and a dependency map both list resources in the order in which they first met them. For the map
that is plain: whatever a pass over blocks records, it puts the resource of a block at the end unless it stands
there already. A registry looks at the kind of a declaration as well, and a resource at an address that another
kind took first never joins the order. What joins it at all still does so in the order of first encounter. -/

namespace ResourceGraph
open Sorted SourceFile

/-! ## Names at the end of a list -/

section Names
variable {names new : List String} {name x : String}

/-- A list after some names are put at its end in turn, each unless it stands there already. -/
def appendAll (names new : List String) : List String := new.foldl appendNew names

theorem appendAll_cons : appendAll names (name :: new) = appendAll (appendNew names name) new := rfl

theorem appendAll_append {more : List String} : appendAll names (new ++ more) = appendAll (appendAll names new) more :=
  List.foldl_append

theorem appendNew_of_mem (h : name ∈ names) : appendNew names name = names := if_pos h

theorem appendNew_of_not_mem (h : name ∉ names) : appendNew names name = names ++ [name] := if_neg h

theorem mem_appendNew : x ∈ appendNew names name ↔ x ∈ names ∨ x = name := by
  by_cases h : name ∈ names
  · rw [appendNew_of_mem h]
    exact ⟨Or.inl, fun hx => hx.elim id fun heq => heq ▸ h⟩
  · rw [appendNew_of_not_mem h, List.mem_append, List.mem_singleton]

theorem mem_appendAll : x ∈ appendAll names new ↔ x ∈ names ∨ x ∈ new := by
  induction new generalizing names with
  | nil => simp [appendAll]
  | cons name new ih =>
    rw [appendAll_cons, ih, mem_appendNew, List.mem_cons, or_assoc]

/-- Putting names at the end of a list that was itself put together so is putting all of them there. -/
theorem appendAll_appendAll {more : List String} :
    appendAll names (appendAll new more) = appendAll (appendAll names new) more := by
  have step : ∀ new name, appendAll names (appendNew new name) = appendNew (appendAll names new) name := by
    intro new name
    by_cases h : name ∈ new
    · rw [appendNew_of_mem h, appendNew_of_mem (mem_appendAll.mpr (Or.inr h))]
    · rw [appendNew_of_not_mem h, appendAll_append]
      rfl
  induction more generalizing new with
  | nil => rfl
  | cons name more ih =>
    rw [appendAll_cons, ih, step, appendAll_cons]

theorem nodup_appendAll (h : names.Nodup) : (appendAll names new).Nodup := by
  induction new generalizing names with
  | nil => exact h
  | cons name new ih =>
    refine ih ?_
    by_cases hname : name ∈ names
    · rw [appendNew_of_mem hname]
      exact h
    · rw [appendNew_of_not_mem hname]
      grind

/-- What is put at the end are the names that did not stand there, each once. -/
theorem exists_appendAll (names new : List String) :
    ∃ added, appendAll names new = names ++ added ∧ added.Nodup ∧ ∀ x, x ∈ added ↔ x ∈ new ∧ x ∉ names := by
  induction new generalizing names with
  | nil => exact ⟨[], (List.append_nil _).symm, List.nodup_nil, by simp⟩
  | cons name new ih =>
    rw [appendAll_cons]
    by_cases hname : name ∈ names
    · rw [appendNew_of_mem hname]
      obtain ⟨added, happend, hnodup, hadded⟩ := ih names
      refine ⟨added, happend, hnodup, fun x => ?_⟩
      rw [hadded]
      grind
    · rw [appendNew_of_not_mem hname]
      obtain ⟨added, happend, hnodup, hadded⟩ := ih (names ++ [name])
      refine ⟨name :: added, ?_, List.nodup_cons.mpr ⟨fun hmem => ?_, hnodup⟩, fun x => ?_⟩
      · rw [happend, List.append_assoc, List.singleton_append]
      · exact ((hadded name).mp hmem).2 (List.mem_append_right _ (List.mem_singleton_self name))
      · rw [List.mem_cons, hadded]
        grind

theorem filter_appendNew {p : String → Bool} :
    (appendNew names name).filter p = if p name then appendNew (names.filter p) name else names.filter p := by
  by_cases hname : name ∈ names
  · rw [appendNew_of_mem hname]
    split
    · rename_i hp
      rw [appendNew_of_mem (List.mem_filter.mpr ⟨hname, hp⟩)]
    · rfl
  · have hfilter : name ∉ names.filter p := fun hmem => hname (List.mem_filter.mp hmem).1
    rw [appendNew_of_not_mem hname, appendNew_of_not_mem hfilter, List.filter_append, List.filter_cons,
      List.filter_nil]
    split
    · rfl
    · rw [List.append_nil]

/-- Names of one kind are met in the same order whether or not the others are left out. -/
theorem filter_appendAll {p : String → Bool} :
    (appendAll names new).filter p = appendAll (names.filter p) (new.filter p) := by
  induction new generalizing names with
  | nil => rfl
  | cons name new ih =>
    rw [appendAll_cons, ih, filter_appendNew]
    by_cases hp : p name = true
    · rw [if_pos hp, List.filter_cons_of_pos hp]
      rfl
    · rw [if_neg hp, List.filter_cons_of_neg hp]

end Names

/-! ## Registries -/

/-- The addresses of the resources among some declarations. -/
def resourceAddresses (ds : List Declaration) : List String :=
  (ds.filter fun d => d.kind = .resource).map Declaration.id

theorem resourceAddresses_cons {d : Declaration} {ds : List Declaration} : resourceAddresses (d :: ds) =
    if d.kind = .resource then d.id :: resourceAddresses ds else resourceAddresses ds := by
  unfold resourceAddresses
  by_cases h : d.kind = .resource <;> simp [h]

theorem resourceAddresses_append {ds es : List Declaration} :
    resourceAddresses (ds ++ es) = resourceAddresses ds ++ resourceAddresses es := by
  simp [resourceAddresses]

theorem resourceAddresses_eq_nil {ds : List Declaration} (h : ∀ d ∈ ds, d.kind ≠ .resource) :
    resourceAddresses ds = [] := by
  have hnone : ds.filter (fun d => d.kind = .resource) = [] :=
    List.filter_eq_nil_iff.mpr fun d hd => by simpa using h d hd
  rw [resourceAddresses, hnone, List.map_nil]

namespace Registry
variable {r : Registry} {d : Declaration} {id : String}

/-- At an address that is taken, whether it is one of a resource is settled for good. -/
theorem mem_order_insertAll (h : r.contains id = true) (ds : List Declaration) :
    id ∈ (r.insertAll ds).order ↔ id ∈ r.order := by
  induction ds generalizing r with
  | nil => exact Iff.rfl
  | cons d ds ih =>
    have hrest : id ∈ (r.insertAll (d :: ds)).order ↔ id ∈ (r.insert d).order :=
      ih (contains_insert.mpr (Or.inr h))
    refine hrest.trans ?_
    unfold Registry.insert
    dsimp only
    split
    · rename_i hnew
      have hne : id ≠ d.id := fun heq => by simp [← heq, h] at hnew
      simp [hne]
    · exact Iff.rfl

/-- One declaration adds to the order what is met first, if it is that of a resource and is let in. -/
theorem order_insert (h : r.Listed) : (r.insert d).order =
    if d.kind = .resource ∧ d.id ∈ (r.insert d).order then appendNew r.order d.id else r.order := by
  by_cases hkind : d.kind = .resource
  · by_cases hknown : r.contains d.id = true
    · have horder : (r.insert d).order = r.order := by simp [Registry.insert, hknown]
      rw [horder]
      split
      · rename_i hmem
        rw [appendNew_of_mem hmem.2]
      · rfl
    · have horder : (r.insert d).order = r.order ++ [d.id] := by simp [Registry.insert, hkind, hknown]
      have habsent : d.id ∉ r.order := fun hmem => hknown (h.contains _ hmem)
      simp [horder, hkind, appendNew_of_not_mem habsent]
  · simp [Registry.insert, hkind]

/-- The order of a registry is that of the first encounter with each resource that it lists. -/
theorem order_insertAll (h : r.Listed) (ds : List Declaration) : (r.insertAll ds).order =
    appendAll r.order ((resourceAddresses ds).filter (· ∈ (r.insertAll ds).order)) := by
  induction ds generalizing r with
  | nil => rfl
  | cons d ds ih =>
    have hlast : d.id ∈ (r.insertAll (d :: ds)).order ↔ d.id ∈ (r.insert d).order :=
      mem_order_insertAll (contains_insert.mpr (Or.inl rfl)) ds
    have hrest : (r.insertAll (d :: ds)).order = appendAll (r.insert d).order
        ((resourceAddresses ds).filter (· ∈ (r.insertAll (d :: ds)).order)) := ih (h.insert d)
    refine hrest.trans ?_
    rw [order_insert h, resourceAddresses_cons]
    by_cases hkind : d.kind = .resource
    · by_cases hin : d.id ∈ (r.insertAll (d :: ds)).order
      · rw [if_pos ⟨hkind, hlast.mp hin⟩, if_pos hkind, List.filter_cons_of_pos (by simpa using hin)]
        rfl
      · rw [if_neg fun hboth => hin (hlast.mpr hboth.2), if_pos hkind, List.filter_cons_of_neg (by simpa using hin)]
    · rw [if_neg fun hboth => hkind hboth.1, if_neg hkind]

end Registry

/-! ## Dependency maps -/

namespace DependencyMap
variable {m : DependencyMap} {id source target : String} {category : Category}

theorem map_fst_updateIn {change : Targets → Targets} {entries : List (String × Targets)} :
    (updateIn id change entries).map Prod.fst = appendNew (entries.map Prod.fst) id := by
  induction entries with
  | nil => rfl
  | cons entry rest ih =>
    unfold updateIn
    by_cases hid : entry.1 = id
    · rw [if_pos hid, appendNew_of_mem (by simp [hid])]
      rfl
    · rw [if_neg hid, List.map_cons, ih, List.map_cons]
      by_cases hrest : id ∈ rest.map Prod.fst
      · rw [appendNew_of_mem hrest, appendNew_of_mem (List.mem_cons_of_mem _ hrest)]
      · have habsent : id ∉ entry.1 :: rest.map Prod.fst := by
          rintro (_ | ⟨_, hmem⟩)
          · exact hid rfl
          · exact hrest hmem
        rw [appendNew_of_not_mem hrest, appendNew_of_not_mem habsent, List.cons_append]

theorem ids_touch : (m.touch id).ids = appendNew m.ids id := map_fst_updateIn

theorem ids_record : (m.record source target category).ids = appendNew m.ids source := map_fst_updateIn

/-- What is recorded of a resource that was met before leaves the list of resources as it is. -/
theorem ids_record_of_mem (h : source ∈ m.ids) : (m.record source target category).ids = m.ids :=
  ids_record.trans (appendNew_of_mem h)

theorem mem_ids_touch : id ∈ (m.touch id).ids := by
  rw [ids_touch]
  exact mem_appendNew.mpr (Or.inr rfl)

/-- Recording many things of a resource that was met before leaves the list of resources as it is. -/
theorem ids_foldl_of_mem {β : Type} {step : DependencyMap → β → DependencyMap}
    (h : ∀ m b, source ∈ m.ids → (step m b).ids = m.ids) (hm : source ∈ m.ids) (bs : List β) :
    (bs.foldl step m).ids = m.ids := by
  induction bs generalizing m with
  | nil => rfl
  | cons b bs ih =>
    have hstep := h m b hm
    exact (ih (hstep ▸ hm)).trans hstep

/-- A pass that adds a name for each block with some property adds their names in turn. -/
theorem ids_foldl {β : Type} {step : DependencyMap → β → DependencyMap} {p : β → Bool} {name : β → String}
    (h : ∀ m b, (step m b).ids = if p b then appendNew m.ids (name b) else m.ids) (bs : List β) :
    (bs.foldl step m).ids = appendAll m.ids ((bs.filter p).map name) := by
  induction bs generalizing m with
  | nil => rfl
  | cons b bs ih =>
    rw [List.foldl_cons, ih, h]
    by_cases hb : p b = true
    · rw [if_pos hb, List.filter_cons_of_pos hb]
      rfl
    · rw [if_neg hb, List.filter_cons_of_neg hb]

end DependencyMap

namespace Resolver
open DependencyMap
variable {r : Resolver} {m : DependencyMap} {id source : String}

theorem isResource_eq (hk : r.registry.Keyed) (hl : r.registry.Listed) :
    r.isResource id = decide (id ∈ r.registry.resourceIds) := by
  rw [← hk.map_id_resources hl, Bool.eq_iff_iff, isResource_iff_exists]
  simp

theorem isResource_iff (h : r.registry.Built) : r.isResource id = true ↔ id ∈ r.registry.resourceIds := by
  rw [isResource_eq h.keyed h.listed, decide_eq_true_eq]

theorem ids_link {ref : Reference} (h : source ∈ m.ids) : (r.link source m ref).ids = m.ids := by
  unfold link
  split
  · rfl
  · split
    · exact ids_record_of_mem h
    · rfl

theorem ids_addBlock (m : DependencyMap) (block : ResourceBlock) :
    (r.addBlock m block).ids = if r.isResource block.id then appendNew m.ids block.id else m.ids := by
  unfold addBlock
  split
  · have touched : block.id ∈ (m.touch block.id).ids := mem_ids_touch
    have spelled : ((Reference.findIn block.text).foldl (r.link block.id) (m.touch block.id)).ids =
        (m.touch block.id).ids := ids_foldl_of_mem (fun _ _ => ids_link) touched _
    rw [ids_foldl_of_mem (fun _ _ => ids_record_of_mem) (spelled ▸ touched), spelled, ids_touch]
  · rfl

theorem ids_addParsed (m : DependencyMap) (block : ParsedBlock) :
    (r.addParsed m block).ids =
      if r.isResource block.address && decide (block.kind = .resource) then appendNew m.ids block.address
      else m.ids := by
  unfold addParsed
  by_cases h : block.kind = .resource ∧ r.isResource block.address = true
  · rw [if_pos h, ids_foldl_of_mem (fun _ _ => ids_link) mem_ids_touch, ids_touch]
    simp [h]
  · rw [if_neg h, if_neg (by simpa [and_comm] using h)]

/-- The addresses of the resources among the blocks of some files. -/
def blockAddresses (files : List SourceFile) : List String :=
  (files.flatMap fun f => resourceBlocks f.chars).map (·.id)

/-- The addresses of the resources among some parsed blocks. -/
def parsedAddresses (parsed : List ParsedFile) : List String :=
  ((parsed.flatMap (·.blocks)).filter (·.kind = .resource)).map (·.address)

theorem ids_resolve (r : Resolver) (files : List SourceFile) :
    (r.resolve files).ids = appendAll [] ((blockAddresses files).filter r.isResource) := by
  rw [blockAddresses, List.filter_map]
  exact ids_foldl ids_addBlock _

/-- Parsed blocks add the resources that were not met before. -/
theorem ids_resolveParsed_append (r : Resolver) (m : DependencyMap) (parsed : List ParsedFile) :
    (r.resolveParsed m parsed).ids = appendAll m.ids ((parsedAddresses parsed).filter r.isResource) := by
  rw [parsedAddresses, List.filter_map, List.filter_filter]
  exact ids_foldl ids_addParsed _

/-- Resolving files and then parsed blocks meets their resources in that order. -/
theorem ids_resolveParsed (r : Resolver) (files : List SourceFile) (parsed : List ParsedFile) :
    (r.resolveParsed (r.resolve files) parsed).ids =
      appendAll [] ((blockAddresses files ++ parsedAddresses parsed).filter r.isResource) := by
  rw [ids_resolveParsed_append, ids_resolve, List.filter_append, appendAll_append]

end Resolver

end ResourceGraph
