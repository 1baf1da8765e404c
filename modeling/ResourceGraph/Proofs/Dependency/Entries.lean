import Mathlib.Data.List.Nodup
import ResourceGraph.Proofs.Dependency.Blocks
import ResourceGraph.Proofs.Encounter

/-! # Entries of a map

In a map that was built by mentioning resources and recording dependencies, each resource has one entry, and the
targets of each category ascend in it. Such a map is determined by the order of its resources and by the set of
its dependencies. What is resolved from files and parsed blocks is therefore the same in whatever order they are
taken, and however often: only the order of the entries can differ. -/

namespace ResourceGraph
open Sorted

/-! ## Targets -/

namespace Targets
variable {t t' : Targets} {c : Category} {x : String}

/-- The targets of each category ascend. -/
def Ordered (t : Targets) : Prop := ∀ c, Ascending id (t.get c)

theorem ordered_empty : empty.Ordered := by
  intro c
  rw [get_empty]
  exact .nil

theorem get_add : (t.add c x).get c' = if c' = c then (t.get c').insert x else t.get c' := by
  cases c <;> cases c' <;> rfl

theorem Ordered.add (h : t.Ordered) (c : Category) (x : String) : (t.add c x).Ordered := by
  intro c'
  rw [get_add]
  split
  · exact (h c').upsert x
  · exact h c'

theorem Ordered.nodup (h : t.Ordered) (c : Category) : (t.get c).Nodup := by
  simpa using (h c).nodup_keys

/-- Ordered targets are determined by the members of each category. -/
theorem Ordered.eq_of_mem_iff (h : t.Ordered) (h' : t'.Ordered) (hmem : ∀ c x, x ∈ t.get c ↔ x ∈ t'.get c) : t = t' := by
  have each : ∀ c, t.get c = t'.get c := fun c => (h c).eq_of_mem_iff (h' c) (hmem c)
  cases t
  cases t'
  simp only [mk.injEq]
  exact ⟨each .resource, each .module, each .variable, each .output, each .implicit⟩

theorem mem_combined : x ∈ t.combined ↔ ∃ c, x ∈ t.get c := by
  have hall : ∀ c, c ∈ Category.all := by
    intro c
    cases c <;> decide
  unfold combined
  rw [Names.mem_ofList, List.mem_flatMap]
  exact ⟨fun ⟨c, _, hx⟩ => ⟨c, hx⟩, fun ⟨c, hx⟩ => ⟨c, hall c, hx⟩⟩

end Targets

/-! ## Ordered maps -/

namespace DependencyMap
variable {m m' : DependencyMap} {id source target x : String} {category c : Category} {t : Targets} {e : Dependency}
  {entry : String × Targets} {entries : List (String × Targets)}

/-- Each resource has one entry, and its targets are ordered. -/
structure Ordered (m : DependencyMap) : Prop where
  nodup : m.ids.Nodup
  targets : ∀ entry ∈ m.entries, entry.2.Ordered

theorem Ordered.empty : DependencyMap.empty.Ordered :=
  ⟨List.nodup_nil, fun _ hentry => absurd hentry List.not_mem_nil⟩

theorem mem_updateIn_of {change : Targets → Targets} (h : entry ∈ updateIn id change entries) :
    entry ∈ entries ∨ ∃ t, entry = (id, change t) ∧ (t = .empty ∨ (id, t) ∈ entries) := by
  induction entries with
  | nil =>
    obtain rfl := List.mem_singleton.mp h
    exact Or.inr ⟨.empty, rfl, Or.inl rfl⟩
  | cons first rest ih =>
    unfold updateIn at h
    split at h
    · rename_i hid
      subst hid
      rcases List.mem_cons.mp h with rfl | h
      · exact Or.inr ⟨first.2, rfl, Or.inr List.mem_cons_self⟩
      · exact Or.inl (List.mem_cons_of_mem _ h)
    · rcases List.mem_cons.mp h with rfl | h
      · exact Or.inl List.mem_cons_self
      · rcases ih h with hrest | ⟨t, hentry, ht⟩
        · exact Or.inl (List.mem_cons_of_mem _ hrest)
        · exact Or.inr ⟨t, hentry, ht.imp_right (List.mem_cons_of_mem _)⟩

theorem Ordered.update {change : Targets → Targets} (h : m.Ordered) (hchange : ∀ t, t.Ordered → (change t).Ordered)
    (id : String) : Ordered ⟨updateIn id change m.entries⟩ := by
  constructor
  · have hids : (updateIn id change m.entries).map Prod.fst = appendAll m.ids [id] := map_fst_updateIn
    unfold ids
    rw [hids]
    exact nodup_appendAll h.nodup
  · intro entry hentry
    rcases mem_updateIn_of hentry with hentry | ⟨t, rfl, rfl | ht⟩
    · exact h.targets entry hentry
    · exact hchange _ Targets.ordered_empty
    · exact hchange t (h.targets _ ht)

theorem Ordered.touch (h : m.Ordered) (id : String) : (m.touch id).Ordered := h.update (fun _ ht => ht) id

theorem Ordered.record (h : m.Ordered) (source target : String) (category : Category) :
    (m.record source target category).Ordered :=
  h.update (fun _ ht => ht.add category target) source

/-! ### What determines a map -/

theorem Ordered.get?_eq_some (h : m.Ordered) : m.get? id = some t ↔ (id, t) ∈ m.entries := by
  unfold DependencyMap.get?
  rw [Option.map_eq_some_iff]
  constructor
  · rintro ⟨entry, hfind, rfl⟩
    have hid : entry.1 = id := by simpa using List.find?_some hfind
    rw [← hid]
    exact List.mem_of_find?_eq_some hfind
  · intro hentry
    obtain ⟨found, hfound⟩ : ∃ found, m.entries.find? (fun entry => entry.1 = id) = some found :=
      Option.isSome_iff_exists.mp (List.find?_isSome.mpr ⟨(id, t), hentry, by simp⟩)
    have hid : found.1 = id := by simpa using List.find?_some hfound
    have heq : found = (id, t) :=
      List.inj_on_of_nodup_map h.nodup (List.mem_of_find?_eq_some hfound) hentry hid
    exact ⟨found, hfound, congrArg Prod.snd heq⟩

theorem mem_ids : id ∈ m.ids ↔ ∃ t, (id, t) ∈ m.entries := by
  unfold ids
  rw [List.mem_map]
  constructor
  · rintro ⟨entry, hentry, rfl⟩
    exact ⟨entry.2, hentry⟩
  · rintro ⟨t, ht⟩
    exact ⟨(id, t), ht, rfl⟩

theorem mem_edges : e ∈ m.edges ↔ ∃ t, (e.source, t) ∈ m.entries ∧ e.target ∈ t.get e.category := by
  have hrows : e ∈ m.edges ↔ ∃ entry ∈ m.entries, e ∈ row entry := List.mem_flatMap
  rw [hrows]
  constructor
  · rintro ⟨entry, hentry, he⟩
    obtain ⟨hsource, htarget⟩ := mem_row.mp he
    rw [hsource]
    exact ⟨entry.2, hentry, htarget⟩
  · rintro ⟨t, hentry, htarget⟩
    exact ⟨(e.source, t), hentry, mem_row.mpr ⟨rfl, htarget⟩⟩

theorem Ordered.mem_get_iff (h : m.Ordered) (ht : (id, t) ∈ m.entries) : x ∈ t.get c ↔ ⟨id, x, c⟩ ∈ m.edges := by
  rw [mem_edges]
  refine ⟨fun hx => ⟨t, ht, hx⟩, ?_⟩
  rintro ⟨t', ht', hx⟩
  have hsame : some t' = some t := (h.get?_eq_some.mpr ht').symm.trans (h.get?_eq_some.mpr ht)
  cases hsame
  exact hx

/-- What a resource depends on; nothing if it has no entry. -/
def targetsOf (m : DependencyMap) (id : String) : Targets := (m.get? id).getD .empty

theorem Ordered.targetsOf (h : m.Ordered) (id : String) : (m.targetsOf id).Ordered := by
  unfold DependencyMap.targetsOf
  cases hget : m.get? id with
  | none => exact Targets.ordered_empty
  | some t => exact h.targets _ (h.get?_eq_some.mp hget)

theorem Ordered.mem_targetsOf (h : m.Ordered) : x ∈ (m.targetsOf id).get c ↔ ⟨id, x, c⟩ ∈ m.edges := by
  unfold DependencyMap.targetsOf
  cases hget : m.get? id with
  | none =>
    rw [Option.getD_none, Targets.get_empty]
    refine ⟨fun hx => absurd hx List.not_mem_nil, fun hedge => ?_⟩
    obtain ⟨t, ht, -⟩ := mem_edges.mp hedge
    cases hget.symm.trans (h.get?_eq_some.mpr ht)
  | some t => exact h.mem_get_iff (h.get?_eq_some.mp hget)

/-- The entry of a resource is determined by its dependencies. -/
theorem Ordered.get?_congr (h : m.Ordered) (h' : m'.Ordered) (hids : id ∈ m.ids ↔ id ∈ m'.ids)
    (hedges : ∀ x c, (⟨id, x, c⟩ : Dependency) ∈ m.edges ↔ ⟨id, x, c⟩ ∈ m'.edges) : m.get? id = m'.get? id := by
  have same : ∀ {t t'}, (id, t) ∈ m.entries → (id, t') ∈ m'.entries → t = t' := fun ht ht' =>
    (h.targets _ ht).eq_of_mem_iff (h'.targets _ ht') fun c x => by
      rw [h.mem_get_iff ht, h'.mem_get_iff ht', hedges]
  refine Option.ext fun t => ?_
  rw [h.get?_eq_some, h'.get?_eq_some]
  constructor
  · intro ht
    obtain ⟨t', ht'⟩ := mem_ids.mp (hids.mp (mem_ids.mpr ⟨t, ht⟩))
    rwa [same ht ht']
  · intro ht'
    obtain ⟨t', ht⟩ := mem_ids.mp (hids.mpr (mem_ids.mpr ⟨t, ht'⟩))
    rwa [← same ht ht']

/-- The entries of a map are those of its resources, in their order. -/
theorem Ordered.entries_eq (h : m.Ordered) : m.entries = m.ids.filterMap fun id => (m.get? id).map (id, ·) := by
  have each : ∀ entry ∈ m.entries, (m.get? entry.1).map (entry.1, ·) = some entry := by
    intro entry hentry
    rw [h.get?_eq_some.mpr hentry]
    rfl
  unfold ids
  rw [List.filterMap_map]
  exact (List.filterMap_some.symm.trans (List.filterMap_congr fun entry hentry => (each entry hentry).symm))

/-- Two maps with the same resources in the same order and with the same dependencies are equal. -/
theorem Ordered.eq_of_mem_iff (h : m.Ordered) (h' : m'.Ordered) (hids : m.ids = m'.ids)
    (hedges : ∀ e, e ∈ m.edges ↔ e ∈ m'.edges) : m = m' := by
  have hget : m.get? = m'.get? := funext fun id => h.get?_congr h' (by rw [hids]) fun _ _ => hedges _
  have hentries : m.entries = m'.entries := by rw [h.entries_eq, h'.entries_eq, hids, hget]
  cases m
  cases hentries
  rfl

/-- Two maps with the same resources and the same dependencies differ in the order of their entries at most. -/
theorem Ordered.entries_perm (h : m.Ordered) (h' : m'.Ordered) (hids : ∀ id, id ∈ m.ids ↔ id ∈ m'.ids)
    (hedges : ∀ e, e ∈ m.edges ↔ e ∈ m'.edges) : m.entries.Perm m'.entries := by
  have hget : m.get? = m'.get? := funext fun id => h.get?_congr h' (hids id) fun _ _ => hedges _
  have hperm : m.ids.Perm m'.ids := (List.perm_ext_iff_of_nodup h.nodup h'.nodup).mpr hids
  rw [h.entries_eq, h'.entries_eq, hget]
  exact hperm.filterMap _

end DependencyMap

/-! ## Resolving -/

namespace Resolver
open DependencyMap
variable {r : Resolver} {m : DependencyMap} {source : String} {files files' : List SourceFile}
  {parsed parsed' : List ParsedFile}

theorem ordered_link (h : m.Ordered) (ref : Reference) : (r.link source m ref).Ordered := by
  unfold link
  split
  · exact h
  · split
    · exact h.record source ref.target ref.category
    · exact h

theorem ordered_foldl_link (h : m.Ordered) (refs : List Reference) : (refs.foldl (r.link source) m).Ordered :=
  List.foldlRecOn refs (r.link source) h fun _ hm ref _ => ordered_link hm ref

theorem ordered_addBlock (h : m.Ordered) (block : ResourceBlock) : (r.addBlock m block).Ordered := by
  unfold addBlock
  split
  · have spelled : ((Reference.findIn block.text).foldl (r.link block.id) (m.touch block.id)).Ordered :=
      ordered_foldl_link (h.touch block.id) _
    exact List.foldlRecOn _ _ spelled fun _ hm target _ => hm.record block.id target .implicit
  · exact h

theorem ordered_addParsed (h : m.Ordered) (block : ParsedBlock) : (r.addParsed m block).Ordered := by
  unfold addParsed
  split
  · exact ordered_foldl_link (h.touch block.address) _
  · exact h

theorem ordered_resolve (r : Resolver) (files : List SourceFile) : (r.resolve files).Ordered :=
  List.foldlRecOn _ _ .empty fun _ hm block _ => ordered_addBlock hm block

theorem ordered_resolveParsed_of (h : m.Ordered) (r : Resolver) (parsed : List ParsedFile) :
    (r.resolveParsed m parsed).Ordered :=
  List.foldlRecOn _ _ h fun _ hm block _ => ordered_addParsed hm block

/-- What is resolved from files and parsed blocks has one entry for each resource. -/
theorem ordered_resolveParsed (r : Resolver) (files : List SourceFile) (parsed : List ParsedFile) :
    (r.resolveParsed (r.resolve files) parsed).Ordered :=
  ordered_resolveParsed_of (ordered_resolve r files) r parsed

/-! ### Any order -/

theorem mem_blockAddresses_congr (hfiles : ∀ f, f ∈ files ↔ f ∈ files') (id : String) :
    id ∈ blockAddresses files ↔ id ∈ blockAddresses files' := by
  simp only [blockAddresses, List.mem_map, List.mem_flatMap, hfiles]

theorem mem_parsedAddresses_congr
    (hblocks : ∀ block, block ∈ parsed.flatMap ParsedFile.blocks ↔ block ∈ parsed'.flatMap ParsedFile.blocks)
    (id : String) : id ∈ parsedAddresses parsed ↔ id ∈ parsedAddresses parsed' := by
  simp only [parsedAddresses, List.mem_map, List.mem_filter, hblocks]

theorem mem_edges_resolve_congr (hfiles : ∀ f, f ∈ files ↔ f ∈ files') (e : Dependency) :
    e ∈ (r.resolve files).edges ↔ e ∈ (r.resolve files').edges := by
  simp only [mem_edges_resolve, hfiles]

theorem mem_edges_resolveParsed_congr (hfiles : ∀ f, f ∈ files ↔ f ∈ files')
    (hblocks : ∀ block, block ∈ parsed.flatMap ParsedFile.blocks ↔ block ∈ parsed'.flatMap ParsedFile.blocks)
    (e : Dependency) : e ∈ (r.resolveParsed (r.resolve files) parsed).edges ↔
      e ∈ (r.resolveParsed (r.resolve files') parsed').edges := by
  simp only [mem_edges_resolveParsed, mem_edges_resolve_congr hfiles, hblocks]

/-- Neither the order of files nor the order of parsed blocks matters, and neither does it if some of them come more
    than once: the same resources have the same targets in each category. Only the order of the entries can
    differ. -/
theorem entries_resolveParsed_perm (r : Resolver) (hfiles : ∀ f, f ∈ files ↔ f ∈ files')
    (hblocks : ∀ block, block ∈ parsed.flatMap ParsedFile.blocks ↔ block ∈ parsed'.flatMap ParsedFile.blocks) :
    let m := r.resolveParsed (r.resolve files) parsed
    let m' := r.resolveParsed (r.resolve files') parsed'
    m.entries.Perm m'.entries ∧ (∀ id, id ∈ m.ids ↔ id ∈ m'.ids) ∧ ∀ id, m.get? id = m'.get? id := by
  intro m m'
  have hm : m.Ordered := ordered_resolveParsed r files parsed
  have hm' : m'.Ordered := ordered_resolveParsed r files' parsed'
  have hids : ∀ id, id ∈ m.ids ↔ id ∈ m'.ids := by
    intro id
    rw [ids_resolveParsed, ids_resolveParsed, mem_appendAll, mem_appendAll, List.mem_filter, List.mem_filter,
      List.mem_append, List.mem_append, mem_blockAddresses_congr hfiles, mem_parsedAddresses_congr hblocks]
  have hedges : ∀ e, e ∈ m.edges ↔ e ∈ m'.edges := mem_edges_resolveParsed_congr hfiles hblocks
  exact ⟨hm.entries_perm hm' hids hedges, hids, fun id => hm.get?_congr hm' (hids id) fun _ _ => hedges _⟩

/-- A network, a subnet in it, an instance and a variable. -/
def networkAndZone : Registry :=
  Registry.empty.insertAll [.make .resource "aws_vpc" "n" "net.tf", .make .resource "aws_subnet" "a" "main.tf",
    .make .resource "aws_instance" "web" "main.tf", .make .variable "" "zone" "net.tf"]

/-- The block of the subnet, which nothing closes, so that it holds that of the instance. -/
def openSubnet : SourceFile :=
  ⟨"main.tf", "resource \"aws_subnet\" \"a\" \x7b\n  vpc = aws_vpc.n.id\n" ++
    "resource \"aws_instance\" \"web\" \x7b\n\x7d\n"⟩

/-- The network, and another block of the subnet. -/
def closedSubnet : SourceFile :=
  ⟨"net.tf", "resource \"aws_vpc\" \"n\" \x7b\n\x7d\n" ++
    "resource \"aws_subnet\" \"a\" \x7b\n  zone = var.zone\n\x7d\n"⟩

/-- Parsed blocks of the instance and of the subnet. -/
def parsedInstance : ParsedBlock := ⟨.resource, "aws_instance", "web", [("zone", .reference "var.zone")]⟩

def parsedSubnet : ParsedBlock := ⟨.resource, "aws_subnet", "a", [("vpc", .reference "aws_vpc.n.id")]⟩

theorem entries_resolveParsed_perm_openSubnet :
    let r : Resolver := ⟨networkAndZone, false⟩
    let m := r.resolveParsed (r.resolve [openSubnet, closedSubnet]) [⟨"main.tf", [parsedInstance, parsedSubnet]⟩]
    let m' := r.resolveParsed (r.resolve [closedSubnet, openSubnet, closedSubnet])
      [⟨"main.tf", [parsedSubnet, parsedInstance]⟩]
    m.entries.Perm m'.entries ∧ m.ids ≠ m'.ids := by
  intro r m m'
  have hfiles : ∀ f, f ∈ [openSubnet, closedSubnet] ↔ f ∈ [closedSubnet, openSubnet, closedSubnet] := by
    intro f
    simp only [List.mem_cons, List.not_mem_nil, or_false]
    tauto
  have hblocks : ∀ block, block ∈ [ParsedFile.mk "main.tf" [parsedInstance, parsedSubnet]].flatMap ParsedFile.blocks ↔
      block ∈ [ParsedFile.mk "main.tf" [parsedSubnet, parsedInstance]].flatMap ParsedFile.blocks := fun _ =>
    (List.Perm.swap parsedSubnet parsedInstance []).mem_iff
  have hids : m.ids ≠ m'.ids := by
    rw [ids_resolveParsed, ids_resolveParsed]
    decide +kernel
  exact ⟨(entries_resolveParsed_perm r hfiles hblocks).1, hids⟩

end Resolver

end ResourceGraph
