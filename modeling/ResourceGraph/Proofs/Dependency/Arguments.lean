import ResourceGraph.Proofs.Dependency.Entries

/-! # References in arguments

A value refers to the paths that stand in it, at any depth of lists and maps. Parsed blocks of resources add what
their arguments refer to, and they add nothing else: whatever a map held before, its resources stay in their order
in front of the new ones, and its dependencies stay. -/

namespace ResourceGraph

/-! ## Paths in values -/

namespace Argument
variable {path : String}

/-- A reference refers to its path, a list and a map to what their values refer to. -/
inductive Refers (path : String) : Argument → Prop where
  | reference : Refers path (.reference path)
  | item {v : Argument} {items : List Argument} : v ∈ items → Refers path v → Refers path (.list items)
  | entry {entry : String × Argument} {entries : List (String × Argument)} : entry ∈ entries → Refers path entry.2 →
      Refers path (.map entries)

-- The induction is that of the three functions: over a value, the items of a list and the entries of a map.
mutual

theorem mem_references : ∀ v : Argument, path ∈ v.references ↔ v.Refers path
  | .reference other => by
    rw [references, List.mem_singleton]
    constructor
    · rintro rfl
      exact .reference
    · intro h
      cases h
      rfl
  | .list items => by
    rw [references, mem_itemReferences items]
    constructor
    · rintro ⟨v, hv, h⟩
      exact .item hv h
    · intro h
      cases h with
      | item hv h => exact ⟨_, hv, h⟩
  | .map entries => by
    rw [references, mem_entryReferences entries]
    constructor
    · rintro ⟨entry, hentry, h⟩
      exact .entry hentry h
    · intro h
      cases h with
      | entry hentry h => exact ⟨_, hentry, h⟩
  | .null | .bool _ | .number _ | .text _ => ⟨fun h => absurd h List.not_mem_nil, nofun⟩

theorem mem_itemReferences : ∀ items : List Argument, path ∈ itemReferences items ↔ ∃ v ∈ items, v.Refers path
  | [] => by simp [itemReferences]
  | v :: rest => by
    rw [itemReferences, List.mem_append, mem_references v, mem_itemReferences rest, List.exists_mem_cons_iff]

theorem mem_entryReferences : ∀ entries : List (String × Argument),
    path ∈ entryReferences entries ↔ ∃ entry ∈ entries, entry.2.Refers path
  | [] => by simp [entryReferences]
  | (_, v) :: rest => by
    rw [entryReferences, List.mem_append, mem_references v, mem_entryReferences rest, List.exists_mem_cons_iff]

end

end Argument

theorem ParsedBlock.mem_references {block : ParsedBlock} {path : String} :
    path ∈ block.references ↔ ∃ entry ∈ block.arguments, entry.2.Refers path := by
  unfold ParsedBlock.references
  simp only [List.mem_flatMap, Argument.mem_references]

/-! ## What parsed blocks add -/

namespace Resolver
variable {registry : Registry} {strict : Bool} {e : Dependency} {block : ParsedBlock} {parsed : List ParsedFile}

/-- The parsed block of a resource refers to something else that is declared. -/
structure RefersTo (r : Resolver) (block : ParsedBlock) (e : Dependency) : Prop where
  kind : block.kind = .resource
  source : e.source = block.address
  listed : e.source ∈ r.registry.resourceIds
  distinct : e.target ≠ e.source
  path : ∃ entry ∈ block.arguments, ∃ path, entry.2.Refers path ∧ r.classify? path = some ⟨e.target, e.category⟩

theorem givesParsed_iff_refersTo (h : registry.Built) :
    GivesParsed ⟨registry, strict⟩ block e ↔ RefersTo ⟨registry, strict⟩ block e := by
  constructor
  · rintro ⟨hkind, hid, path, hpath, ref, hread, hlinks⟩
    obtain ⟨entry, hentry, hrefers⟩ := ParsedBlock.mem_references.mp hpath
    have hclassify := classify?_eq_some.mpr ⟨hread, hlinks.target⟩
    obtain ⟨hne, -, rfl⟩ := hlinks
    exact ⟨hkind, rfl, (isResource_iff h).mp hid, hne, entry, hentry, path, hrefers, hclassify⟩
  · rintro ⟨hkind, hsource, hlisted, hne, entry, hentry, path, hrefers, hclassify⟩
    obtain ⟨hread, htarget⟩ := classify?_eq_some.mp hclassify
    obtain ⟨source, target, category⟩ := e
    obtain rfl := hsource
    exact ⟨hkind, (isResource_iff h).mpr hlisted, path, ParsedBlock.mem_references.mpr ⟨entry, hentry, hrefers⟩, _,
      hread, hne, htarget, rfl⟩

/-- Parsed blocks add to a map an entry for each of their resources that has none, behind the others, and the
    dependencies on what their arguments refer to. All else stays as it is. -/
theorem resolveParsed_adds (h : registry.Built) (strict : Bool) (m : DependencyMap) (parsed : List ParsedFile) :
    let m' := resolveParsed ⟨registry, strict⟩ m parsed
    (∃ added, m'.ids = m.ids ++ added ∧ added.Nodup ∧ ∀ id, id ∈ added ↔
      (id ∈ registry.resourceIds ∧ ∃ block ∈ parsed.flatMap ParsedFile.blocks, block.kind = .resource ∧
        block.address = id) ∧ id ∉ m.ids) ∧
    (∀ e, e ∈ m'.edges ↔ e ∈ m.edges ∨ ∃ block ∈ parsed.flatMap ParsedFile.blocks,
      RefersTo ⟨registry, strict⟩ block e) ∧
    (m.Ordered → m'.Ordered) := by
  intro m'
  refine ⟨?_, fun e => ?_, fun hm => ordered_resolveParsed_of hm _ parsed⟩
  · obtain ⟨added, happend, hnodup, hadded⟩ :=
      exists_appendAll m.ids ((parsedAddresses parsed).filter (isResource ⟨registry, strict⟩))
    refine ⟨added, (ids_resolveParsed_append _ m parsed).trans happend, hnodup, fun id => ?_⟩
    rw [hadded, List.mem_filter, isResource_iff h, and_comm (a := id ∈ parsedAddresses parsed)]
    simp only [parsedAddresses, List.mem_map, List.mem_filter, decide_eq_true_eq, and_assoc]
  · rw [mem_edges_resolveParsed]
    simp only [givesParsed_iff_refersTo h]

/-- The zones of an instance, in a list within a map. -/
def zonesOfInstance : ParsedBlock :=
  ⟨.resource, "aws_instance", "web",
    [("placement", .map [("zones", .list [.text "first", .reference "var.zone"])])]⟩

theorem resolveParsed_adds_zones : networkAndZone.Built ∧
    let m' := resolveParsed ⟨networkAndZone, true⟩ (DependencyMap.empty.record "aws_subnet.a" "aws_vpc.n" .resource)
      [⟨"main.tf", [zonesOfInstance]⟩]
    ⟨"aws_subnet.a", "aws_vpc.n", .resource⟩ ∈ m'.edges ∧ ⟨"aws_instance.web", "var.zone", .variable⟩ ∈ m'.edges := by
  have built : networkAndZone.Built := .insert (.insert (.insert (.insert .empty _) _) _) _
  have hrefers : RefersTo ⟨networkAndZone, true⟩ zonesOfInstance ⟨"aws_instance.web", "var.zone", .variable⟩ :=
    ⟨rfl, rfl, by decide, by decide, _, List.mem_cons_self, "var.zone",
      .entry List.mem_cons_self (.item (List.mem_cons_of_mem _ List.mem_cons_self) .reference), by decide⟩
  obtain ⟨-, hedges, -⟩ := resolveParsed_adds built true
    (DependencyMap.empty.record "aws_subnet.a" "aws_vpc.n" .resource) [⟨"main.tf", [zonesOfInstance]⟩]
  exact ⟨built, (hedges _).mpr (Or.inl (by decide)), (hedges _).mpr (Or.inr ⟨_, List.mem_cons_self, hrefers⟩)⟩

end Resolver

end ResourceGraph
