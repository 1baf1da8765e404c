import ResourceGraph.Dependency.Resolve
import ResourceGraph.Proofs.Dependency.Blocks
import ResourceGraph.Proofs.Dependency.Forms
import ResourceGraph.Proofs.Dependency.Symbols
import ResourceGraph.Proofs.Registry

/-! # Dependencies between declared things

A dependency is recorded by one of three producers: the references that a block spells out, the keywords in it,
and the paths in the arguments of a parsed block. Each of them records only what the registry backs
(`Declared`), so whatever the files and the parsed blocks say, no dependency is made up. -/

namespace ResourceGraph
open Sorted Text

/-! ## Categories -/

namespace Reference
variable {ref : Reference} {cs : List Char}

theorem category_of_mem_findIn (h : ref ∈ findIn cs) : ref.category ≠ .implicit := by
  obtain ⟨path?, hpath, _, _, _, -, -, hread⟩ := exists_of_mem_findIn h
  exact (reading_of_mem_forms hpath hread).category

end Reference

namespace Resolver

theorem category_of_readSegments? {parts : List String} {ref : Reference} (h : readSegments? parts = some ref) :
    ref.category ≠ .implicit := by
  unfold readSegments? at h
  split at h <;> cases h <;> simp

end Resolver

/-! ## Types behind keywords -/

/-- A declaration has the type that `make` gives to one of its kind. -/
def Declaration.Made (d : Declaration) : Prop := ∃ type, d = .make d.kind type d.name d.file

/-- Only a resource has a type that a keyword stands for. -/
theorem Declaration.Made.kind_eq {d : Declaration} {keyword : String} {types : List String} (hd : d.Made)
    (hrow : (keyword, types) ∈ implicitKeywords) (htype : d.type ∈ types) : d.kind = .resource := by
  -- The listed types start with the name of a provider, those of other kinds with their address word.
  have heads : ∀ row ∈ implicitKeywords, ∀ t ∈ row.2, t.toList.head? = some 'a' ∨ t.toList.head? = some 'g' := by
    decide
  obtain ⟨type, hmake⟩ := hd
  have hhead := heads _ hrow _ htype
  rw [hmake] at hhead
  cases hkind : d.kind with
  | resource => rfl
  | _ => simp [make, hkind, Kind.addressWord?] at hhead

/-! ## What the registry backs -/

/-- The target of an implicit dependency: a resource of a type that a keyword in some block of the source stands
    for. -/
def Implied (registry : Registry) (files : List SourceFile) (source target : String) : Prop :=
  target ∈ registry.resourceIds ∧ ∃ d keyword types, registry.get? target = some d ∧
    (keyword, types) ∈ implicitKeywords ∧ d.type ∈ types ∧ (d.Made → d.kind = .resource) ∧
    ∃ f ∈ files, ∃ b ∈ resourceBlocks f.chars, b.id = source ∧ occurs keyword.toList b.text = true

theorem Implied.contains {registry : Registry} {files : List SourceFile} {source target : String}
    (h : Implied registry files source target) : registry.contains target = true := by
  obtain ⟨-, d, _, _, hget, -⟩ := h
  exact Registry.contains_iff.mpr ⟨d, hget⟩

/-- A dependency of a resource on something else that is declared. -/
structure Declared (registry : Registry) (files : List SourceFile) (e : Dependency) : Prop where
  source : e.source ∈ registry.resourceIds
  target : registry.contains e.target = true
  distinct : e.target ≠ e.source
  implied : e.category = .implicit → Implied registry files e.source e.target

namespace Resolver

section Producers
variable {r : Resolver} {files : List SourceFile} {m : DependencyMap} {id source target type : String} {text : List Char}

/-- All dependencies of a map are between declared things. -/
def AllDeclared (r : Resolver) (files : List SourceFile) (m : DependencyMap) : Prop :=
  ∀ e ∈ m.edges, Declared r.registry files e

theorem mem_resourceIds_of_isResource (hr : r.registry.Keyed) (h : r.isResource id = true) :
    id ∈ r.registry.resourceIds ∧ r.registry.contains id = true := by
  obtain ⟨d, hd, rfl⟩ := isResource_iff_exists.mp h
  obtain ⟨hmem, hget⟩ := hr.of_mem_resources hd
  exact ⟨hmem, Registry.contains_iff.mpr ⟨d, hget⟩⟩

theorem contains_of_isTarget (hr : r.registry.Keyed) (h : r.isTarget id = true) : r.registry.contains id = true := by
  rcases isTarget_iff_exists.mp h with h | ⟨d, hd, -, rfl⟩
  · exact (mem_resourceIds_of_isResource hr h).2
  · exact hr.contains_of_mem hd

theorem AllDeclared.record {category : Category} (hm : AllDeclared r files m)
    (h : Declared r.registry files ⟨source, target, category⟩) : AllDeclared r files (m.record source target category) := by
  intro e he
  rcases DependencyMap.mem_edges_record.mp he with rfl | he
  · exact h
  · exact hm e he

theorem AllDeclared.touch (hm : AllDeclared r files m) (id : String) : AllDeclared r files (m.touch id) :=
  fun e he => hm e (DependencyMap.mem_edges_touch.mp he)

/-! ### References -/

theorem AllDeclared.link (hr : r.registry.Keyed) (hsource : source ∈ r.registry.resourceIds) {ref : Reference}
    (hcategory : ref.category ≠ .implicit) (hm : AllDeclared r files m) : AllDeclared r files (r.link source m ref) := by
  unfold Resolver.link
  split
  · exact hm
  · rename_i hne
    split
    · rename_i htarget
      exact hm.record ⟨hsource, contains_of_isTarget hr htarget, hne, fun h => absurd h hcategory⟩
    · exact hm

theorem AllDeclared.foldl_link (hr : r.registry.Keyed) (hsource : source ∈ r.registry.resourceIds)
    {refs : List Reference} (hrefs : ∀ ref ∈ refs, ref.category ≠ .implicit) (hm : AllDeclared r files m) :
    AllDeclared r files (refs.foldl (r.link source) m) :=
  List.foldlRecOn refs (r.link source) hm fun _ hm ref href => hm.link hr hsource (hrefs ref href)

/-! ### Keywords -/

/-- The resources of a type are those that have it as the type of what is declared at their address. -/
theorem mem_resourcesOfType (h : r.registry.Keyed) : id ∈ r.resourcesOfType type ↔
    id ∈ r.registry.resourceIds ∧ ∃ d, r.registry.get? id = some d ∧ d.type = type := by
  rw [resourcesOfType_eq]
  constructor
  · intro hid
    obtain ⟨d, hd, rfl⟩ := List.mem_map.mp hid
    obtain ⟨hd, htype⟩ := List.mem_filter.mp hd
    obtain ⟨hid, hget⟩ := h.of_mem_resources hd
    exact ⟨hid, d, hget, of_decide_eq_true htype⟩
  · rintro ⟨hid, d, hget, htype⟩
    have hd : d ∈ r.registry.resources := List.mem_filterMap.mpr ⟨id, hid, hget⟩
    exact List.mem_map.mpr ⟨d, List.mem_filter.mpr ⟨hd, decide_eq_true htype⟩, h.id_of_get? hget⟩

theorem mem_implicitTargets : target ∈ r.implicitTargets source text ↔
    target ≠ source ∧ (r.strict = true → occurs target.toList text = true) ∧
      ∃ row ∈ implicitKeywords, occurs row.1.toList text = true ∧ ∃ type ∈ row.2, target ∈ r.resourcesOfType type := by
  unfold implicitTargets
  rw [List.mem_flatMap]
  constructor
  · rintro ⟨row, hrow, htarget⟩
    obtain ⟨hoccurs, htarget⟩ := List.mem_ite_nil_right.mp htarget
    obtain ⟨htarget, hfilter⟩ := List.mem_filter.mp htarget
    obtain ⟨hne, hstrict⟩ := of_decide_eq_true hfilter
    refine ⟨hne, fun hs => ?_, row, hrow, hoccurs, List.mem_flatMap.mp htarget⟩
    rwa [hs] at hstrict
  · rintro ⟨hne, hstrict, row, hrow, hoccurs, htarget⟩
    refine ⟨row, hrow, List.mem_ite_nil_right.mpr ⟨hoccurs, List.mem_filter.mpr ⟨List.mem_flatMap.mpr htarget, ?_⟩⟩⟩
    refine decide_eq_true ⟨hne, ?_⟩
    cases hs : r.strict with
    | false => rfl
    | true => exact hstrict hs

theorem implied_of_mem_implicitTargets (hr : r.registry.Keyed) {f : SourceFile} {block : ResourceBlock}
    (hf : f ∈ files) (hblock : block ∈ resourceBlocks f.chars)
    (h : target ∈ r.implicitTargets block.id block.text) :
    target ≠ block.id ∧ Implied r.registry files block.id target := by
  obtain ⟨hne, -, ⟨keyword, types⟩, hrow, hoccurs, type, hlisted, htarget⟩ := mem_implicitTargets.mp h
  obtain ⟨hid, d, hget, rfl⟩ := (mem_resourcesOfType hr).mp htarget
  exact ⟨hne, hid, d, keyword, types, hget, hrow, hlisted, fun hmade => hmade.kind_eq hrow hlisted, f, hf, block,
    hblock, rfl, hoccurs⟩

/-! ### Blocks and whole maps -/

theorem AllDeclared.addBlock (hr : r.registry.Keyed) {block : ResourceBlock}
    (hblock : block ∈ files.flatMap fun f => resourceBlocks f.chars) (hm : AllDeclared r files m) :
    AllDeclared r files (r.addBlock m block) := by
  obtain ⟨f, hf, hblock⟩ := List.mem_flatMap.mp hblock
  unfold Resolver.addBlock
  split
  · rename_i hsource
    obtain ⟨hsource, -⟩ := mem_resourceIds_of_isResource hr hsource
    have spelled : AllDeclared r files ((Reference.findIn block.text).foldl (r.link block.id) (m.touch block.id)) :=
      (hm.touch block.id).foldl_link hr hsource fun _ => Reference.category_of_mem_findIn
    refine List.foldlRecOn _ _ spelled fun m hm target htarget => ?_
    obtain ⟨hne, himplied⟩ := implied_of_mem_implicitTargets hr hf hblock htarget
    exact hm.record ⟨hsource, himplied.contains, hne, fun _ => himplied⟩
  · exact hm

theorem AllDeclared.addParsed (hr : r.registry.Keyed) {block : ParsedBlock} (hm : AllDeclared r files m) :
    AllDeclared r files (r.addParsed m block) := by
  unfold Resolver.addParsed
  split
  · rename_i hblock
    obtain ⟨hsource, -⟩ := mem_resourceIds_of_isResource hr hblock.2
    refine (hm.touch block.address).foldl_link hr hsource fun ref href => ?_
    obtain ⟨path, -, hclassify⟩ := List.mem_filterMap.mp href
    exact category_of_readSegments? (classify?_eq_some.mp hclassify).1
  · exact hm

end Producers

/-- Every dependency that is resolved from files and parsed blocks is one of a resource on something else that
    the registry declares; an implicit one has a keyword behind it. -/
theorem resolved_declared {registry : Registry} (h : registry.Built) (strict : Bool) (files : List SourceFile)
    (parsed : List ParsedFile) :
    ∀ e ∈ (resolveParsed ⟨registry, strict⟩ (resolve ⟨registry, strict⟩ files) parsed).edges,
      Declared registry files e := by
  have none : AllDeclared ⟨registry, strict⟩ files .empty := fun _ he => absurd he List.not_mem_nil
  have scanned : AllDeclared ⟨registry, strict⟩ files (resolve ⟨registry, strict⟩ files) :=
    List.foldlRecOn _ _ none fun _ hm _ hblock => hm.addBlock h.keyed hblock
  exact List.foldlRecOn _ _ scanned fun _ hm _ _ => hm.addParsed h.keyed

/-- A subnet and an instance. -/
def subnetAndInstance : Registry :=
  (Registry.empty.insert (.make .resource "aws_subnet" "b" "main.tf")).insert
    (.make .resource "aws_instance" "a" "main.tf")

/-- The block of an instance that mentions a subnet. -/
def instanceFile : SourceFile := ⟨"main.tf", "resource \"aws_instance\" \"a\" \x7b\n  subnet = 1\n\x7d\n"⟩

theorem resolved_declared_subnet : subnetAndInstance.Built ∧
    Declared subnetAndInstance [instanceFile] ⟨"aws_instance.a", "aws_subnet.b", .implicit⟩ := by
  have built : subnetAndInstance.Built := .insert (.insert .empty _) _
  exact ⟨built, resolved_declared built false [instanceFile] [] _ (by decide +kernel)⟩

end Resolver

end ResourceGraph
