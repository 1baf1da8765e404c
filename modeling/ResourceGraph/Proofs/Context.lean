import ResourceGraph.Context
import ResourceGraph.Proofs.Encounter
import ResourceGraph.Proofs.Grouping

/-! # One set of resources in a whole context

Scanning finds resources by their headers, resolving by the blocks behind the same headers, and both also take
those of parsed blocks. The registry, the dependency map and the groups of a context are therefore about the
same resources. A file that is left out of the scan still has its blocks resolved, but only for resources that
are declared elsewhere; without such a file the map even lists the resources in the order of the registry. -/

namespace ResourceGraph
open Sorted Text Resolver

/-! ## What a scan declares -/

namespace SourceFile
variable {f : SourceFile} {d : Declaration} {kind : Kind}

theorem kind_of_mem_typedDeclarations (h : d ∈ f.typedDeclarations kind) : d.kind = kind := by
  obtain ⟨m, -, h⟩ := List.mem_filterMap.mp h
  split at h
  · cases h
    rfl
  · cases h

theorem kind_of_mem_namedDeclarations (h : d ∈ f.namedDeclarations kind) : d.kind = kind := by
  obtain ⟨name, -, rfl⟩ := List.mem_map.mp h
  rfl

/-- The headers of resources declare what the blocks behind them belong to. -/
theorem resourceAddresses_typedDeclarations :
    resourceAddresses (f.typedDeclarations .resource) = (resourceBlocks f.chars).map (·.id) := by
  have hall : (f.typedDeclarations .resource).filter (fun d => d.kind = .resource) = f.typedDeclarations .resource :=
    List.filter_eq_self.mpr fun d hd => by simpa using kind_of_mem_typedDeclarations hd
  rw [resourceAddresses, hall]
  unfold typedDeclarations resourceBlocks
  rw [List.map_filterMap, List.map_filterMap]
  refine List.filterMap_congr fun m _ => ?_
  obtain ⟨labels, start, length, tail⟩ := m
  rcases labels with _ | ⟨type, _ | ⟨name, _ | ⟨more, labels⟩⟩⟩
  · rfl
  · rfl
  · rfl
  · rfl

/-- The resources that a file declares are those of its blocks. -/
theorem resourceAddresses_declarations : resourceAddresses f.declarations = (resourceBlocks f.chars).map (·.id) := by
  have hdata : resourceAddresses (f.typedDeclarations .data) = [] :=
    resourceAddresses_eq_nil fun d hd => by simp [kind_of_mem_typedDeclarations hd]
  have hmodule : resourceAddresses (f.namedDeclarations .module) = [] :=
    resourceAddresses_eq_nil fun d hd => by simp [kind_of_mem_namedDeclarations hd]
  have hvariable : resourceAddresses (f.namedDeclarations .variable) = [] :=
    resourceAddresses_eq_nil fun d hd => by simp [kind_of_mem_namedDeclarations hd]
  have houtput : resourceAddresses (f.namedDeclarations .output) = [] :=
    resourceAddresses_eq_nil fun d hd => by simp [kind_of_mem_namedDeclarations hd]
  have hmade : ∀ {kind : Kind} {type : String} (names : List String), kind ≠ .resource →
      resourceAddresses (names.map fun name => Declaration.make kind type name f.name) = [] := by
    intro kind type names hkind
    refine resourceAddresses_eq_nil fun d hd => ?_
    obtain ⟨name, -, rfl⟩ := List.mem_map.mp hd
    exact hkind
  have hlocal : Kind.local ≠ .resource := by decide
  have hprovider : Kind.provider ≠ .resource := by decide
  unfold declarations
  simp only [resourceAddresses_append, hdata, hmodule, hvariable, houtput, hmade _ hlocal, hmade _ hprovider,
    List.append_nil, resourceAddresses_typedDeclarations]

end SourceFile

namespace Scan

/-- The registry of a scan holds what the files declare that are not left out. -/
theorem registry_foldl (s : Scan) (files : List SourceFile) : (files.foldl add s).registry =
    s.registry.insertAll ((files.filter (!·.isBinary)).flatMap SourceFile.declarations) := by
  induction files generalizing s with
  | nil => rfl
  | cons f files ih =>
    rw [List.foldl_cons, ih]
    cases hbinary : f.isBinary with
    | true => simp [add, SourceFile.scan, hbinary]
    | false => simp [add, SourceFile.scan, hbinary, Registry.insertAll, List.foldl_append]

end Scan

/-! ## Contexts -/

namespace Context
variable {options : ContextOptions} {parsers : List BlockParser} {files : List SourceFile}

/-- The parsed blocks of a context. -/
def parsedFiles (parsers : List BlockParser) (files : List SourceFile) : List ParsedFile := (parseFiles parsers files).1

/-- The files that a scan reads. -/
def readable (files : List SourceFile) : List SourceFile := files.filter (!·.isBinary)

/-- Every parsed resource is declared, at its address. -/
theorem resourceAddresses_declared (file : ParsedFile) :
    resourceAddresses ((file.blocks.filter fun b => declares b.kind).map fun b => b.declaration file.path) =
      (file.blocks.filter fun b => b.kind = .resource).map (·.address) := by
  have hblocks : (file.blocks.filter fun b => declares b.kind).filter
      ((fun d => decide (d.kind = .resource)) ∘ fun b => b.declaration file.path) =
        file.blocks.filter fun b => b.kind = .resource := by
    rw [List.filter_filter]
    refine List.filter_congr fun b _ => ?_
    have hkind : (b.declaration file.path).kind = b.kind := rfl
    by_cases hresource : b.kind = .resource <;> simp [hkind, hresource, declares]
  rw [resourceAddresses, List.filter_map, hblocks, List.map_map]
  refine List.map_congr_left fun b hb => ?_
  have hresource : b.kind = .resource := of_decide_eq_true (List.mem_filter.mp hb).2
  simp [ParsedBlock.declaration, ParsedBlock.address, Declaration.make, Declaration.id, hresource, Kind.addressWord?]

theorem resourceAddresses_flatMap {β : Type} (bs : List β) (ds : β → List Declaration) :
    resourceAddresses (bs.flatMap ds) = bs.flatMap fun b => resourceAddresses (ds b) := by
  unfold resourceAddresses
  rw [List.filter_flatMap, List.map_flatMap]

theorem resourceAddresses_parsedDeclarations (parsed : List ParsedFile) :
    resourceAddresses (parsedDeclarations parsed) = parsedAddresses parsed := by
  rw [parsedDeclarations, resourceAddresses_flatMap, parsedAddresses, List.filter_flatMap, List.map_flatMap]
  exact List.flatMap_congr fun file _ => resourceAddresses_declared file

theorem resourceAddresses_flatMap_declarations (files : List SourceFile) :
    resourceAddresses (files.flatMap SourceFile.declarations) = blockAddresses files := by
  rw [resourceAddresses_flatMap, blockAddresses, List.map_flatMap]
  exact List.flatMap_congr fun f _ => SourceFile.resourceAddresses_declarations

theorem build_registry : (build options parsers files).registry = Registry.empty.insertAll
    ((readable files).flatMap SourceFile.declarations ++ parsedDeclarations (parsedFiles parsers files)) := by
  have hscan := Scan.registry_foldl .empty files
  have hbuild : (build options parsers files).registry =
      (Scan.ofFiles files).registry.insertAll (parsedDeclarations (parsedFiles parsers files)) := rfl
  rw [hbuild, Scan.ofFiles, hscan]
  exact (List.foldl_append).symm

theorem build_dependencies : (build options parsers files).dependencies =
    resolveParsed ⟨(build options parsers files).registry, options.strict⟩
      (resolve ⟨(build options parsers files).registry, options.strict⟩ files) (parsedFiles parsers files) := rfl

theorem built_build : (build options parsers files).registry.Built := by
  rw [build_registry]
  exact .insertAll .empty _

/-- The registry of a context meets the resources of the files that the scan reads, and then those of parsed blocks. -/
theorem resourceIds_build : (build options parsers files).registry.resourceIds = appendAll []
    ((blockAddresses (readable files) ++ parsedAddresses (parsedFiles parsers files)).filter
      (· ∈ (build options parsers files).registry.resourceIds)) := by
  have horder := Registry.order_insertAll .empty
    ((readable files).flatMap SourceFile.declarations ++ parsedDeclarations (parsedFiles parsers files))
  rw [resourceAddresses_append, resourceAddresses_flatMap_declarations, resourceAddresses_parsedDeclarations] at horder
  unfold Registry.resourceIds
  rw [build_registry]
  exact horder

/-- The map of a context meets the resources of all files, and then those of parsed blocks. -/
theorem ids_build : (build options parsers files).dependencies.ids = appendAll []
    ((blockAddresses files ++ parsedAddresses (parsedFiles parsers files)).filter
      (· ∈ (build options parsers files).registry.resourceIds)) := by
  have built : (build options parsers files).registry.Built := built_build
  have hresource : isResource ⟨(build options parsers files).registry, options.strict⟩ = fun id =>
      decide (id ∈ (build options parsers files).registry.resourceIds) :=
    funext fun _ => isResource_eq built.keyed built.listed
  rw [build_dependencies, ids_resolveParsed, hresource]

theorem mem_ids_build {id : String} : id ∈ (build options parsers files).dependencies.ids ↔
    id ∈ (build options parsers files).registry.resourceIds := by
  rw [ids_build, mem_appendAll, List.mem_filter]
  constructor
  · rintro (h | ⟨-, h⟩)
    · cases h
    · exact of_decide_eq_true h
  · intro h
    -- What the registry lists was declared in a readable file or a parsed block, and both are resolved.
    have hmet := h
    rw [resourceIds_build, mem_appendAll, List.mem_filter] at hmet
    have hreadable : ∀ {x}, x ∈ blockAddresses (readable files) → x ∈ blockAddresses files := by
      intro x hx
      obtain ⟨b, hb, rfl⟩ := List.mem_map.mp hx
      obtain ⟨f, hf, hb⟩ := List.mem_flatMap.mp hb
      exact List.mem_map.mpr ⟨b, List.mem_flatMap.mpr ⟨f, List.mem_of_mem_filter hf, hb⟩, rfl⟩
    rcases hmet with hnil | ⟨hmet, -⟩
    · cases hnil
    · refine Or.inr ⟨?_, by simpa using h⟩
      exact List.mem_append.mpr ((List.mem_append.mp hmet).imp_left hreadable)

/-- If the scan reads all files, the map lists the resources in the order of the registry. -/
theorem ids_eq_resourceIds (h : ∀ f ∈ files, f.isBinary = false) :
    (build options parsers files).dependencies.ids = (build options parsers files).registry.resourceIds := by
  have hall : readable files = files := List.filter_eq_self.mpr fun f hf => by simp [h f hf]
  have hlisted : (build options parsers files).registry.resourceIds = _ := resourceIds_build
  rw [hall] at hlisted
  exact ids_build.trans hlisted.symm

/-- All parts of a context are about the same resources. -/
structure Coherent (c : Context) : Prop where
  /-- No resource has two entries in the map. -/
  nodup : c.dependencies.ids.Nodup
  keys : ∀ id, id ∈ c.dependencies.ids ↔ id ∈ c.registry.resourceIds
  grouped : ∀ id, id ∈ c.registry.resourceIds ↔ ∃ g ∈ c.groups, id ∈ g.resources
  entries : c.dependencies.ids.length = c.summary.resources
  sizes : total (c.groups.map fun g => g.resources.length) = c.summary.resources

/-- Scanning, resolving and grouping agree on the resources; if no file holds a NUL character, they are also
    resolved in the order in which they were scanned. -/
theorem build_coherent (options : ContextOptions) (parsers : List BlockParser) (files : List SourceFile) :
    (build options parsers files).Coherent ∧ ((∀ f ∈ files, Char.ofNat 0 ∉ f.chars) →
      (build options parsers files).dependencies.ids = (build options parsers files).registry.resourceIds) := by
  have built : (build options parsers files).registry.Built := built_build
  have hgroups : ((build options parsers files).groups.flatMap (·.resources)).Perm
      (build options parsers files).registry.resourceIds := Group.ofRegistry_perm built
  have nodup : (build options parsers files).dependencies.ids.Nodup := by
    rw [ids_build]
    exact nodup_appendAll List.nodup_nil
  have hsame : (build options parsers files).dependencies.ids.Perm (build options parsers files).registry.resourceIds :=
    (List.perm_ext_iff_of_nodup nodup built.listed.nodup).mpr fun _ => mem_ids_build
  refine ⟨⟨nodup, fun _ => mem_ids_build, fun id => ?_, hsame.length_eq, ?_⟩, fun h => ?_⟩
  · rw [← hgroups.mem_iff, List.mem_flatMap]
  · rw [total_map_length]
    exact hgroups.length_eq
  · refine ids_eq_resourceIds fun f hf => ?_
    simpa [SourceFile.isBinary] using h f hf

/-- A subnet and its network, and a data source at the address that a resource of another file has as well. -/
def networkFiles : List SourceFile :=
  [⟨"data.tf", "data \"a\" \"base\" \x7b\n\x7d\n"⟩,
   ⟨"main.tf", "resource \"a\" \"subnet\" \x7b\n\x7d\n" ++
      "resource \"data.a\" \"base\" \x7b\nresource \"a\" \"net\" \x7b\n"⟩]

/-- A parser that finds an instance, and the network once more, in each file. -/
def instanceParser : BlockParser where
  name := "instances"
  extensions := ["tf"]
  parse _ _ := .ok [⟨.resource, "a", "web", []⟩, ⟨.resource, "a", "net", []⟩]

theorem build_coherent_network : (∀ f ∈ networkFiles, Char.ofNat 0 ∉ f.chars) ∧
    (build .standard [instanceParser] networkFiles).dependencies.ids =
      ["a.subnet", "a.net", "a.web"] := by
  have text : ∀ f ∈ networkFiles, Char.ofNat 0 ∉ f.chars := by decide +kernel
  have ids : (build .standard [instanceParser] networkFiles).registry.resourceIds =
      ["a.subnet", "a.net", "a.web"] := by decide +kernel
  exact ⟨text, ((build_coherent .standard [instanceParser] networkFiles).2 text).trans ids⟩

end Context

end ResourceGraph
