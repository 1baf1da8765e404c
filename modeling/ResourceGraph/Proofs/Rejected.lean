import ResourceGraph.Proofs.Context
import ResourceGraph.Proofs.Dependency.Blocks

/-! # Files that a scan leaves out

A file with a NUL character is left out of the scan, yet its blocks are resolved like those of any other file. It
declares nothing, so the registry and the groups are those of the files that are read. Its blocks count for a
resource that some other file declares, and for no other; if there is none, it leaves the dependencies as they
are, down to their order. -/

namespace ResourceGraph
open Resolver

namespace Context
variable {options : ContextOptions} {files : List SourceFile} {registry : Registry} {strict : Bool}

/-! ## Declarations -/

theorem readable_readable : readable (readable files) = readable files := by
  simp [readable, List.filter_filter]

theorem mem_readable {f : SourceFile} : f ∈ readable files ↔ f ∈ files ∧ f.isBinary = false := by
  simp [readable]

/-- Without parsers there are no parsed blocks. -/
theorem parsedFiles_nil (files : List SourceFile) : parsedFiles [] files = [] := by
  unfold parsedFiles parseFiles
  dsimp only
  rw [List.filterMap_map]
  exact List.filterMap_eq_nil_iff.mpr fun _ _ => rfl

/-- A file that is left out declares nothing. -/
theorem registry_readable : (build options [] files).registry = (build options [] (readable files)).registry := by
  rw [build_registry, build_registry, readable_readable, parsedFiles_nil, parsedFiles_nil]

theorem dependencies_eq_resolve : (build options [] files).dependencies =
    resolve ⟨(build options [] files).registry, options.strict⟩ files := by
  rw [build_dependencies, parsedFiles_nil]
  rfl

/-! ## Blocks -/

/-- The dependencies of files are those of the files that are read and those that the blocks of the others give. -/
theorem mem_edges_resolve_readable {e : Dependency} : e ∈ (resolve ⟨registry, strict⟩ files).edges ↔
    e ∈ (resolve ⟨registry, strict⟩ (readable files)).edges ∨
      ∃ f ∈ files, f.isBinary = true ∧ ∃ block ∈ resourceBlocks f.chars, Gives ⟨registry, strict⟩ block e := by
  rw [mem_edges_resolve, mem_edges_resolve]
  constructor
  · rintro ⟨f, hf, hblock⟩
    cases hbinary : f.isBinary with
    | true => exact Or.inr ⟨f, hf, hbinary, hblock⟩
    | false => exact Or.inl ⟨f, mem_readable.mpr ⟨hf, hbinary⟩, hblock⟩
  · rintro (⟨f, hf, hblock⟩ | ⟨f, hf, -, hblock⟩)
    · exact ⟨f, (mem_readable.mp hf).1, hblock⟩
    · exact ⟨f, hf, hblock⟩

/-- Only the blocks of resources have any effect. -/
theorem foldl_addBlock_filter {r : Resolver} {m : DependencyMap} {blocks : List ResourceBlock} :
    blocks.foldl r.addBlock m = (blocks.filter fun block => r.isResource block.id).foldl r.addBlock m := by
  rw [List.foldl_filter]
  congr 1
  funext m block
  by_cases hid : r.isResource block.id = true
  · rw [if_pos hid]
  · rw [if_neg hid, addBlock_of_not_isResource hid]

/-- Files that are left out have no effect if they hold no block of a resource. -/
theorem resolve_readable (h : ∀ f ∈ files, f.isBinary = true → ∀ block ∈ resourceBlocks f.chars,
      isResource ⟨registry, strict⟩ block.id = false) :
    resolve ⟨registry, strict⟩ files = resolve ⟨registry, strict⟩ (readable files) := by
  have hblocks : (files.flatMap fun f => resourceBlocks f.chars).filter
        (fun block => isResource ⟨registry, strict⟩ block.id) =
      ((readable files).flatMap fun f => resourceBlocks f.chars).filter
        (fun block => isResource ⟨registry, strict⟩ block.id) := by
    induction files with
    | nil => rfl
    | cons f files ih =>
      have hrest := ih fun f hf => h f (List.mem_cons_of_mem _ hf)
      rw [List.flatMap_cons, List.filter_append, hrest]
      cases hbinary : f.isBinary with
      | false =>
        have hread : readable (f :: files) = f :: readable files := List.filter_cons_of_pos (by simp [hbinary])
        rw [hread, List.flatMap_cons, List.filter_append]
      | true =>
        have hread : readable (f :: files) = readable files := List.filter_cons_of_neg (by simp [hbinary])
        have hnone : (resourceBlocks f.chars).filter (fun block => isResource ⟨registry, strict⟩ block.id) = [] := by
          refine List.filter_eq_nil_iff.mpr fun block hblock => ?_
          simp [h f List.mem_cons_self hbinary block hblock]
        rw [hread, hnone, List.nil_append]
  unfold resolve
  rw [foldl_addBlock_filter, hblocks, ← foldl_addBlock_filter]

/-- Files that are left out change neither the registry nor the groups. They add to the dependencies what their
    blocks give to resources that other files declare, and without such a block the dependencies are the same. -/
theorem build_readable (options : ContextOptions) (files : List SourceFile) :
    let all := build options [] files
    let kept := build options [] (readable files)
    all.registry = kept.registry ∧ all.groups = kept.groups ∧
      (∀ e, e ∈ all.dependencies.edges ↔ e ∈ kept.dependencies.edges ∨ ∃ f ∈ files, f.isBinary = true ∧
        ∃ block ∈ resourceBlocks f.chars, Gives ⟨kept.registry, options.strict⟩ block e) ∧
      ((∀ f ∈ files, f.isBinary = true → ∀ block ∈ resourceBlocks f.chars, block.id ∉ kept.registry.resourceIds) →
        all.dependencies = kept.dependencies) := by
  intro all kept
  have hregistry : all.registry = kept.registry := registry_readable
  have hgroups : all.groups = kept.groups := congrArg Group.ofRegistry hregistry
  have hall : all.dependencies = resolve ⟨kept.registry, options.strict⟩ files := by
    rw [← hregistry]
    exact dependencies_eq_resolve
  have hkept : kept.dependencies = resolve ⟨kept.registry, options.strict⟩ (readable files) := dependencies_eq_resolve
  have built : kept.registry.Built := built_build
  refine ⟨hregistry, hgroups, fun e => ?_, fun hnone => ?_⟩
  · rw [hall, hkept]
    exact mem_edges_resolve_readable
  · rw [hall, hkept]
    refine resolve_readable fun f hf hbinary block hblock => ?_
    rw [isResource_eq built.keyed built.listed]
    exact decide_eq_false (hnone f hf hbinary block hblock)

/-- An instance, a variable, and a file that is left out and holds the block of a subnet that nothing declares. -/
def subnetLeftOut : List SourceFile :=
  [⟨"main.tf", "resource \"aws_instance\" \"web\" \x7b\n  zone = var.zone\n\x7d\nvariable \"zone\" \x7b\x7d\n"⟩,
   ⟨"old.tf", "\x00\nresource \"aws_subnet\" \"a\" \x7b\n  zone = var.zone\n\x7d\n"⟩]

theorem build_readable_subnetLeftOut :
    (build .standard [] subnetLeftOut).dependencies = (build .standard [] (readable subnetLeftOut)).dependencies ∧
      (build .standard [] subnetLeftOut).dependencies.edges = [⟨"aws_instance.web", "var.zone", .variable⟩] := by
  have undeclared : ∀ f ∈ subnetLeftOut, f.isBinary = true → ∀ id ∈ (resourceBlocks f.chars).map (·.id),
      id ∉ (build .standard [] (readable subnetLeftOut)).registry.resourceIds := by decide +kernel
  refine ⟨(build_readable .standard subnetLeftOut).2.2.2 ?_, by decide +kernel⟩
  exact fun f hf hbinary block hblock => undeclared f hf hbinary block.id (List.mem_map_of_mem hblock)

/-- The instance declared in one file, and once more in a file that is left out. -/
def instanceLeftOut : List SourceFile :=
  [⟨"main.tf", "resource \"aws_instance\" \"web\" \x7b\n\x7d\nvariable \"zone\" \x7b\x7d\n"⟩,
   ⟨"old.tf", "resource \"aws_instance\" \"web\" \x7b\n  zone = var.zone\n\x7d\n\x00\n"⟩]

/-- What stands in a file that is left out can become a dependency. -/
theorem not_dependencies_readable : ¬∀ options files,
    (build options [] files).dependencies = (build options [] (readable files)).dependencies := by
  intro h
  have leaked : (build .standard [] instanceLeftOut).dependencies ≠
      (build .standard [] (readable instanceLeftOut)).dependencies := by decide +kernel
  exact leaked (h .standard instanceLeftOut)

end Context

end ResourceGraph
