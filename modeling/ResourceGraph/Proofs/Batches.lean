import ResourceGraph.Proofs.Listing

/-! # Scanning in batches

Scanning two batches of files and taking the second registry into the first gives what scanning all files at once
gives, as long as no address is declared under two kinds. A registry that is taken in is replayed: the resources that
it lists, and then the rest in the order of addresses. That keeps both the last declaration at each address and the
order in which resources were first met, since the replayed resources are just those that it lists. -/

namespace ResourceGraph
open Sorted

namespace Registry
variable {r : Registry} {d : Declaration} {ds es : List Declaration} {id : String}

/-- No address is declared under two kinds. -/
def OneKind (ds : List Declaration) : Prop := ∀ d ∈ ds, ∀ e ∈ ds, d.id = e.id → d.kind = e.kind

theorem OneKind.mono (h : OneKind ds) (hsub : ∀ d ∈ es, d ∈ ds) : OneKind es := fun d hd e he =>
  h d (hsub d hd) e (hsub e he)

/-! ## What a registry lists -/

theorem lastAt?_append : lastAt? (ds ++ es) id = (lastAt? es id).or (lastAt? ds id) := by
  simp [lastAt?, List.find?_append]

theorem exists_firstAt? (hd : d ∈ ds) : ∃ first, firstAt? ds d.id = some first := by
  refine Option.isSome_iff_exists.mp (List.find?_isSome.mpr ⟨d, hd, ?_⟩)
  simp

/-- If no address is declared under two kinds, all resources are listed. -/
theorem OneKind.mem_order (h : OneKind ds) (hd : d ∈ ds) :
    d.id ∈ (Registry.empty.insertAll ds).order ↔ d.kind = .resource := by
  obtain ⟨first, hfirst⟩ := exists_firstAt? hd
  obtain ⟨hmem, hid⟩ := mem_of_firstAt? hfirst
  rw [mem_order_insertAll_empty, hfirst]
  simp [h first hmem d hd hid]

theorem OneKind.order_eq (h : OneKind ds) : (Registry.empty.insertAll ds).order = appendAll [] (resourceAddresses ds) := by
  rw [order_insertAll .empty]
  congr 1
  refine List.filter_eq_self.mpr fun id hid => decide_eq_true ?_
  obtain ⟨d, hd, rfl⟩ := List.mem_map.mp hid
  obtain ⟨hd, hkind⟩ := List.mem_filter.mp hd
  exact (h.mem_order hd).mpr (of_decide_eq_true hkind)

/-! ## Replayed declarations -/

theorem Built.mem_replay (h : r.Built) : d ∈ r.replay ↔ r.get? d.id = some d := by
  unfold replay
  rw [List.mem_append]
  constructor
  · rintro (hd | hd)
    · exact (h.keyed.of_mem_resources hd).2
    · obtain ⟨entry, hentry, rfl⟩ := List.mem_map.mp hd
      have hmem : entry ∈ r.table := (List.mem_filter.mp hentry).1
      rw [h.keyed entry hmem]
      exact h.get?_eq_some.mpr hmem
  · intro hget
    by_cases hlisted : d.id ∈ r.order
    · exact Or.inl (List.mem_filterMap.mpr ⟨d.id, hlisted, hget⟩)
    · refine Or.inr (List.mem_map.mpr ⟨(d.id, d), List.mem_filter.mpr ⟨h.get?_eq_some.mp hget, ?_⟩, rfl⟩)
      exact decide_eq_true hlisted

theorem Built.lastAt?_replay (h : r.Built) : lastAt? r.replay id = r.get? id := by
  cases hlast : lastAt? r.replay id with
  | some d =>
    obtain ⟨hd, rfl⟩ := mem_of_lastAt? hlast
    exact (h.mem_replay.mp hd).symm
  | none =>
    cases hget : r.get? id with
    | none => rfl
    | some d =>
      obtain rfl : d.id = id := h.keyed.id_of_get? hget
      have hnone := firstAt?_eq_none.mpr hlast
      obtain ⟨first, hfirst⟩ := exists_firstAt? (h.mem_replay.mpr hget)
      rw [hfirst] at hnone
      cases hnone

theorem mem_of_mem_replay (hd : d ∈ (Registry.empty.insertAll es).replay) : d ∈ es := by
  have hget := (Built.insertAll .empty es).mem_replay.mp hd
  rw [get?_insertAll_empty] at hget
  exact (mem_of_lastAt? hget).1

theorem OneKind.resourceAddresses_replay (h : OneKind es) :
    resourceAddresses (Registry.empty.insertAll es).replay = (Registry.empty.insertAll es).order := by
  have built : (Registry.empty.insertAll es).Built := .insertAll .empty es
  have hresources : resourceAddresses (Registry.empty.insertAll es).resources = (Registry.empty.insertAll es).order := by
    have hall : ∀ d ∈ (Registry.empty.insertAll es).resources, decide (d.kind = .resource) = true := by
      intro d hd
      have hreplay : d ∈ (Registry.empty.insertAll es).replay := List.mem_append_left _ hd
      exact decide_eq_true ((h.mem_order (mem_of_mem_replay hreplay)).mp (built.keyed.of_mem_resources hd).1)
    rw [resourceAddresses, List.filter_eq_self.mpr hall, built.keyed.map_id_resources built.listed]
    rfl
  have hothers : resourceAddresses
      (((Registry.empty.insertAll es).table.filter fun entry => entry.1 ∉ (Registry.empty.insertAll es).order).map
        Prod.snd) = [] := by
    refine resourceAddresses_eq_nil fun d hd hkind => ?_
    have hreplay : d ∈ (Registry.empty.insertAll es).replay := List.mem_append_right _ hd
    have hlisted := (h.mem_order (mem_of_mem_replay hreplay)).mpr hkind
    obtain ⟨entry, hentry, rfl⟩ := List.mem_map.mp hd
    obtain ⟨hentry, hout⟩ := List.mem_filter.mp hentry
    rw [built.keyed entry hentry] at hlisted
    exact of_decide_eq_true hout hlisted
  rw [replay, resourceAddresses_append, hresources, hothers, List.append_nil]

/-- Declaring some things after others is taking in the registry of the later ones. -/
theorem OneKind.insertAll_append (h : OneKind (ds ++ es)) : Registry.empty.insertAll (ds ++ es) =
    (Registry.empty.insertAll ds).extend (Registry.empty.insertAll es) := by
  have hextend : (Registry.empty.insertAll ds).extend (Registry.empty.insertAll es) =
      Registry.empty.insertAll (ds ++ (Registry.empty.insertAll es).replay) := Registry.insertAll_append.symm
  have hreplay : OneKind (ds ++ (Registry.empty.insertAll es).replay) := h.mono fun d hd =>
    List.mem_append.mpr ((List.mem_append.mp hd).imp_right mem_of_mem_replay)
  have hes : OneKind es := h.mono fun d hd => List.mem_append_right _ hd
  rw [hextend]
  -- Both registries replay declarations from an empty one, so they show the last ones and list the first encounters.
  refine (Built.insertAll .empty _).ext (.insertAll .empty _) (fun id => ?_) ?_
  · rw [get?_insertAll_empty, get?_insertAll_empty, lastAt?_append, lastAt?_append,
      (Built.insertAll .empty es).lastAt?_replay, get?_insertAll_empty]
  · rw [h.order_eq, hreplay.order_eq, resourceAddresses_append, resourceAddresses_append, hes.resourceAddresses_replay,
      hes.order_eq, appendAll_append, appendAll_append, appendAll_appendAll]
    rfl

end Registry

/-! ## Scanning files -/

namespace Scan
open Registry
variable {files more : List SourceFile}

/-- What the files declare that a scan reads, file by file and in the order in which each is searched. -/
def declared (files : List SourceFile) : List Declaration :=
  (Context.readable files).flatMap SourceFile.declarations

theorem declared_append : declared (files ++ more) = declared files ++ declared more := by
  simp [declared, Context.readable]

theorem registry_ofFiles (files : List SourceFile) : (ofFiles files).registry = Registry.empty.insertAll (declared files) :=
  registry_foldl .empty files

theorem add_files (s : Scan) (f : SourceFile) :
    (s.add f).files = s.files ++ if f.isBinary then [] else [f.summary] := by
  cases hbinary : f.isBinary <;> simp [add, SourceFile.scan, hbinary]

theorem add_failures (s : Scan) (f : SourceFile) :
    (s.add f).failures = s.failures ++ if f.isBinary then [⟨f.name, (Error.binaryContent f.name).message⟩] else [] := by
  cases hbinary : f.isBinary <;> simp [add, SourceFile.scan, hbinary]

/-- A list that a scan makes longer with every file is put together from the parts of the files. -/
theorem foldl_append {α : Type} {list : Scan → List α} {part : SourceFile → List α}
    (hadd : ∀ s f, list (s.add f) = list s ++ part f) (s : Scan) (files : List SourceFile) :
    list (files.foldl add s) = list s ++ files.flatMap part := by
  induction files generalizing s with
  | nil => simp
  | cons f files ih => rw [List.foldl_cons, ih, hadd, List.flatMap_cons, List.append_assoc]

theorem ofFiles_append_of {α : Type} {list : Scan → List α} {part : SourceFile → List α}
    (hadd : ∀ s f, list (s.add f) = list s ++ part f) (hempty : list .empty = []) :
    list (ofFiles (files ++ more)) = list (ofFiles files) ++ list (ofFiles more) := by
  simp only [ofFiles, foldl_append hadd, hempty, List.nil_append, List.flatMap_append]

/-- Scanning more files after some files is taking in the registry of the later ones, if no address is declared under
    two kinds: each address holds its last declaration, and the resources are listed in the order in which they are
    first met. What is told about the single files, read or left out, is put together in any case. -/
theorem ofFiles_append (files more : List SourceFile) :
    (OneKind (declared (files ++ more)) →
      (ofFiles (files ++ more)).registry = (ofFiles files).registry.extend (ofFiles more).registry ∧
      (∀ id, (ofFiles (files ++ more)).registry.get? id = lastAt? (declared (files ++ more)) id) ∧
      (ofFiles (files ++ more)).registry.resourceIds = appendAll [] (resourceAddresses (declared (files ++ more)))) ∧
    (ofFiles (files ++ more)).files = (ofFiles files).files ++ (ofFiles more).files ∧
    (ofFiles (files ++ more)).failures = (ofFiles files).failures ++ (ofFiles more).failures := by
  refine ⟨fun hkinds => ⟨?_, fun id => ?_, ?_⟩, ofFiles_append_of add_files rfl, ofFiles_append_of add_failures rfl⟩
  · rw [declared_append] at hkinds
    rw [registry_ofFiles, registry_ofFiles, registry_ofFiles, declared_append]
    exact hkinds.insertAll_append
  · rw [registry_ofFiles]
    exact get?_insertAll_empty
  · rw [registry_ofFiles]
    exact hkinds.order_eq

/-- A network and a variable. -/
def networkBatch : List SourceFile :=
  [⟨"main.tf", "variable \"region\" \x7b\x7d\nresource \"aws_vpc\" \"main\" \x7b\x7d\n"⟩]

/-- A subnet, the same network once more, and a file that is left out. -/
def subnetBatch : List SourceFile :=
  [⟨"subnets.tf", "resource \"aws_subnet\" \"a\" \x7b\x7d\nresource \"aws_vpc\" \"main\" \x7b\x7d\n"⟩,
   ⟨"image.tf", "\x00"⟩]

theorem ofFiles_append_subnetBatch : OneKind (declared (networkBatch ++ subnetBatch)) ∧
    ((ofFiles networkBatch).registry.extend (ofFiles subnetBatch).registry).resourceIds = ["aws_vpc.main", "aws_subnet.a"] ∧
    (((ofFiles networkBatch).registry.extend (ofFiles subnetBatch).registry).get? "aws_vpc.main").map (·.file) =
      some "subnets.tf" := by
  have kinds : OneKind (declared (networkBatch ++ subnetBatch)) := by
    unfold OneKind
    decide +kernel
  obtain ⟨hregistry, hget, hids⟩ := (ofFiles_append networkBatch subnetBatch).1 kinds
  refine ⟨kinds, ?_, ?_⟩
  · rw [← hregistry, hids]
    decide +kernel
  · rw [← hregistry, hget]
    decide +kernel

end Scan
end ResourceGraph
