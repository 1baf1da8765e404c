import ResourceGraph.Proofs.Dependency.Entries
import ResourceGraph.Proofs.Dependency.Paths

/-! # Fewer declarations

Leaving declarations out of a registry takes away the dependencies that start or end at one of them, and does
nothing else: each producer of dependencies decides about one source and one target at a time, by what is declared
at these two addresses. So a declaration that is added later takes no dependency away, and it changes no
category. -/

namespace ResourceGraph
open Sorted Text

/-! ## Registries -/

namespace Registry
variable {fewer more : Registry} {d : Declaration} {id : String}

/-- A registry whose declarations are some of those of another one, and whose resources stand in the same order. -/
structure Within (fewer more : Registry) : Prop where
  table : ∀ entry ∈ fewer.table, entry ∈ more.table
  order : fewer.resourceIds = more.resourceIds.filter fewer.contains

namespace Within
variable (h : Within fewer more)
include h

/-- At the addresses that are left both registries hold the same. -/
theorem get?_eq (hfewer : fewer.Built) (hmore : more.Built) (hid : fewer.contains id = true) :
    fewer.get? id = more.get? id := by
  obtain ⟨d, hget⟩ := contains_iff.mp hid
  have hentry := h.table _ (hfewer.get?_eq_some.mp hget)
  rw [hget, hmore.get?_eq_some.mpr hentry]

theorem get?_eq_some (hfewer : fewer.Built) (hmore : more.Built) :
    fewer.get? id = some d ↔ more.get? id = some d ∧ fewer.contains id = true := by
  constructor
  · intro hget
    have hid : fewer.contains id = true := contains_iff.mpr ⟨d, hget⟩
    exact ⟨(h.get?_eq hfewer hmore hid).symm.trans hget, hid⟩
  · rintro ⟨hget, hid⟩
    exact (h.get?_eq hfewer hmore hid).trans hget

theorem mem_resourceIds : id ∈ fewer.resourceIds ↔ id ∈ more.resourceIds ∧ fewer.contains id = true := by
  rw [h.order, List.mem_filter]

end Within

end Registry

/-! ## Targets -/

namespace Resolver
variable {r : Resolver} {id source target type : String} {text : List Char}

theorem isTarget_iff (h : r.registry.Built) : r.isTarget id = true ↔ Counts r.registry id :=
  ⟨counts_of_isTarget h, isTarget_of_counts h⟩

/-! ### What is left of each producer

The registries of both resolvers are related, and both have the same mode. -/

section Producers
variable {fewer more : Registry} {strict : Bool} {e : Dependency} {ref : Reference}
  (h : fewer.Within more) (hfewer : fewer.Built) (hmore : more.Built)
include h hfewer hmore

theorem isResource_within : isResource ⟨fewer, strict⟩ id = true ↔
    isResource ⟨more, strict⟩ id = true ∧ fewer.contains id = true := by
  rw [isResource_iff hfewer, isResource_iff hmore, h.mem_resourceIds]

theorem isTarget_within : isTarget ⟨fewer, strict⟩ id = true ↔
    isTarget ⟨more, strict⟩ id = true ∧ fewer.contains id = true := by
  rw [isTarget_iff hfewer, isTarget_iff hmore]
  unfold Counts
  simp only [h.mem_resourceIds, h.get?_eq_some hfewer hmore]
  grind

theorem mem_resourcesOfType_within : id ∈ resourcesOfType ⟨fewer, strict⟩ type ↔
    id ∈ resourcesOfType ⟨more, strict⟩ type ∧ fewer.contains id = true := by
  rw [mem_resourcesOfType hfewer.keyed, mem_resourcesOfType hmore.keyed]
  simp only [h.mem_resourceIds, h.get?_eq_some hfewer hmore]
  grind

theorem mem_implicitTargets_within : target ∈ implicitTargets ⟨fewer, strict⟩ source text ↔
    target ∈ implicitTargets ⟨more, strict⟩ source text ∧ fewer.contains target = true := by
  rw [mem_implicitTargets, mem_implicitTargets]
  constructor
  · rintro ⟨hne, hstrict, row, hrow, hoccurs, type, htype, htarget⟩
    obtain ⟨htarget, hcontains⟩ := (mem_resourcesOfType_within h hfewer hmore).mp htarget
    exact ⟨⟨hne, hstrict, row, hrow, hoccurs, type, htype, htarget⟩, hcontains⟩
  · rintro ⟨⟨hne, hstrict, row, hrow, hoccurs, type, htype, htarget⟩, hcontains⟩
    have hleft := (mem_resourcesOfType_within h hfewer hmore).mpr ⟨htarget, hcontains⟩
    exact ⟨hne, hstrict, row, hrow, hoccurs, type, htype, hleft⟩

theorem links_within : Links ⟨fewer, strict⟩ source ref e ↔
    Links ⟨more, strict⟩ source ref e ∧ fewer.contains e.target = true := by
  constructor
  · rintro ⟨hne, htarget, rfl⟩
    obtain ⟨htarget, hcontains⟩ := (isTarget_within h hfewer hmore).mp htarget
    exact ⟨⟨hne, htarget, rfl⟩, hcontains⟩
  · rintro ⟨⟨hne, htarget, rfl⟩, hcontains⟩
    exact ⟨hne, (isTarget_within h hfewer hmore).mpr ⟨htarget, hcontains⟩, rfl⟩

theorem gives_within {block : ResourceBlock} : Gives ⟨fewer, strict⟩ block e ↔
    Gives ⟨more, strict⟩ block e ∧ fewer.contains e.source = true ∧ fewer.contains e.target = true := by
  constructor
  · intro hgives
    cases hgives with
    | spelled hid href hlinks =>
      obtain ⟨hid, hsource⟩ := (isResource_within h hfewer hmore).mp hid
      obtain ⟨hlinks, htarget⟩ := (links_within h hfewer hmore).mp hlinks
      refine ⟨.spelled hid href hlinks, ?_, htarget⟩
      rw [hlinks.eq]
      exact hsource
    | implied hid himplied =>
      obtain ⟨hid, hsource⟩ := (isResource_within h hfewer hmore).mp hid
      obtain ⟨himplied, htarget⟩ := (mem_implicitTargets_within h hfewer hmore).mp himplied
      exact ⟨.implied hid himplied, hsource, htarget⟩
  · rintro ⟨hgives, hsource, htarget⟩
    cases hgives with
    | spelled hid href hlinks =>
      rw [hlinks.eq] at hsource
      exact .spelled ((isResource_within h hfewer hmore).mpr ⟨hid, hsource⟩) href
        ((links_within h hfewer hmore).mpr ⟨hlinks, htarget⟩)
    | implied hid himplied =>
      exact .implied ((isResource_within h hfewer hmore).mpr ⟨hid, hsource⟩)
        ((mem_implicitTargets_within h hfewer hmore).mpr ⟨himplied, htarget⟩)

theorem givesParsed_within {block : ParsedBlock} : GivesParsed ⟨fewer, strict⟩ block e ↔
    GivesParsed ⟨more, strict⟩ block e ∧ fewer.contains e.source = true ∧ fewer.contains e.target = true := by
  constructor
  · rintro ⟨hkind, hid, path, hpath, ref, hread, hlinks⟩
    obtain ⟨hid, hsource⟩ := (isResource_within h hfewer hmore).mp hid
    obtain ⟨hlinks, htarget⟩ := (links_within h hfewer hmore).mp hlinks
    refine ⟨⟨hkind, hid, path, hpath, ref, hread, hlinks⟩, ?_, htarget⟩
    rw [hlinks.eq]
    exact hsource
  · rintro ⟨⟨hkind, hid, path, hpath, ref, hread, hlinks⟩, hsource, htarget⟩
    have hlinked := (links_within h hfewer hmore).mpr ⟨hlinks, htarget⟩
    rw [hlinks.eq] at hsource
    exact ⟨hkind, (isResource_within h hfewer hmore).mpr ⟨hid, hsource⟩, path, hpath, ref, hread, hlinked⟩

end Producers

end Resolver

/-! ## Maps -/

/-- The targets of some kind. -/
def Targets.restrict (t : Targets) (p : String → Bool) : Targets where
  resources := t.resources.filter p
  modules := t.modules.filter p
  inputs := t.inputs.filter p
  outputs := t.outputs.filter p
  implicit := t.implicit.filter p

theorem Targets.get_restrict {t : Targets} {p : String → Bool} (c : Category) :
    (t.restrict p).get c = (t.get c).filter p := by
  cases c <;> rfl

namespace DependencyMap
variable {m : DependencyMap} {p : String → Bool} {entry : String × Targets}

/-- The resources of some kind, with their targets of that kind. -/
def restrict (m : DependencyMap) (p : String → Bool) : DependencyMap :=
  ⟨(m.entries.filter fun entry => p entry.1).map fun entry => (entry.1, entry.2.restrict p)⟩

theorem ids_restrict : (m.restrict p).ids = m.ids.filter p := by
  unfold ids restrict
  rw [List.map_map, List.filter_map]
  rfl

theorem row_restrict : row (entry.1, entry.2.restrict p) = (row entry).filter fun e => p e.target := by
  unfold row
  rw [List.filter_flatMap]
  refine List.flatMap_congr fun c _ => ?_
  rw [Targets.get_restrict, List.filter_map]
  rfl

theorem edges_restrict : (m.restrict p).edges = m.edges.filter fun e => p e.source && p e.target := by
  have each : ∀ entries : List (String × Targets),
      (((entries.filter fun entry => p entry.1).map fun entry => (entry.1, entry.2.restrict p)).flatMap row) =
        (entries.flatMap row).filter fun e => p e.source && p e.target := by
    intro entries
    induction entries with
    | nil => rfl
    | cons entry rest ih =>
      have hrow : (row entry).filter (fun e => p e.source && p e.target) =
          (row entry).filter fun e => p entry.1 && p e.target :=
        List.filter_congr fun e he => by rw [(mem_row.mp he).1]
      rw [List.flatMap_cons, List.filter_append, hrow, ← ih, List.filter_cons]
      by_cases hp : p entry.1 = true
      · rw [if_pos hp, List.map_cons, List.flatMap_cons, row_restrict]
        simp only [hp, Bool.true_and]
      · rw [if_neg hp]
        simp [hp]
  exact each m.entries

theorem Ordered.restrict (h : m.Ordered) (p : String → Bool) : (m.restrict p).Ordered := by
  constructor
  · rw [ids_restrict]
    exact h.nodup.filter p
  · intro entry hentry
    obtain ⟨before, hbefore, rfl⟩ := List.mem_map.mp hentry
    intro c
    rw [Targets.get_restrict]
    exact (h.targets before (List.mem_filter.mp hbefore).1 c).filter p

end DependencyMap

/-! ## Resolving -/

namespace Resolver
open DependencyMap
variable {fewer more : Registry} {strict : Bool}

/-- Fewer declarations give the same map without the resources and the targets that are not declared. -/
theorem resolveParsed_within (hfewer : fewer.Built) (hmore : more.Built) (h : fewer.Within more)
    (files : List SourceFile) (parsed : List ParsedFile) :
    resolveParsed ⟨fewer, strict⟩ (resolve ⟨fewer, strict⟩ files) parsed =
      (resolveParsed ⟨more, strict⟩ (resolve ⟨more, strict⟩ files) parsed).restrict fewer.contains := by
  refine (ordered_resolveParsed _ files parsed).eq_of_mem_iff ((ordered_resolveParsed _ files parsed).restrict _) ?_ ?_
  · have hresource : isResource ⟨fewer, strict⟩ = fun id => isResource ⟨more, strict⟩ id && fewer.contains id :=
      funext fun id => by rw [Bool.eq_iff_iff, Bool.and_eq_true, isResource_within h hfewer hmore]
    rw [ids_restrict, ids_resolveParsed, ids_resolveParsed, filter_appendAll, List.filter_filter, hresource]
    simp only [List.filter_nil, Bool.and_comm]
  · intro e
    rw [edges_restrict, List.mem_filter, Bool.and_eq_true]
    simp only [mem_edges_resolveParsed, mem_edges_resolve, gives_within h hfewer hmore,
      givesParsed_within h hfewer hmore]
    grind

/-- The dependencies under fewer declarations are those under all of them whose source and target are still declared,
    in the same order and of the same categories. -/
theorem edges_resolveParsed_within (hfewer : fewer.Built) (hmore : more.Built) (h : fewer.Within more)
    (strict : Bool) (files : List SourceFile) (parsed : List ParsedFile) :
    (resolveParsed ⟨fewer, strict⟩ (resolve ⟨fewer, strict⟩ files) parsed).edges =
      (resolveParsed ⟨more, strict⟩ (resolve ⟨more, strict⟩ files) parsed).edges.filter fun e =>
        fewer.contains e.source && fewer.contains e.target := by
  rw [resolveParsed_within hfewer hmore h, edges_restrict]

/-- The instance, the image, and a resource with the type and the name of the image. -/
def imageTwice : Registry := instanceAndImage.insert (.make .resource "aws_ami" "base" "main.tf")

theorem edges_resolveParsed_within_image : instanceAndImage.Within imageTwice ∧
    (resolveParsed ⟨instanceAndImage, true⟩ (resolve ⟨instanceAndImage, true⟩ [imageFile]) []).edges =
      (resolveParsed ⟨imageTwice, true⟩ (resolve ⟨imageTwice, true⟩ [imageFile]) []).edges.filter fun e =>
        instanceAndImage.contains e.source && instanceAndImage.contains e.target ∧
    ⟨"aws_instance.web", "aws_ami.base", .resource⟩ ∈
      (resolveParsed ⟨imageTwice, true⟩ (resolve ⟨imageTwice, true⟩ [imageFile]) []).edges := by
  have fewer : instanceAndImage.Built := .insert (.insert .empty _) _
  have within : instanceAndImage.Within imageTwice := ⟨by decide, by decide⟩
  exact ⟨within, edges_resolveParsed_within fewer (.insert fewer _) within true [imageFile] [], by decide +kernel⟩

end Resolver

end ResourceGraph
