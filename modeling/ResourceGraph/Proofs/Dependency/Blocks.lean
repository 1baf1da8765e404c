import ResourceGraph.Dependency.Resolve
import ResourceGraph.Proofs.Dependency.Edges

/-! # What single blocks add

A block adds the same dependencies to every map: those of the references in its text that count, and those of
the keywords in it. The dependencies that files have are therefore just what their blocks give, whatever other
blocks stand around each of them, and the same holds of the arguments of parsed blocks. -/

namespace ResourceGraph
open DependencyMap

namespace Resolver
variable {r : Resolver} {m : DependencyMap} {e : Dependency} {source : String} {ref : Reference}
  {refs : List Reference} {block : ResourceBlock} {files : List SourceFile}

/-! ## References -/

/-- A reference gives a dependency of a resource on something else that can be referred to. -/
structure Links (r : Resolver) (source : String) (ref : Reference) (e : Dependency) : Prop where
  distinct : ref.target ≠ source
  target : r.isTarget ref.target = true
  eq : e = ⟨source, ref.target, ref.category⟩

theorem mem_edges_link_iff : e ∈ (r.link source m ref).edges ↔ e ∈ m.edges ∨ r.Links source ref e := by
  unfold link
  by_cases hself : ref.target = source
  · rw [if_pos hself]
    exact ⟨Or.inl, fun h => h.resolve_right fun hlinks => hlinks.distinct hself⟩
  · rw [if_neg hself]
    by_cases htarget : r.isTarget ref.target = true
    · rw [if_pos htarget, mem_edges_record, or_comm]
      exact or_congr_right ⟨fun heq => ⟨hself, htarget, heq⟩, Links.eq⟩
    · rw [if_neg htarget]
      exact ⟨Or.inl, fun h => h.resolve_right fun hlinks => htarget hlinks.target⟩

theorem mem_edges_foldl_link : e ∈ (refs.foldl (r.link source) m).edges ↔
    e ∈ m.edges ∨ ∃ ref ∈ refs, r.Links source ref e :=
  mem_edges_foldl_iff fun _ _ => mem_edges_link_iff

/-! ## Blocks -/

/-- The block of a resource gives a dependency, by a reference in its text or by a keyword. -/
inductive Gives (r : Resolver) (block : ResourceBlock) : Dependency → Prop where
  | spelled {ref : Reference} {e : Dependency} : r.isResource block.id = true → ref ∈ Reference.findIn block.text →
      r.Links block.id ref e → Gives r block e
  | implied {target : String} : r.isResource block.id = true → target ∈ r.implicitTargets block.id block.text →
      Gives r block ⟨block.id, target, .implicit⟩

theorem Gives.isResource (h : r.Gives block e) : r.isResource block.id = true := by
  cases h <;> assumption

theorem mem_edges_addBlock_iff : e ∈ (r.addBlock m block).edges ↔ e ∈ m.edges ∨ r.Gives block e := by
  unfold addBlock
  by_cases hid : r.isResource block.id = true
  · have himplied : ∀ m : DependencyMap, ∀ target, e ∈ (m.record block.id target .implicit).edges ↔
        e ∈ m.edges ∨ e = ⟨block.id, target, .implicit⟩ := fun m target => by rw [mem_edges_record, or_comm]
    rw [if_pos hid, mem_edges_foldl_iff himplied, mem_edges_foldl_link, mem_edges_touch, or_assoc]
    refine or_congr_right ⟨?_, ?_⟩
    · rintro (⟨ref, href, hlinks⟩ | ⟨target, htarget, rfl⟩)
      · exact .spelled hid href hlinks
      · exact .implied hid htarget
    · rintro (⟨-, href, hlinks⟩ | ⟨-, htarget⟩)
      · exact Or.inl ⟨_, href, hlinks⟩
      · exact Or.inr ⟨_, htarget, rfl⟩
  · rw [if_neg hid]
    exact ⟨Or.inl, fun h => h.resolve_right fun hgives => hid hgives.isResource⟩

/-- The dependencies of files are those that their blocks give. -/
theorem mem_edges_resolve :
    e ∈ (r.resolve files).edges ↔ ∃ f ∈ files, ∃ block ∈ resourceBlocks f.chars, r.Gives block e := by
  have hpass : e ∈ (r.resolve files).edges ↔
      e ∈ DependencyMap.empty.edges ∨ ∃ block ∈ files.flatMap fun f => resourceBlocks f.chars, r.Gives block e :=
    mem_edges_foldl_iff fun _ _ => mem_edges_addBlock_iff
  rw [hpass]
  constructor
  · rintro (hnone | ⟨block, hblock, hgives⟩)
    · cases hnone
    · obtain ⟨f, hf, hblock⟩ := List.mem_flatMap.mp hblock
      exact ⟨f, hf, block, hblock, hgives⟩
  · rintro ⟨f, hf, block, hblock, hgives⟩
    exact Or.inr ⟨block, List.mem_flatMap.mpr ⟨f, hf, hblock⟩, hgives⟩

/-- A block of something that is no resource leaves the map as it is. -/
theorem addBlock_of_not_isResource (h : r.isResource block.id ≠ true) : r.addBlock m block = m := if_neg h

/-! ## Parsed blocks -/

theorem classify?_eq_some {path : String} : r.classify? path = some ref ↔
    readSegments? (segments path) = some ref ∧ r.isTarget ref.target = true := by
  unfold classify?
  constructor
  · intro h
    split at h
    · rename_i read hread
      obtain ⟨htarget, heq⟩ := Option.ite_none_right_eq_some.mp h
      cases heq
      exact ⟨hread, htarget⟩
    · cases h
  · rintro ⟨hread, htarget⟩
    rw [hread]
    exact if_pos htarget

theorem mem_edges_addParsed_iff {block : ParsedBlock} (hkind : block.kind = .resource)
    (hid : r.isResource block.address = true) : e ∈ (r.addParsed m block).edges ↔
      e ∈ m.edges ∨ ∃ path ∈ block.references, ∃ ref, readSegments? (segments path) = some ref ∧
        r.Links block.address ref e := by
  rw [addParsed, if_pos ⟨hkind, hid⟩, mem_edges_foldl_link, mem_edges_touch]
  refine or_congr_right ⟨?_, ?_⟩
  · rintro ⟨ref, href, hlinks⟩
    obtain ⟨path, hpath, hclassify⟩ := List.mem_filterMap.mp href
    exact ⟨path, hpath, ref, (classify?_eq_some.mp hclassify).1, hlinks⟩
  · rintro ⟨path, hpath, ref, hread, hlinks⟩
    exact ⟨ref, List.mem_filterMap.mpr ⟨path, hpath, classify?_eq_some.mpr ⟨hread, hlinks.target⟩⟩, hlinks⟩

/-- The parsed block of a resource gives a dependency, by a path in its arguments. -/
structure GivesParsed (r : Resolver) (block : ParsedBlock) (e : Dependency) : Prop where
  kind : block.kind = .resource
  isResource : r.isResource block.address = true
  linked : ∃ path ∈ block.references, ∃ ref, readSegments? (segments path) = some ref ∧ r.Links block.address ref e

theorem mem_edges_addParsed {block : ParsedBlock} :
    e ∈ (r.addParsed m block).edges ↔ e ∈ m.edges ∨ r.GivesParsed block e := by
  by_cases h : block.kind = .resource ∧ r.isResource block.address = true
  · rw [mem_edges_addParsed_iff h.1 h.2]
    exact or_congr_right ⟨fun hlinked => ⟨h.1, h.2, hlinked⟩, GivesParsed.linked⟩
  · rw [addParsed, if_neg h]
    exact ⟨Or.inl, fun he => he.resolve_right fun hgives => h ⟨hgives.kind, hgives.isResource⟩⟩

/-- What is added to the dependencies of a map is what the parsed blocks give. -/
theorem mem_edges_resolveParsed {parsed : List ParsedFile} : e ∈ (r.resolveParsed m parsed).edges ↔
    e ∈ m.edges ∨ ∃ block ∈ parsed.flatMap ParsedFile.blocks, r.GivesParsed block e :=
  mem_edges_foldl_iff fun _ _ => mem_edges_addParsed

end Resolver

end ResourceGraph
