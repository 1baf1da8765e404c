import ResourceGraph.Proofs.Dependency.Addresses
import ResourceGraph.Proofs.Dependency.Entries

/-! # Targets and categories

The first segment of an address tells the category of the dependencies on it, whichever producer records them: the
forms of references, the paths of arguments or the keywords. So a target stands in one category only, except that
a resource may be both referred to and implied by a keyword; and the targets of all categories together are as many
as those of the single ones, less the resources that are counted twice. -/

namespace ResourceGraph
open Sorted

/-- The category of references to what an implicit dependency is on. -/
def Category.spelled : Category → Category
  | .implicit => .resource
  | category => category

theorem Category.spelled_of_ne {c : Category} (h : c ≠ .implicit) : c.spelled = c := by
  cases c with
  | implicit => exact absurd rfl h
  | _ => rfl

namespace Resolver
open Reference
variable {r : Resolver} {e : Dependency} {ref : Reference} {cs rest : List Char} {word name path target type : String}
  {files : List SourceFile} {parsed : List ParsedFile}

/-! ## What the first segment tells -/

/-- The category of references to an address, by its first segment. -/
def categoryOf (target : String) : Category :=
  match upTo '.' target with
  | "module" => .module
  | "var" | "local" => .variable
  | "output" => .output
  | _ => .resource

theorem upTo_append_point (h : '.' ∉ word.toList) : upTo '.' (word ++ "." ++ name) = word := by
  have hpoint : upTo '.' ("." ++ name) = "" := upTo_stop '.' name
  rw [String.append_assoc, upTo_append h, hpoint, String.append_empty]

theorem categoryOf_resource (h : '.' ∉ type.toList) (hword : type ∉ ["module", "var", "local", "output"]) :
    categoryOf (type ++ "." ++ name) = .resource := by
  simp only [List.mem_cons, List.not_mem_nil, or_false, not_or] at hword
  obtain ⟨hmodule, hvar, hlocal, houtput⟩ := hword
  unfold categoryOf
  rw [upTo_append_point h]
  split
  · exact absurd rfl hmodule
  · exact absurd rfl hvar
  · exact absurd rfl hlocal
  · exact absurd rfl houtput
  · rfl

theorem categoryOf_data : categoryOf ("data." ++ type ++ "." ++ name) = .resource := by
  have hassoc : "data." ++ type ++ "." ++ name = "data" ++ "." ++ (type ++ "." ++ name) := by
    rw [← String.append_assoc, ← String.append_assoc]
    rfl
  rw [hassoc]
  exact categoryOf_resource (by decide) (by decide)

theorem categoryOf_module : categoryOf ("module." ++ name) = .module := by
  have hfirst : upTo '.' ("module" ++ "." ++ name) = "module" := upTo_append_point (by decide)
  unfold categoryOf
  rw [show "module." ++ name = "module" ++ "." ++ name from rfl, hfirst]
  rfl

theorem categoryOf_named {category : Category} (h : (word, category) ∈ namedWords) (name : String) :
    categoryOf (word ++ "." ++ name) = category := by
  simp only [namedWords, List.mem_cons, List.not_mem_nil, or_false, Prod.mk.injEq] at h
  unfold categoryOf
  rcases h with ⟨rfl, rfl⟩ | ⟨rfl, rfl⟩ | ⟨rfl, rfl⟩ <;> rw [upTo_append_point (by decide)] <;> rfl

/-! ## The three producers -/

theorem categoryOf_reading (h : Reading cs rest ref) : categoryOf ref.target = ref.category := by
  cases h with
  | @resource type behind name stop htype hname =>
    obtain ⟨-, hisType⟩ := resourceType?_eq_some htype
    refine categoryOf_resource ?_ fun hmem => not_mem_reservedWords hisType (List.mem_cons_of_mem _ hmem)
    rw [String.toList_ofList]
    intro hmem
    have hchar := hisType.chars _ hmem
    cases hchar
  | data => exact categoryOf_data
  | module => exact categoryOf_module
  | named hword => exact categoryOf_named hword _

theorem categoryOf_readSegments? (h : readSegments? (segments path) = some ref) :
    categoryOf ref.target = ref.category := by
  unfold readSegments? at h
  split at h
  case h_1 =>
    cases h
    exact categoryOf_data
  case h_2 =>
    cases h
    exact categoryOf_module
  case h_3 name _ _ =>
    cases h
    exact categoryOf_named (List.mem_cons_self : ("var", Category.variable) ∈ namedWords) name
  case h_4 name _ _ =>
    cases h
    exact categoryOf_named (by decide : ("local", Category.variable) ∈ namedWords) name
  case h_5 name _ _ =>
    cases h
    exact categoryOf_named (by decide : ("output", Category.output) ∈ namedWords) name
  case h_6 type name more _ hmodule hvar hlocal houtput hsegments =>
    cases h
    obtain ⟨_, hfirst⟩ := exists_segments path
    obtain ⟨rfl, -⟩ := List.cons.inj (hfirst.symm.trans hsegments)
    refine categoryOf_resource (not_mem_upTo path) ?_
    simp only [List.mem_cons, List.not_mem_nil, or_false, not_or]
    exact ⟨hmodule, hvar, hlocal, houtput⟩
  case h_7 => cases h

theorem categoryOf_implied {source : String} {text : List Char} (h : target ∈ r.implicitTargets source text) :
    categoryOf target = .resource := by
  have htypes : ∀ row ∈ implicitKeywords, ∀ type ∈ row.2,
      '.' ∉ type.toList ∧ type ∉ ["module", "var", "local", "output"] := by decide
  obtain ⟨-, -, row, hrow, -, type, htype, hmem⟩ := mem_implicitTargets.mp h
  rw [resourcesOfType_eq] at hmem
  obtain ⟨d, hd, rfl⟩ := List.mem_map.mp hmem
  obtain rfl : d.type = type := of_decide_eq_true (List.mem_filter.mp hd).2
  obtain ⟨hpoint, hword⟩ := htypes row hrow _ htype
  exact categoryOf_resource hpoint hword

theorem categoryOf_gives {block : ResourceBlock} (h : r.Gives block e) : categoryOf e.target = e.category.spelled := by
  cases h with
  | spelled hid href hlinks =>
    obtain ⟨-, -, rfl⟩ := hlinks
    obtain ⟨path?, hpath, _, _, _, -, -, hread⟩ := exists_of_mem_findIn href
    have hreading := reading_of_mem_forms hpath hread
    rw [Category.spelled_of_ne hreading.category]
    exact categoryOf_reading hreading
  | implied hid himplied => exact categoryOf_implied himplied

theorem categoryOf_givesParsed {block : ParsedBlock} (h : r.GivesParsed block e) :
    categoryOf e.target = e.category.spelled := by
  obtain ⟨-, -, path, -, ref, hread, -, -, rfl⟩ := h
  rw [Category.spelled_of_ne (category_of_readSegments? hread)]
  exact categoryOf_readSegments? hread

/-- The address of a target tells the category of every dependency on it, up to implicit ones. -/
theorem categoryOf_target (h : e ∈ (r.resolveParsed (r.resolve files) parsed).edges) :
    categoryOf e.target = e.category.spelled := by
  rcases mem_edges_resolveParsed.mp h with h | ⟨block, -, hgives⟩
  · obtain ⟨f, -, block, -, hgives⟩ := mem_edges_resolve.mp h
    exact categoryOf_gives hgives
  · exact categoryOf_givesParsed hgives

end Resolver

/-! ## Sizes -/

namespace Targets
variable {t : Targets} {x : String}

/-- A target is in one category only, or it is both a resource and an implicit dependency. -/
def Apart (t : Targets) : Prop :=
  ∀ c c' x, x ∈ t.get c → x ∈ t.get c' → c.spelled = c'.spelled

theorem Apart.disjoint (h : t.Apart) {c c' : Category} (hne : c.spelled ≠ c'.spelled) :
    List.Disjoint (t.get c) (t.get c') :=
  fun _ hx hx' => hne (h c c' _ hx hx')

theorem Apart.eq_implicit (h : t.Apart) {c : Category} (hx : x ∈ t.resources) (hne : c ≠ .resource)
    (hc : x ∈ t.get c) : c = .implicit := by
  have hspelled := h .resource c x hx hc
  cases c with
  | resource => exact absurd rfl hne
  | implicit => rfl
  | _ => cases hspelled

/-- The categories other than that of resources. -/
def otherCategories : List Category := [.module, .variable, .output, .implicit]

theorem mem_others : x ∈ otherCategories.flatMap t.get ↔ ∃ c, c ≠ .resource ∧ x ∈ t.get c := by
  have hmem : ∀ c, c ∈ otherCategories ↔ c ≠ .resource := by
    intro c
    cases c <;> decide
  simp only [List.mem_flatMap, hmem]

theorem nodup_others (h : t.Ordered) (hapart : t.Apart) : (otherCategories.flatMap t.get).Nodup := by
  have hpairs : otherCategories.Pairwise fun c c' => c.spelled ≠ c'.spelled := by decide
  exact List.nodup_flatMap.mpr ⟨fun c _ => h.nodup c, hpairs.imp hapart.disjoint⟩

/-- All targets together are the resources that are no implicit dependencies, and those of the other categories. -/
theorem combined_perm (h : t.Ordered) (hapart : t.Apart) :
    t.combined.Perm (t.resources.filter (fun x => !decide (x ∈ t.implicit)) ++ otherCategories.flatMap t.get) := by
  have hdisjoint : List.Disjoint (t.resources.filter fun x => !decide (x ∈ t.implicit))
      (otherCategories.flatMap t.get) := by
    intro x hx hothers
    obtain ⟨hx, hnot⟩ := List.mem_filter.mp hx
    obtain ⟨c, hne, hc⟩ := mem_others.mp hothers
    obtain rfl := hapart.eq_implicit hx hne hc
    have himplicit : x ∈ t.implicit := hc
    simp [himplicit] at hnot
  have hnodup := (List.Nodup.filter _ (h.nodup .resource)).append (nodup_others h hapart) hdisjoint
  refine (List.perm_ext_iff_of_nodup (Names.nodup_ofList _) hnodup).mpr fun x => ?_
  have hcombined : x ∈ t.combined ↔ ∃ c, x ∈ t.get c := mem_combined
  refine hcombined.trans ?_
  rw [List.mem_append, List.mem_filter, mem_others]
  constructor
  · rintro ⟨c, hc⟩
    by_cases hresource : c = .resource
    · subst hresource
      by_cases himplicit : x ∈ t.implicit
      · exact Or.inr ⟨.implicit, by decide, himplicit⟩
      · exact Or.inl ⟨hc, by simp [himplicit]⟩
    · exact Or.inr ⟨c, hresource, hc⟩
  · rintro (⟨hx, -⟩ | ⟨c, -, hc⟩)
    · exact ⟨.resource, hx⟩
    · exact ⟨c, hc⟩

/-- Only the resources that are implicit dependencies as well are counted twice. -/
theorem length_combined (h : t.Ordered) (hapart : t.Apart) :
    t.combined.length + (t.resources.filter (· ∈ t.implicit)).length = t.size := by
  have hsize : t.size = t.resources.length + (otherCategories.flatMap t.get).length := by
    unfold size
    rw [total_map_length]
    exact List.length_append
  have hcombined := (combined_perm h hapart).length_eq
  have hresources := List.length_eq_length_filter_add (l := t.resources) fun x => decide (x ∈ t.implicit)
  rw [List.length_append] at hcombined
  omega

end Targets

namespace Resolver
open DependencyMap
variable {r : Resolver} {files : List SourceFile} {parsed : List ParsedFile}

theorem apart_targetsOf (id : String) : ((r.resolveParsed (r.resolve files) parsed).targetsOf id).Apart := by
  intro c c' x hx hx'
  have hordered := ordered_resolveParsed r files parsed
  exact (categoryOf_target (hordered.mem_targetsOf.mp hx)).symm.trans
    (categoryOf_target (hordered.mem_targetsOf.mp hx'))

/-- In what is resolved from files and parsed blocks, the categories of a resource are disjoint, save for resources
    and implicit dependencies. So its targets are as many as those of its categories, less those in both of these. -/
theorem categories_apart (r : Resolver) (files : List SourceFile) (parsed : List ParsedFile) :
    let m := r.resolveParsed (r.resolve files) parsed
    (∀ entry ∈ m.entries,
      (∀ c c', c ≠ .implicit → c' ≠ .implicit → c ≠ c' → List.Disjoint (entry.2.get c) (entry.2.get c')) ∧
      ∀ c ∈ [Category.module, .variable, .output], List.Disjoint entry.2.implicit (entry.2.get c)) ∧
    ∀ id, (m.combined id).length + ((m.targetsOf id).resources.filter (· ∈ (m.targetsOf id).implicit)).length =
      (m.targetsOf id).size := by
  intro m
  have hordered : m.Ordered := ordered_resolveParsed r files parsed
  refine ⟨fun entry hentry => ?_, fun id => ?_⟩
  · have htargets : entry.2 = m.targetsOf entry.1 := by
      unfold DependencyMap.targetsOf
      rw [hordered.get?_eq_some.mpr hentry, Option.getD_some]
    have hapart : entry.2.Apart := htargets ▸ apart_targetsOf entry.1
    refine ⟨fun c c' hc hc' hne => hapart.disjoint ?_, fun c hc => ?_⟩
    · rwa [Category.spelled_of_ne hc, Category.spelled_of_ne hc']
    · have hspelled : ∀ c ∈ [Category.module, .variable, .output], Category.implicit.spelled ≠ c.spelled := by decide
      exact hapart.disjoint (hspelled c hc)
  · have hcombined : m.combined id = (m.targetsOf id).combined := by
      unfold DependencyMap.combined DependencyMap.targetsOf
      cases m.get? id <;> rfl
    rw [hcombined]
    exact Targets.length_combined (hordered.targetsOf id) (apart_targetsOf id)

end Resolver

end ResourceGraph
