import ResourceGraph.Proofs.Dependency.Declared
import ResourceGraph.Proofs.Dependency.Entries

/-! # Implicit dependencies

A resource depends implicitly on all others whose declared type a keyword in one of its blocks stands for. The strict
mode keeps those of them whose address occurs in the same block, and it changes nothing else. There the keywords
play no part any more: the type of a resource holds the keyword that stands for it, so the address does. The
address need not stand on its own, though. It also occurs in every name that starts or ends with it. -/

namespace ResourceGraph
open Text Reference

/-- Some block of a resource has a text of some kind. -/
def SomeBlock (files : List SourceFile) (source : String) (p : List Char → Prop) : Prop :=
  ∃ f ∈ files, ∃ block ∈ resourceBlocks f.chars, block.id = source ∧ p block.text

theorem SomeBlock.imp {p q : List Char → Prop} {files : List SourceFile} {source : String}
    (hpq : ∀ text, p text → q text) (h : SomeBlock files source p) : SomeBlock files source q := by
  obtain ⟨f, hf, block, hblock, hsource, hp⟩ := h
  exact ⟨f, hf, block, hblock, hsource, hpq _ hp⟩

/-- A keyword stands for the type of what is declared at an address. -/
def StandsFor (registry : Registry) (keyword target : String) : Prop :=
  ∃ d, registry.get? target = some d ∧ ∃ types, (keyword, types) ∈ implicitKeywords ∧ d.type ∈ types

/-- Two different resources, the second of which some keyword stands for. -/
structure Candidate (registry : Registry) (source target : String) : Prop where
  sourceListed : source ∈ registry.resourceIds
  targetListed : target ∈ registry.resourceIds
  distinct : target ≠ source
  keyword : ∃ keyword, StandsFor registry keyword target

variable {registry : Registry} {strict : Bool} {files : List SourceFile} {source target keyword : String}
  {word text : List Char}

/-- An address holds the keywords that stand for it. -/
theorem StandsFor.keyword_infix (h : registry.Built) (hkeyword : StandsFor registry keyword target) :
    keyword.toList <:+: target.toList := by
  have htypes : ∀ row ∈ implicitKeywords, ∀ type ∈ row.2, occurs row.1.toList type.toList = true := by decide
  obtain ⟨d, hget, types, hrow, htype⟩ := hkeyword
  obtain rfl := h.keyed.id_of_get? hget
  refine (occurs_iff.mp (htypes _ hrow _ htype)).trans ⟨[], '.' :: d.name.toList, ?_⟩
  simp [Declaration.id]

namespace Resolver
open DependencyMap

/-! ## Both modes -/

theorem mem_implicit_resolve (h : registry.Built) :
    target ∈ ((resolve ⟨registry, strict⟩ files).targetsOf source).implicit ↔
      source ∈ registry.resourceIds ∧ target ∈ registry.resourceIds ∧ target ≠ source ∧
      ∃ keyword, StandsFor registry keyword target ∧
        SomeBlock files source fun text => keyword.toList <:+: text ∧ (strict = true → target.toList <:+: text) := by
  have hedge : target ∈ ((resolve ⟨registry, strict⟩ files).targetsOf source).implicit ↔
      ⟨source, target, .implicit⟩ ∈ (resolve ⟨registry, strict⟩ files).edges :=
    (ordered_resolve _ files).mem_targetsOf (c := .implicit)
  rw [hedge, mem_edges_resolve]
  constructor
  · rintro ⟨f, hf, block, hblock, hgives⟩
    generalize he : Dependency.mk source target .implicit = e at hgives
    cases hgives with
    | spelled _ href hlinks =>
      obtain ⟨-, -, rfl⟩ := hlinks
      exact absurd (congrArg Dependency.category he).symm (category_of_mem_findIn href)
    | implied hid himplied =>
      cases he
      obtain ⟨hne, hstrict, row, hrow, hoccurs, type, htype, htarget⟩ := mem_implicitTargets.mp himplied
      obtain ⟨hlisted, d, hget, rfl⟩ := (mem_resourcesOfType h.keyed).mp htarget
      exact ⟨(isResource_iff h).mp hid, hlisted, hne, row.1, ⟨d, hget, row.2, hrow, htype⟩, f, hf, block, hblock, rfl,
        occurs_iff.mp hoccurs, fun hs => occurs_iff.mp (hstrict hs)⟩
  · rintro ⟨hid, hlisted, hne, keyword, ⟨d, hget, types, hrow, htype⟩, f, hf, block, hblock, rfl, hoccurs, hstrict⟩
    refine ⟨f, hf, block, hblock, .implied ((isResource_iff h).mpr hid) (mem_implicitTargets.mpr ?_)⟩
    exact ⟨hne, fun hs => occurs_iff.mpr (hstrict hs), _, hrow, occurs_iff.mpr hoccurs, d.type, htype,
      (mem_resourcesOfType h.keyed).mpr ⟨hlisted, d, hget, rfl⟩⟩

theorem gives_congr {strict' : Bool} {block : ResourceBlock} {e : Dependency} (hne : e.category ≠ .implicit)
    (h : Gives ⟨registry, strict⟩ block e) : Gives ⟨registry, strict'⟩ block e := by
  cases h with
  | spelled hid href hlinks => exact .spelled hid href ⟨hlinks.distinct, hlinks.target, hlinks.eq⟩
  | implied => exact absurd rfl hne

/-- What blocks spell out is the same in both modes. -/
theorem get_targetsOf_resolve {c : Category} (hne : c ≠ .implicit) (id : String) :
    ((resolve ⟨registry, true⟩ files).targetsOf id).get c = ((resolve ⟨registry, false⟩ files).targetsOf id).get c := by
  have hstrict := ordered_resolve ⟨registry, true⟩ files
  have hloose := ordered_resolve ⟨registry, false⟩ files
  refine (hstrict.targetsOf id c).eq_of_mem_iff (hloose.targetsOf id c) fun x => ?_
  rw [hstrict.mem_targetsOf, hloose.mem_targetsOf, mem_edges_resolve, mem_edges_resolve]
  constructor
  · rintro ⟨f, hf, block, hblock, hgives⟩
    exact ⟨f, hf, block, hblock, gives_congr hne hgives⟩
  · rintro ⟨f, hf, block, hblock, hgives⟩
    exact ⟨f, hf, block, hblock, gives_congr hne hgives⟩

/-- Without the strict mode a resource depends implicitly on just those others whose type a keyword in one of its
    blocks stands for. With it there are the same resources, the other categories are the same, and nothing else is
    implied. -/
theorem implicit_resolve (h : registry.Built) (files : List SourceFile) :
    let loose := resolve ⟨registry, false⟩ files
    let strict := resolve ⟨registry, true⟩ files
    (∀ source ∈ registry.resourceIds, ∀ target, target ∈ (loose.targetsOf source).implicit ↔
      target ∈ registry.resourceIds ∧ target ≠ source ∧ ∃ keyword, StandsFor registry keyword target ∧
        SomeBlock files source (keyword.toList <:+: ·)) ∧
    strict.ids = loose.ids ∧
    ∀ id, (∀ c, c ≠ .implicit → (strict.targetsOf id).get c = (loose.targetsOf id).get c) ∧
      (strict.targetsOf id).implicit ⊆ (loose.targetsOf id).implicit := by
  intro loose strict
  refine ⟨fun source hsource target => ?_, ?_, fun id => ⟨fun c hne => get_targetsOf_resolve hne id, ?_⟩⟩
  · have himplicit : target ∈ (loose.targetsOf source).implicit ↔ _ := mem_implicit_resolve h
    simpa [hsource] using himplicit
  · exact (ids_resolve ⟨registry, true⟩ files).trans (ids_resolve ⟨registry, false⟩ files).symm
  · intro target htarget
    obtain ⟨hid, hlisted, hne, keyword, hkeyword, f, hf, block, hblock, hsource, hoccurs, -⟩ :=
      (mem_implicit_resolve h).mp htarget
    exact (mem_implicit_resolve h).mpr ⟨hid, hlisted, hne, keyword, hkeyword, f, hf, block, hblock, hsource, hoccurs,
      fun hfalse => nomatch hfalse⟩

/-- Two subnets, the address of one of which starts with that of the other, and an instance. -/
def similarSubnets : Registry :=
  Registry.empty.insertAll [.make .resource "aws_subnet" "a" "main.tf", .make .resource "aws_subnet" "ab" "main.tf",
    .make .resource "aws_instance" "web" "main.tf"]

theorem built_similarSubnets : similarSubnets.Built := .insert (.insert (.insert .empty _) _) _

/-- A block of the instance that names the second subnet. -/
def inSubnet : ResourceBlock :=
  ⟨"aws_instance.web", "resource \"aws_instance\" \"web\" \x7b\n  subnet_id = aws_subnet.ab.id\n\x7d".toList, true⟩

/-- The file of that block. -/
def inSubnetFile : SourceFile := ⟨"main.tf", String.ofList inSubnet.text⟩

theorem someBlock_inSubnet {p : List Char → Prop} :
    SomeBlock [inSubnetFile] "aws_instance.web" p ↔ p inSubnet.text := by
  have hblocks : resourceBlocks inSubnetFile.chars = [inSubnet] := by rfl
  unfold SomeBlock
  simp [hblocks, inSubnet]

theorem standsFor_subnet (h : target ∈ ["aws_subnet.a", "aws_subnet.ab"]) :
    StandsFor similarSubnets "subnet" target := by
  have hdeclared : ∀ target ∈ ["aws_subnet.a", "aws_subnet.ab"],
      (similarSubnets.get? target).any (·.type = "aws_subnet") = true := by decide
  obtain ⟨d, hget, htype⟩ := (Option.any_eq_true _ _).mp (hdeclared target h)
  refine ⟨d, hget, ["aws_subnet", "azurerm_subnet", "google_compute_subnetwork"], by decide, ?_⟩
  rw [of_decide_eq_true htype]
  exact List.mem_cons_self

theorem implicit_resolve_subnets : similarSubnets.Built ∧
    let loose := resolve ⟨similarSubnets, false⟩ [inSubnetFile]
    let strict := resolve ⟨similarSubnets, true⟩ [inSubnetFile]
    "aws_subnet.a" ∈ (loose.targetsOf "aws_instance.web").implicit ∧ strict.ids = loose.ids := by
  obtain ⟨himplicit, hids, -⟩ := implicit_resolve built_similarSubnets [inSubnetFile]
  have mentioned : SomeBlock [inSubnetFile] "aws_instance.web" ("subnet".toList <:+: ·) :=
    someBlock_inSubnet.mpr (occurs_iff.mp (by decide))
  have implied := (himplicit "aws_instance.web" (by decide) "aws_subnet.a").mpr
    ⟨by decide, by decide, "subnet", standsFor_subnet (by decide), mentioned⟩
  exact ⟨built_similarSubnets, implied, hids⟩

/-! ## The strict mode -/

/-- Neither the character in front of a place nor the one behind it belongs to a name. -/
def Alone (front back : List Char) : Prop :=
  front.getLast?.any isSegmentChar = false ∧ back.head?.any isSegmentChar = false

instance : DecidableRel Alone := fun _ _ => inferInstanceAs (Decidable (_ ∧ _))

/-- A word stands in a text, between a front and a back of some kind. -/
def StandsIn (p : List Char → List Char → Prop) (word text : List Char) : Prop :=
  ∃ front back, text = front ++ word ++ back ∧ p front back

theorem infix_iff_standsIn : word <:+: text ↔ StandsIn Alone word text ∨ StandsIn (¬Alone · ·) word text := by
  constructor
  · rintro ⟨front, back, rfl⟩
    by_cases h : Alone front back
    · exact Or.inl ⟨front, back, rfl, h⟩
    · exact Or.inr ⟨front, back, rfl, h⟩
  · rintro (⟨front, back, rfl, -⟩ | ⟨front, back, rfl, -⟩)
    · exact List.infix_append front word back
    · exact List.infix_append front word back

/-- A word stands in a text just if it does behind some number of its characters. -/
theorem standsIn_iff {p : List Char → List Char → Prop} : StandsIn p word text ↔
    ∃ n ∈ List.range (text.length + 1), (text.drop n).take word.length = word ∧
      p (text.take n) (text.drop (n + word.length)) := by
  constructor
  · rintro ⟨front, back, rfl, hp⟩
    have hlength : front.length < (front ++ word ++ back).length + 1 := by
      simp only [List.length_append]
      omega
    refine ⟨front.length, List.mem_range.mpr hlength, ?_⟩
    rw [← List.drop_drop, List.append_assoc, List.drop_left, List.take_left, List.take_left, List.drop_left]
    exact ⟨rfl, hp⟩
  · rintro ⟨n, -, hword, hp⟩
    refine ⟨text.take n, text.drop (n + word.length), ?_, hp⟩
    have hrest : word ++ (text.drop n).drop word.length = text.drop n := by
      nth_rewrite 1 [← hword]
      exact List.take_append_drop word.length (text.drop n)
    rw [← List.drop_drop, List.append_assoc, hrest, List.take_append_drop]

instance {p : List Char → List Char → Prop} [DecidableRel p] : DecidableRel (StandsIn p) :=
  fun _ _ => decidable_of_iff' _ standsIn_iff

/-- In the strict mode a resource depends implicitly on just those candidates whose address occurs in one of its
    blocks. So it does on all that a block names; and what no block names is implied only by a longer name that the
    address is a part of. -/
theorem strict_implicit (h : registry.Built) (files : List SourceFile) (source target : String) :
    let implied := target ∈ ((resolve ⟨registry, true⟩ files).targetsOf source).implicit
    let named := SomeBlock files source (StandsIn Alone target.toList)
    (implied ↔ Candidate registry source target ∧ SomeBlock files source (target.toList <:+: ·)) ∧
    (Candidate registry source target → named → implied) ∧
    (implied → ¬SomeBlock files source (StandsIn (¬Alone · ·) target.toList) → named) := by
  intro implied named
  have himplied : implied ↔ Candidate registry source target ∧ SomeBlock files source (target.toList <:+: ·) := by
    constructor
    · intro himplicit
      obtain ⟨hid, hlisted, hne, keyword, hkeyword, hblock⟩ := (mem_implicit_resolve h).mp himplicit
      exact ⟨⟨hid, hlisted, hne, keyword, hkeyword⟩, hblock.imp fun _ hoccurs => hoccurs.2 rfl⟩
    · rintro ⟨⟨hid, hlisted, hne, keyword, hkeyword⟩, hblock⟩
      refine (mem_implicit_resolve h).mpr ⟨hid, hlisted, hne, keyword, hkeyword, hblock.imp fun _ hoccurs => ?_⟩
      exact ⟨(hkeyword.keyword_infix h).trans hoccurs, fun _ => hoccurs⟩
  refine ⟨himplied, fun hcandidate hnamed => ?_, fun hlinked hnone => ?_⟩
  · exact himplied.mpr ⟨hcandidate, hnamed.imp fun _ hstands => infix_iff_standsIn.mpr (Or.inl hstands)⟩
  · obtain ⟨f, hf, block, hblock, hsource, hoccurs⟩ := (himplied.mp hlinked).2
    refine ⟨f, hf, block, hblock, hsource, (infix_iff_standsIn.mp hoccurs).resolve_right fun hpart => ?_⟩
    exact hnone ⟨f, hf, block, hblock, hsource, hpart⟩

theorem strict_implicit_subnets : similarSubnets.Built ∧
    "aws_subnet.ab" ∈ ((resolve ⟨similarSubnets, true⟩ [inSubnetFile]).targetsOf "aws_instance.web").implicit ∧
    SomeBlock [inSubnetFile] "aws_instance.web" (StandsIn Alone "aws_subnet.ab".toList) := by
  obtain ⟨himplied, -, hnamed⟩ := strict_implicit built_similarSubnets [inSubnetFile] "aws_instance.web" "aws_subnet.ab"
  have candidate : Candidate similarSubnets "aws_instance.web" "aws_subnet.ab" :=
    ⟨by decide, by decide, by decide, "subnet", standsFor_subnet (by decide)⟩
  have implied := himplied.mpr ⟨candidate, someBlock_inSubnet.mpr (occurs_iff.mp (by decide))⟩
  exact ⟨built_similarSubnets, implied, hnamed implied (mt someBlock_inSubnet.mp (by decide +kernel))⟩

/-- The instance depends on both subnets, although its block names only one of them. -/
theorem not_strict_implicit_named : ¬∀ (registry : Registry) (files : List SourceFile) (source target : String),
    registry.Built → target ∈ ((resolve ⟨registry, true⟩ files).targetsOf source).implicit →
      SomeBlock files source (StandsIn Alone target.toList) := by
  intro h
  have occurs : "aws_subnet.a".toList <:+: inSubnet.text := occurs_iff.mp (by decide)
  have mentioned : "subnet".toList <:+: inSubnet.text := occurs_iff.mp (by decide)
  have implied : "aws_subnet.a" ∈
      ((resolve ⟨similarSubnets, true⟩ [inSubnetFile]).targetsOf "aws_instance.web").implicit :=
    (mem_implicit_resolve built_similarSubnets).mpr ⟨by decide, by decide, by decide, "subnet",
      standsFor_subnet (by decide), someBlock_inSubnet.mpr ⟨mentioned, fun _ => occurs⟩⟩
  have alone := someBlock_inSubnet.mp (h _ _ _ _ built_similarSubnets implied)
  revert alone
  decide +kernel

end Resolver

end ResourceGraph
