import ResourceGraph.Proofs.Dependency.Paths

/-! # Addresses in paths

A path is classified by its first segments. If the parts of a declaration hold neither a point nor a bracket, its
address, with or without further segments behind it, is classified as the declaration; and whatever a path is
classified as stands at its start. An index behind the address is dropped from the name of a resource only: in
the other kinds it stays part of the name, so that the path leads nowhere unless something has a name like that. -/

namespace ResourceGraph
open Text

/-! ## Segments -/

namespace Resolver
variable {path front name tail : String} {more : List String} {stop : Char}

/-- A text up to the first of some character. -/
def upTo (stop : Char) (s : String) : String := String.ofList (s.toList.takeWhile (· ≠ stop))

theorem dropIndex_eq_upTo (s : String) : dropIndex s = upTo '[' s := rfl

/-- What may stand behind the address in a path: nothing, or a point and anything. -/
def IsTail (s : String) : Prop := s = "" ∨ ∃ more, s = "." ++ more

theorem upTo_append (h : stop ∉ name.toList) (rest : String) : upTo stop (name ++ rest) = name ++ upTo stop rest := by
  have hchars : ∀ c ∈ name.toList, decide (c ≠ stop) = true := fun c hc =>
    decide_eq_true fun heq => h (heq ▸ hc)
  unfold upTo
  rw [String.toList_append, List.takeWhile_append_of_pos hchars, String.ofList_append, String.ofList_toList]

theorem upTo_stop (stop : Char) (rest : String) : upTo stop (String.singleton stop ++ rest) = "" := by
  unfold upTo
  rw [String.toList_append, String.toList_singleton, List.singleton_append, List.takeWhile_cons_of_neg (by simp)]

theorem not_mem_upTo (s : String) : stop ∉ (upTo stop s).toList := by
  unfold upTo
  rw [String.toList_ofList]
  intro hmem
  simpa using List.mem_takeWhile_imp hmem

/-- Behind the first part there is nothing, or the character and anything. -/
theorem eq_upTo_append (stop : Char) (s : String) :
    s = upTo stop s ∨ ∃ rest, s = upTo stop s ++ String.singleton stop ++ rest := by
  have hs : s = upTo stop s ++ String.ofList (s.toList.dropWhile (· ≠ stop)) := by
    unfold upTo
    rw [← String.ofList_append, List.takeWhile_append_dropWhile, String.ofList_toList]
  cases hdrop : s.toList.dropWhile (· ≠ stop) with
  | nil =>
    rw [hdrop] at hs
    exact Or.inl (hs.trans String.append_empty)
  | cons c cs =>
    have hhead := List.head?_dropWhile_not (· ≠ stop) s.toList
    rw [hdrop] at hhead hs
    obtain rfl : c = stop := by simpa using hhead
    refine Or.inr ⟨String.ofList cs, hs.trans ?_⟩
    rw [String.append_assoc]
    congr 1
    apply String.toList_inj.mp
    simp

theorem IsTail.upTo_eq (h : IsTail tail) : upTo '.' tail = "" := by
  rcases h with rfl | ⟨more, rfl⟩
  · rfl
  · exact upTo_stop '.' more

theorem segments_of_not_mem (h : '.' ∉ path.toList) : segments path = [path] := by
  unfold segments
  rw [split_of_not_mem h, List.map_singleton, String.ofList_toList]

theorem segments_append (h : '.' ∉ front.toList) (back : String) :
    segments (front ++ "." ++ back) = front :: segments back := by
  have hchars : (front ++ "." ++ back).toList = front.toList ++ '.' :: back.toList := by
    rw [String.toList_append, String.toList_append, List.append_assoc]
    rfl
  unfold segments
  rw [hchars, split_append h, List.map_cons, String.ofList_toList]

/-- A path is one segment, or a segment with a point and a path behind it. -/
theorem segments_cases (path : String) : path = upTo '.' path ∧ segments path = [upTo '.' path] ∨
    ∃ back, path = upTo '.' path ++ "." ++ back ∧ segments path = upTo '.' path :: segments back := by
  rcases eq_upTo_append '.' path with hpath | ⟨back, hpath⟩
  · exact Or.inl ⟨hpath, (congrArg segments hpath).trans (segments_of_not_mem (not_mem_upTo path))⟩
  · exact Or.inr ⟨back, hpath, (congrArg segments hpath).trans (segments_append (not_mem_upTo path) back)⟩

theorem exists_segments (path : String) : ∃ more, segments path = upTo '.' path :: more := by
  rcases segments_cases path with ⟨-, hsegments⟩ | ⟨back, -, hsegments⟩
  · exact ⟨[], hsegments⟩
  · exact ⟨segments back, hsegments⟩

theorem segments_eq_cons (h : segments path = front :: more) : ∃ tail, path = front ++ tail ∧ IsTail tail := by
  rcases segments_cases path with ⟨hpath, hsegments⟩ | ⟨back, hpath, hsegments⟩
  · rw [hsegments] at h
    obtain ⟨rfl, -⟩ := List.cons.inj h
    exact ⟨"", hpath.trans String.append_empty.symm, Or.inl rfl⟩
  · rw [hsegments] at h
    obtain ⟨rfl, -⟩ := List.cons.inj h
    exact ⟨"." ++ back, hpath.trans String.append_assoc, Or.inr ⟨back, rfl⟩⟩

/-- Behind the first of several segments there are a point and the others. -/
theorem segments_eq_cons_cons {next : String} (h : segments path = front :: next :: more) :
    ∃ back, path = front ++ "." ++ back ∧ segments back = next :: more := by
  rcases segments_cases path with ⟨-, hsegments⟩ | ⟨back, hpath, hsegments⟩
  · rw [hsegments] at h
    cases h
  · rw [hsegments] at h
    obtain ⟨rfl, hback⟩ := List.cons.inj h
    exact ⟨back, hpath, hback⟩

/-! ## Reading -/

variable {ref : Reference}

/-- What the segments read is where the path starts. A point or an index may follow. -/
theorem eq_append_of_readSegments? (h : readSegments? (segments path) = some ref) :
    ∃ rest, path = ref.target ++ rest ∧ (IsTail rest ∨ ∃ more, rest = "[" ++ more) := by
  have named {path word name : String} {more : List String} (hsegments : segments path = word :: name :: more) :
      ∃ tail, path = word ++ "." ++ name ++ tail ∧ IsTail tail := by
    obtain ⟨back, hpath, hback⟩ := segments_eq_cons_cons hsegments
    obtain ⟨tail, rfl, htail⟩ := segments_eq_cons hback
    exact ⟨tail, hpath.trans String.append_assoc.symm, htail⟩
  unfold readSegments? at h
  split at h
  case h_1 type name more hsegments =>
    cases h
    obtain ⟨back, rfl, hback⟩ := segments_eq_cons_cons hsegments
    obtain ⟨tail, rfl, htail⟩ := named hback
    refine ⟨tail, ?_, Or.inl htail⟩
    simp only [← String.append_assoc]
    rfl
  case h_6 type name more _ _ _ _ _ hsegments =>
    cases h
    obtain ⟨tail, rfl, htail⟩ := named hsegments
    rcases eq_upTo_append '[' name with hname | ⟨index, hname⟩
    · exact ⟨tail, congrArg (type ++ "." ++ · ++ tail) hname, Or.inl htail⟩
    · refine ⟨"[" ++ index ++ tail, ?_, Or.inr ⟨index ++ tail, String.append_assoc⟩⟩
      conv_lhs => rw [hname]
      simp only [← String.append_assoc]
      rfl
  case h_7 => cases h
  -- The other words are followed by the name alone.
  all_goals
    rename_i hsegments
    cases h
    obtain ⟨tail, hpath, htail⟩ := named hsegments
    exact ⟨tail, hpath, Or.inl htail⟩

end Resolver

/-! ## Plain parts -/

/-- The category of references to declarations of a kind. No path leads to a provider. -/
def Kind.category? : Kind → Option Category
  | .resource | .data => some .resource
  | .module => some .module
  | .variable | .local => some .variable
  | .output => some .output
  | .provider => none

/-- The words that addresses start with. -/
def addressWords : List String := Kind.all.filterMap Kind.addressWord?

/-- A part of an address with neither a point nor a bracket. -/
def IsPlain (s : String) : Prop := '.' ∉ s.toList ∧ '[' ∉ s.toList

instance : DecidablePred IsPlain := fun _ => inferInstanceAs (Decidable (_ ∧ _))

/-- A declaration made of a plain type and a plain name. The type of a resource is none of the words. -/
def Declaration.Plain (d : Declaration) : Prop := IsPlain d.name ∧ ∃ type, IsPlain type ∧
  d = .make d.kind type d.name d.file ∧ (d.kind = .resource → type ∉ addressWords)

namespace Resolver
open Registry
variable {path tail : String} {d e : Declaration} {category : Category} {registry : Registry}
  {ds : List Declaration} {strict : Bool}

/-! ### The first segment of an address -/

/-- The address of anything but a resource starts with a word. -/
theorem segments_id_of_made (hd : d.Made) (hkind : d.kind ≠ .resource) :
    ∃ word ∈ addressWords, ∃ more, segments d.id = word :: more := by
  obtain ⟨type, hmake⟩ := hd
  have hdtype : d.type = (Declaration.make d.kind type d.name d.file).type := congrArg Declaration.type hmake
  unfold Declaration.id
  cases hdkind : d.kind with
  | resource => exact absurd hdkind hkind
  | data =>
    rw [hdtype, hdkind]
    refine ⟨"data", by decide, segments (type ++ "." ++ d.name), ?_⟩
    rw [← segments_append (by decide), ← String.append_assoc, ← String.append_assoc]
    rfl
  | _ =>
    simp only [hdkind, Declaration.make, Kind.addressWord?, reduceCtorEq, if_false] at hdtype
    rw [hdtype]
    exact ⟨_, by decide, segments d.name, segments_append (by decide) _⟩

/-- Only a resource is declared at the address of a plain one. -/
theorem kind_eq_of_plain (he : e.Made) (hd : d.Plain) (hkind : d.kind = .resource) (hid : e.id = d.id) :
    e.kind = .resource := by
  obtain ⟨-, type, ⟨htype, -⟩, hmake, hword⟩ := hd
  have hdtype : d.type = type := by
    rw [hmake, hkind]
    rfl
  by_contra hother
  obtain ⟨word, hmem, more, hsegments⟩ := segments_id_of_made he hother
  rw [hid, Declaration.id, hdtype, segments_append htype] at hsegments
  obtain ⟨rfl, -⟩ := List.cons.inj hsegments
  exact hword hkind hmem

/-- What is declared at its address counts as a target. -/
theorem counts_of_plain (h : registry.Declares ds) (hmade : ∀ d ∈ ds, d.Made) (hget : registry.get? d.id = some d)
    (hd : d.Plain) (hcategory : d.kind.category? = some category) : Counts registry d.id := by
  by_cases hkind : d.kind = .resource
  · obtain ⟨first, hfirst⟩ : ∃ first, firstAt? ds d.id = some first := by
      rw [← Option.ne_none_iff_exists', Ne, firstAt?_eq_none, ← h.get?_eq, hget]
      exact Option.some_ne_none d
    obtain ⟨hmem, hid⟩ := mem_of_firstAt? hfirst
    exact Or.inl (h.mem_resourceIds.mpr ⟨first, hfirst, kind_eq_of_plain (hmade first hmem) hd hkind hid⟩)
  · refine Or.inr ⟨d, hget, ?_⟩
    revert hkind hcategory
    cases d.kind <;> simp [Kind.category?]

/-- What counts as a target is one of the things that were declared. -/
theorem exists_mem_of_counts {id : String} (h : registry.Declares ds) (hcounts : Counts registry id) :
    ∃ d ∈ ds, d.id = id := by
  obtain ⟨d, hget⟩ : ∃ d, registry.get? id = some d := by
    rcases hcounts with hid | ⟨d, hget, -⟩
    · exact contains_iff.mp (h.built.listed.contains id hid)
    · exact ⟨d, hget⟩
  rw [h.get?_eq] at hget
  exact ⟨d, mem_of_lastAt? hget⟩

/-! ### Paths behind an address -/

/-- A path that starts with the type of a plain declaration is read as one to its kind, with the next segment as the
    name. Only the name of a resource loses its index. -/
theorem readSegments?_plain (hd : d.Plain) (hcategory : d.kind.category? = some category) (back : String) :
    readSegments? (segments (d.type ++ "." ++ back)) = some
      ⟨d.type ++ "." ++ if d.kind = .resource then dropIndex (upTo '.' back) else upTo '.' back, category⟩ := by
  obtain ⟨-, type, ⟨htype, -⟩, hmake, hword⟩ := hd
  obtain ⟨more, hback⟩ := exists_segments back
  have named {word : String} (hplain : '.' ∉ word.toList) :
      segments (word ++ "." ++ back) = word :: upTo '.' back :: more := by
    rw [segments_append hplain, hback]
  have hdtype : d.type = (Declaration.make d.kind type d.name d.file).type := congrArg Declaration.type hmake
  cases hkind : d.kind with
  | resource =>
    rw [hkind] at hdtype hcategory
    cases hcategory
    have hreserved : type ∉ Reference.reservedWords := fun hmem =>
      hword hkind ((by decide : ∀ word ∈ Reference.reservedWords, word ∈ addressWords) type hmem)
    rw [hdtype]
    exact (congrArg readSegments? (named htype)).trans (readSegments?_of_not_mem hreserved)
  | data =>
    rw [hkind] at hdtype hcategory
    cases hcategory
    have hsegments : segments ("data" ++ "." ++ (type ++ "." ++ back)) = "data" :: type :: upTo '.' back :: more := by
      rw [segments_append (by decide), named htype]
    rw [← String.append_assoc, ← String.append_assoc] at hsegments
    rw [hdtype]
    exact congrArg readSegments? hsegments
  | provider =>
    rw [hkind] at hcategory
    cases hcategory
  | _ =>
    simp only [hkind, Declaration.make, Kind.addressWord?, reduceCtorEq, if_false] at hdtype
    rw [hkind] at hcategory
    cases hcategory
    rw [hdtype]
    exact congrArg readSegments? (named (by decide))

/-- A path behind a plain address is read as the address, with what stands behind the name in its segment. -/
theorem readSegments?_id_append (hd : d.Plain) (hcategory : d.kind.category? = some category) (back : String) :
    readSegments? (segments (d.id ++ back)) = some
      ⟨d.id ++ if d.kind = .resource then dropIndex (upTo '.' back) else upTo '.' back, category⟩ := by
  have hread := readSegments?_plain hd hcategory (d.name ++ back)
  have hid (s : String) : d.id ++ s = d.type ++ "." ++ (d.name ++ s) := String.append_assoc
  obtain ⟨⟨hpoint, hbracket⟩, -⟩ := hd
  rw [hid, hid, hread, upTo_append hpoint]
  split
  · rw [dropIndex_eq_upTo, dropIndex_eq_upTo, upTo_append hbracket]
  · rfl

/-- A path is classified as what is read in it, if that counts as a target. -/
theorem classify?_eq_some_of_read {ref other : Reference} (h : registry.Built)
    (hread : readSegments? (segments path) = some ref) :
    classify? ⟨registry, strict⟩ path = some other ↔ other = ref ∧ Counts registry ref.target := by
  rw [classify?_eq_some, hread, Option.some_inj]
  constructor
  · rintro ⟨rfl, htarget⟩
    exact ⟨rfl, counts_of_isTarget h htarget⟩
  · rintro ⟨rfl, hcounts⟩
    exact ⟨rfl, isTarget_of_counts h hcounts⟩

/-- A path to a plain address leads there. -/
theorem classify?_id_append (h : registry.Declares ds) (hmade : ∀ d ∈ ds, d.Made) (hget : registry.get? d.id = some d)
    (hd : d.Plain) (hcategory : d.kind.category? = some category) (htail : IsTail tail) :
    classify? ⟨registry, strict⟩ (d.id ++ tail) = some ⟨d.id, category⟩ := by
  have hread := readSegments?_id_append hd hcategory tail
  rw [htail.upTo_eq, show dropIndex "" = "" from rfl, ite_self, String.append_empty] at hread
  exact (classify?_eq_some_of_read h.built hread).mpr ⟨rfl, counts_of_plain h hmade hget hd hcategory⟩

/-- A plain address with further segments behind it is classified as what is declared there. Whatever a path is
    classified as is declared, and it stands at the start of the path, with nothing, a point or a bracket behind
    it. -/
theorem classify_address (h : registry.Declares ds) (strict : Bool) :
    ((∀ d ∈ ds, d.Made) → ∀ d category tail, registry.get? d.id = some d → d.Plain →
      d.kind.category? = some category → IsTail tail →
      classify? ⟨registry, strict⟩ (d.id ++ tail) = some ⟨d.id, category⟩) ∧
    ∀ path ref, classify? ⟨registry, strict⟩ path = some ref →
      ((∃ d, registry.get? ref.target = some d ∧ d.kind ≠ .provider) ∨ ref.target ∈ registry.resourceIds) ∧
      ∃ rest, path = ref.target ++ rest ∧ (IsTail rest ∨ ∃ more, rest = "[" ++ more) := by
  refine ⟨fun hmade d category tail hget hd hcategory htail => classify?_id_append h hmade hget hd hcategory htail,
    fun path ref hclassify => ?_⟩
  obtain ⟨hread, htarget⟩ := classify?_eq_some.mp hclassify
  refine ⟨?_, eq_append_of_readSegments? hread⟩
  rcases counts_of_isTarget h.built htarget with hid | ⟨d, hget, hkind⟩
  · exact Or.inr hid
  · refine Or.inl ⟨d, hget, fun hprovider => ?_⟩
    rw [hprovider] at hkind
    revert hkind
    decide

/-- The instance and the image, as they are declared. -/
def imageDeclarations : List Declaration :=
  [.make .resource "aws_instance" "web" "main.tf", .make .data "aws_ami" "base" "main.tf"]

theorem declares_image : instanceAndImage.Declares imageDeclarations := .insert (.insert .empty _) _

theorem made_image : ∀ d ∈ imageDeclarations, d.Made :=
  List.forall_mem_cons.mpr ⟨⟨"aws_instance", rfl⟩, List.forall_mem_cons.mpr ⟨⟨"aws_ami", rfl⟩, List.forall_mem_nil _⟩⟩

theorem plain_image : (Declaration.make .data "aws_ami" "base" "main.tf").Plain :=
  ⟨by decide, "aws_ami", by decide, rfl, by decide⟩

theorem classify_address_image :
    classify? ⟨instanceAndImage, true⟩ "data.aws_ami.base.id" = some ⟨"data.aws_ami.base", .resource⟩ ∧
    ∀ ref, classify? ⟨instanceAndImage, true⟩ "aws_instance.web[0].id" = some ref →
      ∃ rest, "aws_instance.web[0].id" = ref.target ++ rest ∧ (IsTail rest ∨ ∃ more, rest = "[" ++ more) := by
  obtain ⟨hdecode, hback⟩ := classify_address declares_image true
  refine ⟨?_, fun ref href => (hback _ ref href).2⟩
  exact hdecode made_image (.make .data "aws_ami" "base" "main.tf") .resource ".id" (by decide) plain_image rfl
    (Or.inr ⟨"id", rfl⟩)

/-! ### Indexes -/

/-- An index between a plain address and further segments makes no difference to a resource. For the other kinds the
    path leads to the name with the start of the index, which is something else and rarely declared. -/
theorem classify_index (h : registry.Declares ds) (hmade : ∀ d ∈ ds, d.Made) (strict : Bool)
    (hget : registry.get? d.id = some d) (hd : d.Plain) (hcategory : d.kind.category? = some category)
    (index : String) (htail : IsTail tail) :
    let plain := classify? ⟨registry, strict⟩ (d.id ++ tail)
    let indexed := classify? ⟨registry, strict⟩ (d.id ++ "[" ++ index ++ "]" ++ tail)
    let other := d.id ++ "[" ++ upTo '.' (index ++ "]" ++ tail)
    plain = some ⟨d.id, category⟩ ∧
    (d.kind = .resource → indexed = plain) ∧
    (d.kind ≠ .resource → indexed ≠ plain ∧
      (∀ ref, indexed = some ref ↔ ref = ⟨other, category⟩ ∧ Counts registry other) ∧
      ((∀ e ∈ ds, '[' ∉ e.id.toList) → indexed = none)) := by
  intro plain indexed other
  have hplain : plain = some ⟨d.id, category⟩ := classify?_id_append h hmade hget hd hcategory htail
  have hread := readSegments?_id_append hd hcategory ("[" ++ (index ++ "]" ++ tail))
  have hpath : d.id ++ ("[" ++ (index ++ "]" ++ tail)) = d.id ++ "[" ++ index ++ "]" ++ tail := by
    simp only [String.append_assoc]
  rw [hpath, upTo_append (show '.' ∉ "[".toList by decide)] at hread
  refine ⟨hplain, fun hkind => ?_, fun hkind => ?_⟩
  · have hdrop : dropIndex ("[" ++ upTo '.' (index ++ "]" ++ tail)) = "" := upTo_stop '[' _
    rw [if_pos hkind, hdrop, String.append_empty] at hread
    have hcounts := counts_of_plain h hmade hget hd hcategory
    exact ((classify?_eq_some_of_read h.built hread).mpr ⟨rfl, hcounts⟩).trans hplain.symm
  · rw [if_neg hkind, ← String.append_assoc] at hread
    have hindexed (ref : Reference) : indexed = some ref ↔ ref = ⟨other, category⟩ ∧ Counts registry other :=
      classify?_eq_some_of_read h.built hread
    refine ⟨fun heq => ?_, hindexed, fun hnone => ?_⟩
    · obtain ⟨hother, -⟩ := (hindexed _).mp (heq.trans hplain)
      have hlength := congrArg (fun ref : Reference => ref.target.toList.length) hother
      simp [other] at hlength
    · by_contra hsome
      obtain ⟨ref, href⟩ := Option.ne_none_iff_exists'.mp hsome
      obtain ⟨-, hcounts⟩ := (hindexed ref).mp href
      obtain ⟨e, he, hid⟩ := exists_mem_of_counts h hcounts
      refine hnone e he ?_
      rw [hid]
      simp [other]

theorem classify_index_instance :
    classify? ⟨instanceAndImage, true⟩ "aws_instance.web[\"a.b\"].id" =
      classify? ⟨instanceAndImage, true⟩ "aws_instance.web.id" ∧
    classify? ⟨instanceAndImage, true⟩ "data.aws_ami.base[0].id" = none := by
  have plain : (Declaration.make .resource "aws_instance" "web" "main.tf").Plain :=
    ⟨by decide, "aws_instance", by decide, rfl, fun _ => by decide⟩
  have htail : IsTail ".id" := Or.inr ⟨"id", rfl⟩
  obtain ⟨-, hresource, -⟩ := classify_index declares_image made_image true (by decide) plain rfl "\"a.b\"" htail
  obtain ⟨-, -, hdata⟩ := classify_index declares_image made_image true (by decide) plain_image rfl "0" htail
  exact ⟨hresource rfl, (hdata (by decide)).2.2 (by decide)⟩

/-- The image is lost behind an index. -/
theorem not_classify_index_eq : ¬∀ (ds : List Declaration) (registry : Registry) (strict : Bool) (d : Declaration)
    (category : Category) (index tail : String), registry.Declares ds → (∀ d ∈ ds, d.Made) →
    registry.get? d.id = some d → d.Plain → d.kind.category? = some category → ']' ∉ index.toList → IsTail tail →
    classify? ⟨registry, strict⟩ (d.id ++ "[" ++ index ++ "]" ++ tail) =
        classify? ⟨registry, strict⟩ (d.id ++ tail) ∧
      classify? ⟨registry, strict⟩ (d.id ++ tail) = some ⟨d.id, category⟩ := by
  intro h
  have hequal := (h imageDeclarations instanceAndImage true (.make .data "aws_ami" "base" "main.tf") .resource "0" ".id"
    declares_image made_image (by decide) plain_image rfl (by decide) (Or.inr ⟨"id", rfl⟩)).1
  revert hequal
  decide +kernel

end Resolver

end ResourceGraph
