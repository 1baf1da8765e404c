import Mathlib.Data.List.Infix
import ResourceGraph.Proofs.Dependency.Declared
import ResourceGraph.Proofs.Dependency.Spelled
import ResourceGraph.Proofs.Listing

/-! # One path in a text and in an argument

A path of identifiers is read twice: a parsed argument by its first segments alone, a text by every form of
references at the start of every segment. So the text of a block gives all that the argument gives, and it gives
more just where a later segment starts something else that is declared. -/

namespace ResourceGraph
open Text

namespace Reference
variable {ref : Reference} {c : Char} {s name word front mid tail rest back : List Char}
  {segs t : List (List Char)} {path? : List Char → Option (Reference × List Char)}

/-! ## Identifiers -/

/-- A letter or an underscore, and letters, digits and underscores. -/
inductive IsIdentifier : List Char → Prop where
  | make {first : Char} {tail : List Char} : (first.isAlpha || first = '_') = true →
      (∀ c ∈ tail, (c.isAlphanum || c = '_') = true) → IsIdentifier (first :: tail)

theorem isIdentifier_iff : IsIdentifier s ↔ s.head?.any (fun c => c.isAlpha || c = '_') = true ∧
    s.tail.all (fun c => c.isAlphanum || c = '_') = true := by
  constructor
  · rintro ⟨hfirst, htail⟩
    exact ⟨hfirst, List.all_eq_true.mpr htail⟩
  · rintro ⟨hfirst, htail⟩
    cases s with
    | nil => cases hfirst
    | cons c s => exact .make hfirst (List.all_eq_true.mp htail)

instance : DecidablePred IsIdentifier := fun _ => decidable_of_iff' _ isIdentifier_iff

theorem IsIdentifier.chars (h : IsIdentifier s) : ∀ c ∈ s, (c.isAlphanum || c = '_') = true := by
  obtain ⟨hfirst, htail⟩ := h
  refine List.forall_mem_cons.mpr ⟨?_, htail⟩
  rcases Bool.or_eq_true_iff.mp hfirst with hfirst | hfirst
  · simp [Char.isAlphanum, hfirst]
  · simp [hfirst]

theorem IsIdentifier.ne_nil (h : IsIdentifier s) : s ≠ [] := by
  cases h
  exact List.cons_ne_nil _ _

theorem IsIdentifier.isName (h : IsIdentifier s) : IsName s := by
  obtain ⟨hfirst, htail⟩ := h
  refine .make hfirst fun c hc => ?_
  rw [isSegmentChar, htail c hc, Bool.true_or]

theorem IsIdentifier.isWord (h : IsIdentifier s) : ∀ c ∈ s, isWord c = true := by
  intro c hc
  rcases Bool.or_eq_true_iff.mp (h.chars c hc) with hc | hc
  · exact isWord_of_isAlphanum hc
  · obtain rfl := of_decide_eq_true hc
    decide

theorem IsIdentifier.not_mem (h : IsIdentifier s) (hc : (c.isAlphanum || c = '_') = false) : c ∉ s := by
  intro hmem
  rw [h.chars c hmem] at hc
  cases hc

/-! ## Paths -/

/-- What the first segments of a path address. -/
inductive Addresses : List (List Char) → Reference → Prop where
  | resource {type name field : List Char} {more : List (List Char)} : IsType type →
      Addresses (type :: name :: field :: more) ⟨String.ofList type ++ "." ++ String.ofList name, .resource⟩
  | data {type name : List Char} {more : List (List Char)} :
      Addresses ("data".toList :: type :: name :: more)
        ⟨"data." ++ String.ofList type ++ "." ++ String.ofList name, .resource⟩
  | module {name output : List Char} {more : List (List Char)} :
      Addresses ("module".toList :: name :: output :: more) ⟨"module." ++ String.ofList name, .module⟩
  | named {word : String} {category : Category} {name : List Char} {more : List (List Char)} :
      (word, category) ∈ namedWords →
      Addresses (word.toList :: name :: more) ⟨word ++ "." ++ String.ofList name, category⟩

/-- Further segments of a path, each behind a point, in front of a blank and the rest of a text. -/
def behind (back : List Char) : List (List Char) → List Char
  | [] => ' ' :: back
  | s :: t => '.' :: (s ++ behind back t)

theorem joinWith_append : joinWith ['.'] (s :: t) ++ ' ' :: back = s ++ behind back t := by
  induction t generalizing s with
  | nil => rfl
  | cons u t ih =>
    have hjoin : joinWith ['.'] (s :: u :: t) = s ++ ['.'] ++ joinWith ['.'] (u :: t) := rfl
    rw [hjoin, List.append_assoc, List.append_assoc, ih]
    rfl

theorem behind_eq_cons (back : List Char) (t : List (List Char)) :
    ∃ c more, behind back t = c :: more ∧ (c = '.' ∨ c = ' ') := by
  cases t with
  | nil => exact ⟨' ', back, rfl, Or.inr rfl⟩
  | cons s t => exact ⟨'.', s ++ behind back t, rfl, Or.inl rfl⟩

theorem IsIdentifier.isSegment (h : IsIdentifier s) : IsSegment s (behind back t) := by
  refine ⟨h.ne_nil, fun c hc => by rw [isSegmentChar, h.chars c hc, Bool.true_or], fun c hc => ?_⟩
  obtain ⟨d, more, hbehind, hd⟩ := behind_eq_cons back t
  rw [hbehind] at hc
  cases hc
  rcases hd with rfl | rfl <;> decide

/-- The segment that is read behind another is the next one of the path. -/
theorem pointSegment?_behind (ht : ∀ s ∈ t, IsIdentifier s) (h : pointSegment? (behind back t) = some (name, rest)) :
    ∃ u, t = name :: u ∧ rest = behind back u := by
  cases t with
  | nil => cases h
  | cons s t =>
    have hs : IsSegment s (behind back t) := (ht s List.mem_cons_self).isSegment
    rw [behind, hs.read] at h
    cases h
    exact ⟨t, rfl, rfl⟩

/-- What stands in front of the first point is the first segment. -/
theorem word_eq_first (hs : IsIdentifier s) (hword : ∀ c ∈ word, (c.isAlphanum || c = '_') = true)
    (h : word ++ '.' :: rest = s ++ behind back t) : word = s ∧ '.' :: rest = behind back t := by
  rcases List.append_eq_append_iff.mp h with ⟨more, rfl, hrest⟩ | ⟨more, rfl, hrest⟩
  · cases more with
    | nil => exact ⟨(List.append_nil _).symm, hrest⟩
    | cons c more =>
      cases hrest
      exact absurd (List.mem_append_right _ List.mem_cons_self) (hs.not_mem rfl)
  · cases more with
    | nil => exact ⟨List.append_nil _, hrest.symm⟩
    | cons c more =>
      obtain ⟨d, _, hbehind, hd⟩ := behind_eq_cons back t
      rw [hbehind] at hrest
      cases hrest
      have hc := hword c (List.mem_append_right _ List.mem_cons_self)
      rcases hd with rfl | rfl <;> cases hc

/-! ## Reading the segments -/

theorem pointSegment?_eq_some (h : pointSegment? rest = some (name, tail)) : ∃ more, rest = '.' :: more := by
  unfold pointSegment? at h
  split at h
  · exact ⟨_, rfl⟩
  · cases h

theorem resourceType?_eq_some (h : resourceType? s = some (name, rest)) : s = name ++ rest ∧ IsType name := by
  unfold resourceType? at h
  split at h
  · cases h
  · rename_i c cs
    obtain ⟨hfirst, h⟩ := Option.ite_none_right_eq_some.mp h
    dsimp only at h
    split at h
    · rename_i x more htail
      cases h
      have hc : (c.isAlphanum || c = '_') = true := by simp [Char.isAlphanum, hfirst]
      have hrun : (c :: cs).takeWhile (fun c => c.isAlphanum || c = '_') =
          c :: cs.takeWhile fun c => c.isAlphanum || c = '_' := List.takeWhile_cons_of_pos hc
      have hchars : ∀ d ∈ cs.takeWhile fun c => c.isAlphanum || c = '_', (d.isAlphanum || d = '_') = true :=
        fun d hd => List.mem_takeWhile_imp (p := fun c => c.isAlphanum || c = '_') hd
      refine ⟨List.prefix_iff_eq_append.mp (List.takeWhile_prefix _) |>.symm, ?_⟩
      rw [hrun] at htail ⊢
      rw [List.dropWhile_cons_of_pos (by simp [Char.isAlphanum, hfirst])] at htail
      have hstem := List.takeWhile_append_dropWhile (p := Char.isAlphanum)
        (l := cs.takeWhile fun c => c.isAlphanum || c = '_')
      rw [htail] at hstem
      rw [← hstem] at hchars ⊢
      exact .make hfirst (fun d hd => List.mem_takeWhile_imp hd) (List.cons_ne_nil _ _)
        fun d hd => hchars d (List.mem_append_right _ (List.mem_cons_of_mem _ hd))
    · cases h

/-- The words that are no types of resources. -/
def reservedWords : List String :=
  ["data", "module", "var", "local", "output"]

theorem reservedWords_chars {word : String} (h : word ∈ reservedWords) :
    ∀ c ∈ word.toList, (c.isAlphanum || c = '_') = true := by
  have hwords : ∀ word ∈ reservedWords, word.toList.all (fun c => c.isAlphanum || c = '_') = true := by decide
  exact List.all_eq_true.mp (hwords word h)

theorem mem_reservedWords_of_named {category : Category} {word : String} (h : (word, category) ∈ namedWords) :
    word ∈ reservedWords := by
  have hwords : ∀ row ∈ namedWords, row.1 ∈ reservedWords := by decide
  exact hwords _ h

/-- Each form starts with a word or a type, and a point. -/
theorem Reading.opens (h : Reading tail rest ref) : ∃ word more, tail = word ++ '.' :: more ∧
    ∀ c ∈ word, (c.isAlphanum || c = '_') = true := by
  cases h with
  | resource htype hname =>
    obtain ⟨rfl, hword⟩ := resourceType?_eq_some htype
    obtain ⟨more, rfl⟩ := pointSegment?_eq_some hname
    exact ⟨_, more, rfl, hword.chars⟩
  | data hdrop htype _ =>
    obtain ⟨more, rfl⟩ := pointSegment?_eq_some htype
    exact ⟨_, more, dropWord?_eq_some hdrop, reservedWords_chars (by decide)⟩
  | module hdrop hname _ =>
    obtain ⟨more, rfl⟩ := pointSegment?_eq_some hname
    exact ⟨_, more, dropWord?_eq_some hdrop, reservedWords_chars (by decide)⟩
  | named hword hdrop hname =>
    obtain ⟨more, rfl⟩ := pointSegment?_eq_some hname
    exact ⟨_, more, dropWord?_eq_some hdrop, reservedWords_chars (mem_reservedWords_of_named hword)⟩

/-- The word or the type that a form starts with is the first segment. -/
theorem opens_first (hs : IsIdentifier s) (hword : ∀ c ∈ word, (c.isAlphanum || c = '_') = true)
    (hcs : s ++ behind back t = word ++ rest) (hnext : pointSegment? rest = some (name, tail)) :
    word = s ∧ rest = behind back t := by
  obtain ⟨more, rfl⟩ := pointSegment?_eq_some hnext
  exact word_eq_first hs hword hcs.symm

theorem addresses_of_namedPath? {word : String} {category : Category} (hword : (word, category) ∈ namedWords)
    (hs : IsIdentifier s) (ht : ∀ u ∈ t, IsIdentifier u)
    (h : namedPath? word category (s ++ behind back t) = some (ref, rest)) : Addresses (s :: t) ref := by
  simp only [namedPath?, Option.bind_eq_bind, Option.bind_eq_some_iff] at h
  obtain ⟨after, hdrop, ⟨name, last⟩, hname, h⟩ := h
  have hchars := reservedWords_chars (mem_reservedWords_of_named hword)
  obtain ⟨rfl, rfl⟩ := opens_first hs hchars (dropWord?_eq_some hdrop) hname
  obtain ⟨u, rfl, rfl⟩ := pointSegment?_behind ht hname
  cases h
  exact .named hword

/-- What a form reads at the start of a segment is what the path addresses from there on. -/
theorem addresses_of_mem_forms (hpath : path? ∈ forms) (hsegs : ∀ u ∈ s :: t, IsIdentifier u)
    (h : path? (s ++ behind back t) = some (ref, rest)) : Addresses (s :: t) ref := by
  obtain ⟨hs, ht⟩ := List.forall_mem_cons.mp hsegs
  clear hsegs
  simp only [forms, List.mem_cons, List.not_mem_nil, or_false] at hpath
  rcases hpath with rfl | rfl | rfl | rfl | rfl
  · simp only [resourcePath?, Option.bind_eq_bind, Option.bind_eq_some_iff] at h
    obtain ⟨⟨type, after⟩, htype, ⟨name, last⟩, hname, _, -, h⟩ := h
    obtain ⟨hcs, hisType⟩ := resourceType?_eq_some htype
    obtain ⟨rfl, rfl⟩ := opens_first hs hisType.chars hcs hname
    obtain ⟨u, rfl, rfl⟩ := pointSegment?_behind ht hname
    -- Behind the name there must be a point, so there is one more segment.
    cases u with
    | nil => split at h <;> cases h
    | cons field u =>
      split at h
      · cases h
      · cases h
        exact .resource hisType
  · simp only [dataPath?, Option.bind_eq_bind, Option.bind_eq_some_iff] at h
    obtain ⟨after, hdrop, ⟨type, middle⟩, htype, ⟨name, last⟩, hname, h⟩ := h
    obtain ⟨rfl, rfl⟩ := opens_first hs (reservedWords_chars (by decide)) (dropWord?_eq_some hdrop) htype
    obtain ⟨u, rfl, rfl⟩ := pointSegment?_behind ht htype
    obtain ⟨w, rfl, rfl⟩ := pointSegment?_behind (List.forall_mem_cons.mp ht).2 hname
    cases h
    exact .data
  · simp only [modulePath?, Option.bind_eq_bind, Option.bind_eq_some_iff] at h
    obtain ⟨after, hdrop, ⟨name, middle⟩, hname, ⟨output, last⟩, houtput, h⟩ := h
    obtain ⟨rfl, rfl⟩ := opens_first hs (reservedWords_chars (by decide)) (dropWord?_eq_some hdrop) hname
    obtain ⟨u, rfl, rfl⟩ := pointSegment?_behind ht hname
    obtain ⟨w, rfl, rfl⟩ := pointSegment?_behind (List.forall_mem_cons.mp ht).2 houtput
    cases h
    exact .module
  · simp only [variablePath?, Option.orElse_eq_orElse, Option.orElse_eq_or, Option.or_eq_some_iff] at h
    rcases h with h | ⟨-, h⟩
    · exact addresses_of_namedPath? (by decide) hs ht h
    · exact addresses_of_namedPath? (by decide) hs ht h
  · exact addresses_of_namedPath? (by decide) hs ht h

/-! ## Where a form can start -/

theorem startsWord_behind (h : startsWord (front ++ c :: mid).getLast? = true) : startsWord mid.getLast? = true := by
  cases mid with
  | nil => rfl
  | cons d mid =>
    rw [List.getLast?_append, List.getLast?_cons_cons] at h
    rwa [List.getLast?_cons, Option.some_or, ← List.getLast?_cons] at h

/-- A word that starts in a segment starts at its first character. -/
theorem start_or_behind (hs : IsIdentifier s) (h : mid ++ tail = s ++ rest) (hstarts : startsWord mid.getLast? = true) :
    mid = [] ∨ ∃ c more, mid = s ++ c :: more ∧ rest = c :: more ++ tail := by
  by_cases hmid : mid = []
  · exact Or.inl hmid
  obtain ⟨c, hlast⟩ := Option.isSome_iff_exists.mp (List.getLast?_isSome.mpr hmid)
  have houter : c ∉ s := fun hc => by
    rw [hlast, startsWord, hs.isWord c hc] at hstarts
    cases hstarts
  rcases List.append_eq_append_iff.mp h with ⟨more, rfl, -⟩ | ⟨more, rfl, hrest⟩
  · exact absurd (List.mem_append_left _ (List.mem_of_getLast? hlast)) houter
  · cases more with
    | nil =>
      rw [List.append_nil] at hlast
      exact absurd (List.mem_of_getLast? hlast) houter
    | cons d more => exact Or.inr ⟨d, more, rfl, hrest⟩

/-- A word in a path that has a point somewhere behind it starts a segment. -/
theorem exists_segment (hsegs : ∀ u ∈ s :: t, IsIdentifier u) (hback : '.' ∉ back)
    (h : mid ++ tail = s ++ behind back t) (hstarts : startsWord mid.getLast? = true) (hpoint : '.' ∈ tail) :
    ∃ pre u more, s :: t = pre ++ u :: more ∧ tail = u ++ behind back more := by
  induction t generalizing s mid with
  | nil =>
    rcases start_or_behind (hsegs s List.mem_cons_self) h hstarts with rfl | ⟨c, more, rfl, hrest⟩
    · exact ⟨[], s, [], rfl, h⟩
    · -- Behind the last segment no point is left.
      cases hrest
      exact absurd (List.mem_append_right _ hpoint) hback
  | cons u t ih =>
    obtain ⟨hs, ht⟩ := List.forall_mem_cons.mp hsegs
    rcases start_or_behind hs h hstarts with rfl | ⟨c, more, rfl, hrest⟩
    · exact ⟨[], s, u :: t, rfl, h⟩
    · obtain ⟨-, hrest⟩ := List.cons.inj hrest
      obtain ⟨pre, v, last, hpre, htail⟩ := ih ht hrest.symm (startsWord_behind hstarts)
      exact ⟨s :: pre, v, last, congrArg (s :: ·) hpre, htail⟩

/-- A path in a text stands between blanks, and no point is in the text but in the path. -/
structure SpelledOnce (text : List Char) (segs : List (List Char)) : Prop where
  identifiers : ∀ s ∈ segs, IsIdentifier s
  around : ∃ front back, text = front ++ ' ' :: (joinWith ['.'] segs ++ ' ' :: back) ∧ '.' ∉ front ∧ '.' ∉ back

/-- No form starts in front of a blank behind which the first point stands. -/
theorem no_point_behind_blank (hword : ∀ c ∈ word, (c.isAlphanum || c = '_') = true) (hfront : '.' ∉ front)
    (h : word ++ '.' :: tail = front ++ ' ' :: rest) : False := by
  have hblank : ' ' ∉ word := fun hmem => by
    have hc := hword _ hmem
    cases hc
  rcases List.append_eq_append_iff.mp h with ⟨more, rfl, hrest⟩ | ⟨more, rfl, hrest⟩
  · cases more with
    | nil => cases hrest
    | cons c more =>
      cases hrest
      exact hfront (List.mem_append_right _ List.mem_cons_self)
  · cases more with
    | nil => cases hrest
    | cons c more =>
      cases hrest
      exact hblank (List.mem_append_right _ List.mem_cons_self)

/-- Every reference in the text is addressed by the path from one of its segments on. -/
theorem SpelledOnce.addresses {text : List Char} (h : SpelledOnce text segs) (href : ref ∈ findIn text) :
    ∃ pre more, segs = pre ++ more ∧ Addresses more ref := by
  obtain ⟨hsegs, front, back, rfl, hfront, hback⟩ := h
  obtain ⟨path?, hpath, lead, tail, rest, hcs, hstarts, hread⟩ := exists_of_mem_findIn href
  obtain ⟨word, after, rfl, hword⟩ := (reading_of_mem_forms hpath hread).opens
  have hpoint : '.' ∈ word ++ '.' :: after := List.mem_append_right _ List.mem_cons_self
  cases segs with
  | nil =>
    have hnone : '.' ∈ front ++ ' ' :: ' ' :: back := hcs ▸ List.mem_append_right lead hpoint
    simp [hfront, hback] at hnone
  | cons s t =>
    rw [joinWith_append] at hcs
    rcases List.append_eq_append_iff.mp hcs with ⟨more, rfl, hrest⟩ | ⟨more, rfl, hrest⟩
    · cases more with
      | nil =>
        have hcut : word ++ '.' :: after = [] ++ ' ' :: (s ++ behind back t) := hrest.symm
        exact (no_point_behind_blank hword List.not_mem_nil hcut).elim
      | cons c more =>
        obtain ⟨-, hrest⟩ := List.cons.inj hrest
        obtain ⟨pre, u, last, hpre, htail⟩ := exists_segment hsegs hback hrest.symm (startsWord_behind hstarts) hpoint
        rw [htail] at hread
        refine ⟨pre, u :: last, hpre, addresses_of_mem_forms hpath (fun v hv => hsegs v ?_) hread⟩
        rw [hpre]
        exact List.mem_append_right _ hv
    · exact (no_point_behind_blank hword (fun hmem => hfront (List.mem_append_right _ hmem)) hrest).elim

theorem Addresses.spells (hsegs : ∀ u ∈ s :: t, IsIdentifier u) (h : Addresses (s :: t) ref) :
    Spells (s ++ behind back t) ref := by
  have hsegment (name : List Char) (more : List (List Char)) (hname : name ∈ t) : IsSegment name (behind back more) :=
    (hsegs name (List.mem_cons_of_mem _ hname)).isSegment
  cases h with
  | resource htype => exact .resource htype (hsegs _ (by simp)).isName (Or.inl rfl)
  | @data type name more => exact .data (hsegment type (name :: more) (by simp)) (hsegment name more (by simp))
  | @module name output more =>
    exact .module (hsegment name (output :: more) (by simp)) (hsegment output more (by simp))
  | @named word category name more hword => exact .named hword (hsegment name more (by simp))

/-- What the path addresses from its first segment on is found. -/
theorem SpelledOnce.mem_findIn {text : List Char} (h : SpelledOnce text segs) (haddress : Addresses segs ref) :
    ref ∈ findIn text := by
  obtain ⟨hsegs, front, back, rfl, -, -⟩ := h
  cases segs with
  | nil => cases haddress
  | cons s t =>
    rw [joinWith_append]
    refine SpelledIn.mem_findIn ⟨front ++ [' '], s ++ behind back t, by simp, fun c hc => ?_, haddress.spells hsegs⟩
    rw [List.getLast?_append] at hc
    cases hc
    decide

end Reference

/-! ## Parsed paths -/

namespace Resolver
open Reference
variable {ref : Reference} {segs : List (List Char)}

theorem dropIndex_of_isIdentifier {name : List Char} (h : IsIdentifier name) :
    dropIndex (String.ofList name) = String.ofList name := by
  unfold dropIndex
  rw [String.toList_ofList, List.takeWhile_eq_self_iff.mpr]
  intro c hc
  have hne : c ≠ '[' := fun heq => h.not_mem rfl (heq ▸ hc)
  simpa using hne

theorem not_mem_reservedWords {type : List Char} (h : IsType type) : String.ofList type ∉ reservedWords := by
  have hwords : ∀ word ∈ reservedWords, '_' ∉ word.toList := by decide
  intro hmem
  refine hwords _ hmem ?_
  rw [String.toList_ofList]
  cases h
  simp

theorem readSegments?_of_not_mem {type name : String} {more : List String} (h : type ∉ reservedWords) :
    readSegments? (type :: name :: more) = some ⟨type ++ "." ++ dropIndex name, .resource⟩ := by
  simp only [reservedWords, List.mem_cons, List.not_mem_nil, or_false, not_or] at h
  obtain ⟨hdata, hmodule, hvar, hlocal, houtput⟩ := h
  rw [readSegments?]
  · exact fun _ _ heq _ => hdata heq
  · exact hmodule
  · exact hvar
  · exact hlocal
  · exact houtput

/-- A parsed path refers to what its first segments address. -/
theorem readSegments?_of_addresses (hsegs : ∀ u ∈ segs, IsIdentifier u) (h : Addresses segs ref) :
    readSegments? (segments (String.ofList (joinWith ['.'] segs))) = some ref := by
  have hne : segs ≠ [] := by
    rintro rfl
    cases h
  have hsegments : segments (String.ofList (joinWith ['.'] segs)) = segs.map String.ofList := by
    unfold segments
    rw [String.toList_ofList, split_joinWith (fun u hu => (hsegs u hu).not_mem rfl) hne]
  rw [hsegments]
  cases h with
  | @resource type name field more htype =>
    have hname : dropIndex (String.ofList name) = String.ofList name :=
      dropIndex_of_isIdentifier (hsegs name (by simp))
    rw [List.map_cons, List.map_cons, readSegments?_of_not_mem (not_mem_reservedWords htype), hname]
  | data =>
    simp only [List.map_cons, String.ofList_toList]
    rfl
  | module =>
    simp only [List.map_cons, String.ofList_toList]
    rfl
  | named hword =>
    simp only [namedWords, List.mem_cons, List.not_mem_nil, or_false, Prod.mk.injEq] at hword
    simp only [List.map_cons, String.ofList_toList]
    rcases hword with ⟨rfl, rfl⟩ | ⟨rfl, rfl⟩ | ⟨rfl, rfl⟩ <;> rfl

/-- A path addresses one thing. -/
theorem eq_of_addresses {other : Reference} (hsegs : ∀ u ∈ segs, IsIdentifier u) (h : Addresses segs other)
    (h' : Addresses segs ref) : other = ref := by
  have hread := readSegments?_of_addresses hsegs h
  rw [readSegments?_of_addresses hsegs h'] at hread
  exact (Option.some.inj hread).symm

/-! ## Both readings -/

section Both
variable {registry : Registry} {strict : Bool} {id : String} {files : List SourceFile} {block : ResourceBlock}
  {parsed : ParsedBlock} {e : Dependency}

theorem counts_of_isTarget {r : Resolver} (h : r.registry.Built) (htarget : r.isTarget id = true) :
    Counts r.registry id := by
  rcases isTarget_iff_exists.mp htarget with hresource | ⟨d, hd, hkind, rfl⟩
  · exact Or.inl ((isResource_iff h).mp hresource)
  · obtain ⟨entry, hentry, rfl⟩ := List.mem_map.mp hd
    have hfind : Sorted.find? Prod.fst entry.2.id r.registry.table = some entry :=
      h.ascending.find?_eq_some.mpr ⟨hentry, (h.keyed entry hentry).symm⟩
    exact Or.inr ⟨entry.2, Option.map_eq_some_iff.mpr ⟨entry, hfind, rfl⟩, hkind⟩

/-- In some files a resource has one block, with a path as its only text with points, and a parsed block of the
    resource has the path as its only argument. -/
structure SamePath (files : List SourceFile) (block : ResourceBlock) (parsed : ParsedBlock) (segs : List (List Char)) :
    Prop where
  listed : ∃ f ∈ files, block ∈ resourceBlocks f.chars
  alone : ∀ f ∈ files, ∀ other ∈ resourceBlocks f.chars, other.id = block.id → other = block
  spelled : SpelledOnce block.text segs
  kind : parsed.kind = .resource
  address : parsed.address = block.id
  argument : ∃ key, parsed.arguments = [(key, .reference (String.ofList (joinWith ['.'] segs)))]

variable (hsame : SamePath files block parsed segs)
include hsame

theorem SamePath.mem_edges_resolve {r : Resolver} (hid : r.isResource block.id = true) (hsource : e.source = block.id)
    (hcategory : e.category ≠ .implicit) :
    e ∈ (r.resolve files).edges ↔ ∃ ref ∈ findIn block.text, r.Links block.id ref e := by
  rw [Resolver.mem_edges_resolve]
  constructor
  · rintro ⟨f, hf, other, hother, hgives⟩
    cases hgives with
    | spelled _ href hlinks =>
      have hother : other = block := hsame.alone f hf other hother (by rw [← hsource, hlinks.eq])
      exact ⟨_, hother ▸ href, hother ▸ hlinks⟩
    | implied => exact absurd rfl hcategory
  · rintro ⟨ref, href, hlinks⟩
    obtain ⟨f, hf, hblock⟩ := hsame.listed
    exact ⟨f, hf, block, hblock, .spelled hid href hlinks⟩

theorem SamePath.mem_edges_resolveParsed {r : Resolver} (hid : r.isResource block.id = true)
    (haddress : Addresses segs ref) (path : String) :
    e ∈ (r.resolveParsed .empty [⟨path, [parsed]⟩]).edges ↔ r.Links block.id ref e := by
  have hread := readSegments?_of_addresses hsame.spelled.identifiers haddress
  obtain ⟨key, hargument⟩ := hsame.argument
  have hreferences : parsed.references = [String.ofList (joinWith ['.'] segs)] := by
    rw [ParsedBlock.references, hargument]
    rfl
  have hpass : r.resolveParsed .empty [⟨path, [parsed]⟩] = r.addParsed .empty parsed := rfl
  rw [← hsame.address] at hid ⊢
  rw [hpass, mem_edges_addParsed_iff hsame.kind hid, hreferences]
  constructor
  · rintro (hnone | ⟨_, hpath, other, hother, hlinks⟩)
    · cases hnone
    · obtain rfl := List.mem_singleton.mp hpath
      rw [hread] at hother
      cases hother
      exact hlinks
  · exact fun hlinks => Or.inr ⟨_, List.mem_singleton_self _, ref, hread, hlinks⟩

end Both

theorem Links.counts {registry : Registry} {strict : Bool} {source : String} {e : Dependency} (h : registry.Built)
    (hlinks : Links ⟨registry, strict⟩ source ref e) : Counts registry ref.target :=
  counts_of_isTarget h hlinks.target

/-- The text of a block gives what an argument with the same path gives. What else the text gives is what a later
    segment of the path starts, so both agree if nothing of that kind is declared. -/
theorem resolve_path {registry : Registry} {files : List SourceFile} {block : ResourceBlock} {parsed : ParsedBlock}
    (h : registry.Built) (strict : Bool) (hid : block.id ∈ registry.resourceIds)
    (hsame : SamePath files block parsed segs) (haddress : Addresses segs ref) (path : String) :
    let text := resolve ⟨registry, strict⟩ files
    let argument := resolveParsed ⟨registry, strict⟩ .empty [⟨path, [parsed]⟩]
    (∀ e, e ∈ argument.edges ↔ e = ⟨block.id, ref.target, ref.category⟩ ∧ ref.target ≠ block.id ∧
      Counts registry ref.target) ∧
    (∀ e ∈ argument.edges, e ∈ text.edges) ∧
    (∀ e ∈ text.edges, e.source = block.id → e.category ≠ .implicit → e ∈ argument.edges ∨
      ∃ pre more other, pre ≠ [] ∧ segs = pre ++ more ∧ Addresses more other ∧ Counts registry other.target ∧
        e = ⟨block.id, other.target, other.category⟩) ∧
    ((∀ pre more other, pre ≠ [] → segs = pre ++ more → Addresses more other → Counts registry other.target →
        other.target = block.id ∨ other = ref) →
      ∀ e, e.source = block.id → e.category ≠ .implicit → (e ∈ text.edges ↔ e ∈ argument.edges)) := by
  intro text argument
  have hresource : isResource ⟨registry, strict⟩ block.id = true := isResource_of_mem h hid
  have hargument (e : Dependency) : e ∈ argument.edges ↔ Links ⟨registry, strict⟩ block.id ref e :=
    hsame.mem_edges_resolveParsed hresource haddress path
  have hincluded : ∀ e ∈ argument.edges, e ∈ text.edges := fun e he => by
    have hlinks := (hargument e).mp he
    have href := hsame.spelled.mem_findIn haddress
    refine (hsame.mem_edges_resolve hresource ?_ ?_).mpr ⟨ref, href, hlinks⟩
    · rw [hlinks.eq]
    · rw [hlinks.eq]
      exact category_of_mem_findIn href
  have hothers (e : Dependency) (he : e ∈ text.edges) (hsource : e.source = block.id)
      (hcategory : e.category ≠ .implicit) :
      e ∈ argument.edges ∨ ∃ pre more other, pre ≠ [] ∧ segs = pre ++ more ∧ Addresses more other ∧
        Links ⟨registry, strict⟩ block.id other e := by
    obtain ⟨other, hother, hlinks⟩ := (hsame.mem_edges_resolve hresource hsource hcategory).mp he
    obtain ⟨pre, more, hpre, hmore⟩ := hsame.spelled.addresses hother
    cases pre with
    | nil =>
      cases hpre
      obtain rfl : other = ref := eq_of_addresses hsame.spelled.identifiers hmore haddress
      exact Or.inl ((hargument e).mpr hlinks)
    | cons s pre => exact Or.inr ⟨s :: pre, more, other, List.cons_ne_nil _ _, hpre, hmore, hlinks⟩
  refine ⟨fun e => ?_, hincluded, fun e he hsource hcategory => ?_, fun hnone e hsource hcategory => ?_⟩
  · rw [hargument]
    exact ⟨fun hlinks => ⟨hlinks.eq, hlinks.distinct, hlinks.counts h⟩,
      fun ⟨heq, hne, hcounts⟩ => ⟨hne, isTarget_of_counts h hcounts, heq⟩⟩
  · refine (hothers e he hsource hcategory).imp_right ?_
    rintro ⟨pre, more, other, hpre, hsegs, hmore, hlinks⟩
    exact ⟨pre, more, other, hpre, hsegs, hmore, hlinks.counts h, hlinks.eq⟩
  · refine ⟨fun he => ?_, hincluded e⟩
    rcases hothers e he hsource hcategory with he | ⟨pre, more, other, hpre, hsegs, hmore, hlinks⟩
    · exact he
    · rcases hnone pre more other hpre hsegs hmore (hlinks.counts h) with hself | rfl
      · exact absurd hself hlinks.distinct
      · exact (hargument e).mpr hlinks

/-- An instance that names an image. -/
def imageFile : SourceFile :=
  ⟨"main.tf", "resource \"aws_instance\" \"web\" \x7b\n  ami = data.aws_ami.base.id \n\x7d\n"⟩

/-- The block of the instance. -/
def imageBlock : ResourceBlock := ⟨"aws_instance.web", imageFile.chars.dropLast, true⟩

/-- The segments of the path to the image. -/
def imagePath : List (List Char) := ["data".toList, "aws_ami".toList, "base".toList, "id".toList]

/-- The instance with the path as its only argument. -/
def parsedImage : ParsedBlock :=
  ⟨.resource, "aws_instance", "web", [("ami", .reference (String.ofList (joinWith ['.'] imagePath)))]⟩

theorem samePath_image : SamePath [imageFile] imageBlock parsedImage imagePath := by
  have hblocks : resourceBlocks imageFile.chars = [imageBlock] := by rfl
  refine ⟨⟨imageFile, List.mem_singleton_self _, ?_⟩, ?_, ⟨by decide, ?_⟩, rfl, rfl, ⟨"ami", rfl⟩⟩
  · rw [hblocks]
    exact List.mem_singleton_self _
  · intro f hf other hother _
    obtain rfl := List.mem_singleton.mp hf
    rw [hblocks] at hother
    exact List.mem_singleton.mp hother
  · refine ⟨"resource \"aws_instance\" \"web\" \x7b\n  ami =".toList, "\n\x7d".toList, ?_, ?_, ?_⟩ <;> decide +kernel

/-- The instance and the image. -/
def instanceAndImage : Registry :=
  (Registry.empty.insert (.make .resource "aws_instance" "web" "main.tf")).insert
    (.make .data "aws_ami" "base" "main.tf")

theorem resolve_path_image :
    let text := resolve ⟨instanceAndImage, true⟩ [imageFile]
    let argument := resolveParsed ⟨instanceAndImage, true⟩ .empty [⟨"main.tf", [parsedImage]⟩]
    (∀ e, e.source = "aws_instance.web" → e.category ≠ .implicit → (e ∈ text.edges ↔ e ∈ argument.edges)) ∧
      ⟨"aws_instance.web", "data.aws_ami.base", .resource⟩ ∈ argument.edges := by
  intro text argument
  have built : instanceAndImage.Built := .insert (.insert .empty _) _
  obtain ⟨hargument, -, -, hagree⟩ := resolve_path built true (by decide) samePath_image .data "main.tf"
  refine ⟨hagree fun pre more other hpre hsegs hmore hcounts => ?_, (hargument _).mpr ⟨rfl, by decide, ?_⟩⟩
  · -- What the later segments start is not declared.
    have undeclared : ∀ more ∈ imagePath.tail.tails, (∀ s ∈ more, IsIdentifier s) ∧
        (readSegments? (segments (String.ofList (joinWith ['.'] more)))).all
          (fun other => !isTarget ⟨instanceAndImage, true⟩ other.target) = true := by decide +kernel
    have hlater : more ∈ imagePath.tail.tails := by
      obtain ⟨s, pre, rfl⟩ := List.exists_cons_of_ne_nil hpre
      rw [hsegs]
      exact (List.mem_tails _ _).mpr (List.suffix_append pre more)
    obtain ⟨hidentifiers, hread⟩ := undeclared more hlater
    rw [readSegments?_of_addresses hidentifiers hmore] at hread
    have htarget : isTarget ⟨instanceAndImage, true⟩ other.target = true := isTarget_of_counts built hcounts
    simp [htarget] at hread
  · exact Or.inr ⟨.make .data "aws_ami" "base" "main.tf", by decide, by decide⟩

/-- A resource with the type and the name of the image is a second thing that the text gives. -/
theorem not_resolve_path_agrees : ¬∀ (registry : Registry) (strict : Bool) (files : List SourceFile)
    (block : ResourceBlock) (parsed : ParsedBlock) (segs : List (List Char)) (ref : Reference) (path : String),
    registry.Built → block.id ∈ registry.resourceIds → SamePath files block parsed segs → Addresses segs ref →
    ∀ e, e.source = block.id → e.category ≠ .implicit →
      (e ∈ (resolve ⟨registry, strict⟩ files).edges ↔
        e ∈ (resolveParsed ⟨registry, strict⟩ .empty [⟨path, [parsed]⟩]).edges) := by
  intro h
  have built : (instanceAndImage.insert (.make .resource "aws_ami" "base" "main.tf")).Built :=
    .insert (.insert (.insert .empty _) _) _
  have hagree := h _ true [imageFile] imageBlock parsedImage imagePath _ "main.tf" built (by decide) samePath_image
    .data ⟨"aws_instance.web", "aws_ami.base", .resource⟩ rfl (by decide)
  revert hagree
  decide +kernel

end Resolver

end ResourceGraph
