import Mathlib.Algebra.Group.Nat.Defs
import ResourceGraph.Document
import ResourceGraph.Proofs.Ascending

/-! # Documents within a limit

A document that does not fit its limit is cut behind a section. The notice about the cut tells how many bytes
are kept, so it grows with them, if only by a digit now and then; a text and its notice together grow with every
section. That is why keeping sections as long as they fit keeps as many as can fit at all, and why a greater
limit keeps no fewer. -/

namespace ResourceGraph
open Text

/-! ## Printed numbers -/

theorem utf8ByteSize_repr (n : Nat) : n.repr.utf8ByteSize = n.repr.length := by
  have digit : ∀ d < 10, (Nat.digitChar d).utf8Size = 1 := by decide
  induction n using Nat.strongRecOn with
  | ind n ih =>
    by_cases hn : n < 10
    · rw [Nat.repr_of_lt hn, String.utf8ByteSize_singleton, digit n hn, String.length_singleton]
    · rw [Nat.repr_of_ge (by omega), String.utf8ByteSize_append, String.length_append, ih (n / 10) (by omega),
        String.utf8ByteSize_singleton, digit _ (Nat.mod_lt _ (by decide)), String.length_singleton]

theorem utf8ByteSize_repr_mono {m n : Nat} (h : m ≤ n) : m.repr.utf8ByteSize ≤ n.repr.utf8ByteSize := by
  rw [utf8ByteSize_repr, utf8ByteSize_repr, Nat.length_repr_le_iff Nat.length_repr_pos]
  have hn : n < 10 ^ n.repr.length := (Nat.length_repr_le_iff Nat.length_repr_pos).mp (Nat.le_refl _)
  exact Nat.lt_of_le_of_lt h hn

theorem utf8ByteSize_repr_le {n : Nat} (h : n < 2 ^ 64) : n.repr.utf8ByteSize ≤ 20 := by
  rw [utf8ByteSize_repr, Nat.length_repr_le_iff (by decide)]
  omega

namespace Document

section Sections
variable {limit full m n : Nat} {sections kept other : List String}

/-! ## Sizes -/

theorem utf8ByteSize_notice (full kept : Nat) : (notice full kept).utf8ByteSize =
    68 + full.repr.utf8ByteSize + kept.repr.utf8ByteSize := by
  have words : "\n\n[Document truncated: original length ".utf8ByteSize = 39 ∧
      " bytes, truncated to ".utf8ByteSize = 21 ∧ " bytes]\n".utf8ByteSize = 8 := by decide
  unfold notice
  simp only [toString, String.utf8ByteSize_append, words]
  omega

theorem utf8ByteSize_notice_mono (h : m ≤ n) : (notice full m).utf8ByteSize ≤ (notice full n).utf8ByteSize := by
  rw [utf8ByteSize_notice, utf8ByteSize_notice]
  exact Nat.add_le_add_left (utf8ByteSize_repr_mono h) _

/-- Any notice about numbers of 64 bits fits the least limit. -/
theorem utf8ByteSize_notice_le (hm : m < 2 ^ 64) (hn : n < 2 ^ 64) : (notice m n).utf8ByteSize ≤ leastLimit := by
  have hm := utf8ByteSize_repr_le hm
  have hn := utf8ByteSize_repr_le hn
  rw [utf8ByteSize_notice, leastLimit]
  omega

theorem utf8ByteSize_join (sections : List String) : (join sections).utf8ByteSize = joinedSize sections := by
  have feed : "\n".utf8ByteSize = 1 := by decide
  unfold join joinedSize
  induction sections with
  | nil => rfl
  | cons s rest ih =>
    cases rest with
    | nil => simp [total]
    | cons t rest =>
      rw [String.intercalate_cons_cons, String.utf8ByteSize_append, String.utf8ByteSize_append, ih, feed]
      simp only [total, List.map_cons, List.length_cons]
      omega

theorem joinedSize_mono (h : kept <+: sections) : joinedSize kept ≤ joinedSize sections := by
  obtain ⟨more, rfl⟩ := h
  simp only [joinedSize, total_append, List.map_append, List.length_append]
  omega

/-! ## Sections that fit with a notice -/

/-- Some leading sections with the notice about the cut behind them. -/
def cutText (full : Nat) (kept : List String) : String := join kept ++ notice full (join kept).utf8ByteSize

theorem fits_iff : fits limit full kept = true ↔ (cutText full kept).utf8ByteSize ≤ limit := by
  rw [fits, cutText, String.utf8ByteSize_append, utf8ByteSize_join, decide_eq_true_eq]

/-- A text that is cut later is longer, the notice included. -/
theorem utf8ByteSize_cutText_mono (h : kept <+: other) :
    (cutText full kept).utf8ByteSize ≤ (cutText full other).utf8ByteSize := by
  simp only [cutText, String.utf8ByteSize_append, utf8ByteSize_join]
  exact Nat.add_le_add (joinedSize_mono h) (utf8ByteSize_notice_mono (joinedSize_mono h))

/-- The longest run of leading sections that fits a limit together with the notice about the cut. -/
structure LongestFit (limit full : Nat) (sections kept : List String) : Prop where
  leading : kept <+: sections
  fits : (cutText full kept).utf8ByteSize ≤ limit
  longest : ∀ other, other <+: sections → (cutText full other).utf8ByteSize ≤ limit → other <+: kept

/-- Sections are kept up to the first one that does not fit, and none behind it can fit. -/
theorem LongestFit.keep (h : (cutText full kept).utf8ByteSize ≤ limit) (rest : List String) :
    LongestFit limit full (kept ++ rest) (keep limit full kept rest) := by
  induction rest generalizing kept with
  | nil =>
    rw [List.append_nil]
    exact ⟨List.prefix_rfl, h, fun _ hother _ => hother⟩
  | cons next rest ih =>
    unfold Document.keep
    split
    · rename_i hnext
      have hrest := ih (fits_iff.mp hnext)
      rwa [List.append_assoc, List.singleton_append] at hrest
    · rename_i hnext
      refine ⟨List.prefix_append _ _, h, fun other hother hfits => ?_⟩
      rcases Nat.lt_or_ge kept.length other.length with hlength | hlength
      · -- A longer run holds the section that did not fit.
        have hshort : kept ++ [next] <+: kept ++ next :: rest := ⟨rest, by simp⟩
        have hinside : kept ++ [next] <+: other :=
          List.prefix_of_prefix_length_le hshort hother (by simpa using Nat.succ_le_of_lt hlength)
        exact absurd (fits_iff.mpr (Nat.le_trans (utf8ByteSize_cutText_mono hinside) hfits)) hnext
      · exact List.prefix_of_prefix_length_le hother (List.prefix_append _ _) hlength

/-- A longest run stays within that of a greater limit. -/
theorem LongestFit.mono {lower : Nat} {fewer : List String} (hfewer : LongestFit lower full sections fewer)
    (h : LongestFit limit full sections kept) (hle : lower ≤ limit) : fewer <+: kept :=
  h.longest fewer hfewer.leading (Nat.le_trans hfewer.fits hle)

/-- The notice alone fits every limit that a format can have. -/
theorem utf8ByteSize_cutText_nil (h : full < 2 ^ 64) : (cutText full []).utf8ByteSize ≤ leastLimit := by
  have hempty : (join []).utf8ByteSize = 0 := utf8ByteSize_join []
  rw [cutText, String.utf8ByteSize_append, hempty, Nat.zero_add]
  exact utf8ByteSize_notice_le h (by decide)

/-- A document within a limit: all sections if they fit, else the longest run of leading ones that fits with the
    notice about the cut. -/
structure Written (limit : Nat) (sections kept : List String) (doc : Document) : Prop where
  size_le : doc.size ≤ limit
  whole : (join sections).utf8ByteSize ≤ limit → kept = sections ∧ doc = ⟨join sections, none⟩
  cut : limit < (join sections).utf8ByteSize → LongestFit limit (join sections).utf8ByteSize sections kept ∧
    doc = ⟨cutText (join sections).utf8ByteSize kept,
      some ⟨(join sections).utf8ByteSize, (join kept).utf8ByteSize⟩⟩

/-- What is kept within a limit stays within what is kept within a greater one. -/
theorem Written.mono {lower : Nat} {fewer : List String} {doc doc' : Document}
    (hfewer : Written lower sections fewer doc') (h : Written limit sections kept doc) (hle : lower ≤ limit) :
    fewer <+: kept := by
  by_cases hlower : (join sections).utf8ByteSize ≤ lower
  · obtain ⟨hall, -⟩ := hfewer.whole hlower
    obtain ⟨rfl, -⟩ := h.whole (Nat.le_trans hlower hle)
    subst hall
    exact List.prefix_rfl
  · obtain ⟨hfewer, -⟩ := hfewer.cut (Nat.lt_of_not_le hlower)
    by_cases hlimit : (join sections).utf8ByteSize ≤ limit
    · rw [(h.whole hlimit).1]
      exact hfewer.leading
    · obtain ⟨hkept, -⟩ := h.cut (Nat.lt_of_not_le hlimit)
      exact hfewer.mono hkept hle

end Sections

namespace Format
variable {f : Format} {d : Draft} {files : List AnnotatedFile}

/-! ## What a format writes -/

/-- The sections that a document keeps: all of them if they fit. -/
def kept (f : Format) (d : Draft) : List String :=
  if (join (f.sections d)).utf8ByteSize ≤ f.limit then f.sections d
  else keep f.limit (join (f.sections d)).utf8ByteSize [] (f.sections d)

theorem write_eq (f : Format) (d : Draft) : f.write d =
    if (join (f.sections d)).utf8ByteSize ≤ f.limit then ⟨join (f.sections d), none⟩
    else ⟨cutText (join (f.sections d)).utf8ByteSize (f.kept d),
      some ⟨(join (f.sections d)).utf8ByteSize, (join (f.kept d)).utf8ByteSize⟩⟩ := by
  simp only [write, ← utf8ByteSize_join]
  split
  · rfl
  · rename_i hcut
    rw [kept, if_neg hcut, cutText]

theorem written_write (hlimit : leastLimit ≤ f.limit) (h : (join (f.sections d)).utf8ByteSize < 2 ^ 64) :
    Written f.limit (f.sections d) (f.kept d) (f.write d) := by
  rw [write_eq]
  by_cases hfull : (join (f.sections d)).utf8ByteSize ≤ f.limit
  · rw [if_pos hfull]
    exact ⟨hfull, fun _ => ⟨if_pos hfull, rfl⟩, fun hcut => absurd hfull (Nat.not_le.mpr hcut)⟩
  · have hlongest : LongestFit f.limit (join (f.sections d)).utf8ByteSize (f.sections d) (f.kept d) := by
      rw [kept, if_neg hfull]
      exact .keep (Nat.le_trans (utf8ByteSize_cutText_nil h) hlimit) (f.sections d)
    rw [if_neg hfull]
    exact ⟨hlongest.fits, fun hwhole => absurd hwhole hfull, fun _ => ⟨hlongest, rfl⟩⟩

/-! ## The order of files -/

/-- The primary file first, the others by name; files of one name stay in their order. -/
structure Arranged (primary : String) (files arranged : List AnnotatedFile) : Prop where
  perm : arranged.Perm files
  sorted : arranged.Pairwise fun a b => a.name = primary ∨ (b.name ≠ primary ∧ a.name ≤ b.name)
  stable : ∀ name, arranged.filter (·.name = name) = files.filter (·.name = name)

/-- The order by name in which files are sorted. -/
def byName (a b : AnnotatedFile) : Bool := decide (a.name ≤ b.name)

theorem byName_trans (a b c : AnnotatedFile) (hab : byName a b = true) (hbc : byName b c = true) :
    byName a c = true := by
  unfold byName at *
  simp only [decide_eq_true_eq] at *
  exact String.le_trans hab hbc

theorem byName_total (a b : AnnotatedFile) : (byName a b || byName b a) = true := by
  simpa [byName] using String.le_total a.name b.name

theorem byName_of_eq (a b : AnnotatedFile) (h : a.name = b.name) : byName a b = true := by
  simp [byName, h]

theorem arrange_eq (f : Format) (files : List AnnotatedFile) : f.arrange files =
    files.filter (·.name = f.primary) ++ (files.filter (·.name ≠ f.primary)).mergeSort byName := rfl

theorem arranged_arrange (f : Format) (files : List AnnotatedFile) : Arranged f.primary files (f.arrange files) where
  perm := by
    have hothers : (files.filter fun file => decide (file.name ≠ f.primary)) =
        files.filter fun file => !decide (file.name = f.primary) := by simp
    rw [arrange_eq, hothers]
    exact ((List.mergeSort_perm _ _).append_left _).trans (List.filter_append_perm _ _)
  sorted := by
    have hfirst : ∀ a ∈ files.filter (·.name = f.primary), a.name = f.primary := fun a ha =>
      of_decide_eq_true (List.mem_filter.mp ha).2
    have hother : ∀ b ∈ (files.filter (·.name ≠ f.primary)).mergeSort byName, b.name ≠ f.primary := fun b hb =>
      of_decide_eq_true (List.mem_filter.mp (List.mem_mergeSort.mp hb)).2
    rw [arrange_eq]
    refine List.pairwise_append.mpr ⟨?_, ?_, fun a ha _ _ => Or.inl (hfirst a ha)⟩
    · exact List.pairwise_of_forall_mem_list fun a ha _ _ => Or.inl (hfirst a ha)
    · refine (List.pairwise_mergeSort byName_trans byName_total _).imp_of_mem fun _ hb hle => ?_
      exact Or.inr ⟨hother _ hb, of_decide_eq_true hle⟩
  stable name := by
    rw [arrange_eq, List.filter_append, Sorted.filter_mergeSort byName_trans byName_total byName_of_eq,
      List.filter_filter, List.filter_filter]
    by_cases hname : name = f.primary
    · subst hname
      simp
    · have hnone : files.filter (fun file => decide (file.name = name) && decide (file.name = f.primary)) = [] :=
        List.filter_eq_nil_iff.mpr fun file _ => by grind
      have hall : files.filter (fun file => decide (file.name = name) && decide (file.name ≠ f.primary)) =
          files.filter (·.name = name) := List.filter_congr fun file _ => by grind
      rw [hnone, hall, List.nil_append]

/-- A document keeps to its limit and keeps as many sections as fit, and a greater limit never drops a section
    that a lower one kept. -/
theorem write_written (limit : Nat) (primary : String) (d : Draft)
    (h : (join ((make limit primary).sections d)).utf8ByteSize < 2 ^ 64) :
    (∃ files, Arranged primary d.files files ∧ (make limit primary).sections d =
      [d.overview, d.groupSummary, d.dependencySummary] ++ files.map (fun file => clean file.content) ++
        [instructions]) ∧
    Written (max limit 256) ((make limit primary).sections d) ((make limit primary).kept d)
      ((make limit primary).write d) ∧
    ∀ lower ≤ limit, (make lower primary).kept d <+: (make limit primary).kept d := by
  have written : ∀ limit, Written (max limit 256) ((make limit primary).sections d) ((make limit primary).kept d)
      ((make limit primary).write d) := fun limit =>
    written_write (f := make limit primary) (Nat.le_max_right _ _) h
  refine ⟨⟨_, arranged_arrange (make limit primary) d.files, rfl⟩, written limit, fun lower hle => ?_⟩
  exact (written lower).mono (written limit) (by omega)

/-- A draft about two files. Within the least limit its document loses the instructions. -/
def shortDraft : Draft :=
  ⟨"# Overview\n", "## Groups\n", "## Dependencies\n",
    [⟨"app.tf", [], [], "app\n"⟩, ⟨"main.tf", [], [], "main\n"⟩]⟩

theorem write_written_short : (join ((make 300 "main.tf").sections shortDraft)).utf8ByteSize < 2 ^ 64 ∧
    ((make 300 "main.tf").write shortDraft).size ≤ 300 ∧
    ["# Overview\n", "## Groups\n", "## Dependencies\n", "main\n", "app\n"] <+:
      (make 300 "main.tf").kept shortDraft := by
  have h : (join ((make 300 "main.tf").sections shortDraft)).utf8ByteSize < 2 ^ 64 := by decide +kernel
  have least : (make 0 "main.tf").kept shortDraft =
      ["# Overview\n", "## Groups\n", "## Dependencies\n", "main\n", "app\n"] := by decide +kernel
  obtain ⟨-, written, kept⟩ := write_written 300 "main.tf" shortDraft h
  have hprefix := kept 0 (by decide)
  rw [least] at hprefix
  exact ⟨h, written.size_le, hprefix⟩

end Format

end Document

end ResourceGraph
