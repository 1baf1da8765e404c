import ResourceGraph.Document
import ResourceGraph.Proofs.Text.Lines
import ResourceGraph.Proofs.Text.Trim

/-! # Files as they stand in a document

A file is cleaned line by line. Whatever its line endings are, its lines are told apart (`Lined`); those that are not
blank are kept without the blanks at their ends, and a run of blank lines is kept or, if it is long, cut to one line
(`Cleaned`). What is cleaned has nothing left to clean, so cleaning it again changes nothing. -/

namespace ResourceGraph.Document
open Text
variable {cs line rest : List Char} {ls out blanks more : List (List Char)} {run : Nat}

/-! ## Lines whatever their endings -/

/-- A piece of a line: neither a line feed nor a carriage return is in it. -/
def Unbroken (line : List Char) : Prop := '\n' ∉ line ∧ '\r' ∉ line

/-- The lines of a text in which a line feed, a carriage return, or a return and a feed together end a line. The last
    line may lack its ending if there is anything in it. -/
inductive Lined : List Char → List (List Char) → Prop where
  | nil : Lined [] []
  | last {line : List Char} : Unbroken line → line ≠ [] → Lined line [line]
  | feed {line rest : List Char} {ls : List (List Char)} :
      Unbroken line → Lined rest ls → Lined (line ++ '\n' :: rest) (line :: ls)
  | returnFeed {line rest : List Char} {ls : List (List Char)} :
      Unbroken line → Lined rest ls → Lined (line ++ '\r' :: '\n' :: rest) (line :: ls)
  | loneReturn {line rest : List Char} {ls : List (List Char)} :
      Unbroken line → rest.head? ≠ some '\n' → Lined rest ls → Lined (line ++ '\r' :: rest) (line :: ls)

theorem unbroken_nil : Unbroken [] := ⟨List.not_mem_nil, List.not_mem_nil⟩

theorem unbroken_cons {c : Char} (hfeed : c ≠ '\n') (hreturn : c ≠ '\r') (h : Unbroken line) : Unbroken (c :: line) :=
  ⟨List.not_mem_cons_of_ne_of_not_mem hfeed.symm h.1, List.not_mem_cons_of_ne_of_not_mem hreturn.symm h.2⟩

theorem Lined.exists_cons {c : Char} (h : Lined cs ls) (hfeed : c ≠ '\n') (hreturn : c ≠ '\r') :
    ∃ ls, Lined (c :: cs) ls := by
  cases h with
  | nil => exact ⟨_, .last (unbroken_cons hfeed hreturn unbroken_nil) (List.cons_ne_nil _ _)⟩
  | last hline _ => exact ⟨_, .last (unbroken_cons hfeed hreturn hline) (List.cons_ne_nil _ _)⟩
  | feed hline hrest => exact ⟨_, .feed (unbroken_cons hfeed hreturn hline) hrest⟩
  | returnFeed hline hrest => exact ⟨_, .returnFeed (unbroken_cons hfeed hreturn hline) hrest⟩
  | loneReturn hline hhead hrest => exact ⟨_, .loneReturn (unbroken_cons hfeed hreturn hline) hhead hrest⟩

/-- Every text has lines. -/
theorem exists_lined (cs : List Char) : ∃ ls, Lined cs ls := by
  fun_induction unifyReturns cs with
  | case1 => exact ⟨_, .nil⟩
  | case2 rest ih =>
    obtain ⟨ls, hrest⟩ := ih
    exact ⟨_, .returnFeed unbroken_nil hrest⟩
  | case3 c rest hnot ih =>
    obtain ⟨ls, hrest⟩ := ih
    by_cases hreturn : c = '\r'
    · subst hreturn
      refine ⟨_, .loneReturn unbroken_nil (fun hhead => ?_) hrest⟩
      obtain ⟨tail, rfl⟩ := List.head?_eq_some_iff.mp hhead
      exact hnot tail rfl rfl
    · by_cases hfeed : c = '\n'
      · subst hfeed
        exact ⟨_, .feed unbroken_nil hrest⟩
      · exact hrest.exists_cons hfeed hreturn

theorem unifyReturns_cons {c : Char} (h : c ≠ '\r') : unifyReturns (c :: cs) = c :: unifyReturns cs := by
  rw [unifyReturns, if_neg h]
  intro _ hc
  exact absurd hc h

theorem unifyReturns_append (h : '\r' ∉ line) : unifyReturns (line ++ rest) = line ++ unifyReturns rest := by
  induction line with
  | nil => rfl
  | cons c line ih =>
    have hc : c ≠ '\r' := (List.ne_of_not_mem_cons h).symm
    rw [List.cons_append, unifyReturns_cons hc, ih (List.not_mem_of_not_mem_cons h), List.cons_append]

theorem unifyReturns_of_not_mem (h : '\r' ∉ line) : unifyReturns line = line := by
  have happend : unifyReturns (line ++ []) = line ++ unifyReturns [] := unifyReturns_append h
  simpa [unifyReturns] using happend

theorem unifyReturns_loneReturn (h : rest.head? ≠ some '\n') :
    unifyReturns ('\r' :: rest) = '\n' :: unifyReturns rest := by
  rw [unifyReturns, if_pos rfl]
  rintro tail - rfl
  exact h rfl

/-- With unified line endings a text has the same lines, so it has them only. -/
theorem Lined.eq_lines (h : Lined cs ls) : ls = lines (unifyReturns cs) := by
  induction h with
  | nil => rfl
  | last hline hne => rw [unifyReturns_of_not_mem hline.2, lines_last hline.1 hne]
  | feed hline _ ih =>
    rw [unifyReturns_append hline.2, unifyReturns_cons (by decide), lines_line hline.1,
      dropReturn_of_not_mem hline.2, ih]
  | returnFeed hline _ ih =>
    rw [unifyReturns_append hline.2, unifyReturns, lines_line hline.1, dropReturn_of_not_mem hline.2, ih]
  | loneReturn hline hhead _ ih =>
    rw [unifyReturns_append hline.2, unifyReturns_loneReturn hhead, lines_line hline.1,
      dropReturn_of_not_mem hline.2, ih]

theorem Lined.unbroken (h : Lined cs ls) : ∀ line ∈ ls, Unbroken line := by
  induction h with
  | nil => simp
  | last hline _ => simpa using hline
  | feed hline _ ih | returnFeed hline _ ih | loneReturn hline _ _ ih => exact List.forall_mem_cons.mpr ⟨hline, ih⟩

/-- Lines with a line feed behind each of them. -/
def unlines (ls : List (List Char)) : List Char := ls.flatMap (· ++ ['\n'])

theorem lined_unlines (h : ∀ line ∈ ls, Unbroken line) : Lined (unlines ls) ls := by
  induction ls with
  | nil => exact .nil
  | cons line ls ih =>
    obtain ⟨hline, hls⟩ := List.forall_mem_cons.mp h
    simpa [unlines] using Lined.feed hline (ih hls)

/-! ## Runs of blank lines -/

/-- Whether there is nothing but blanks on a line. -/
def isBlankLine (line : List Char) : Bool := line.all isBlank

/-- What is left of a run of blank lines: as many empty lines, or one for more than two. -/
def shortened (blanks : List (List Char)) : List (List Char) :=
  List.replicate (if blanks.length ≤ 2 then blanks.length else 1) []

/-- What is left of some lines. They are taken apart into the runs of blank lines, however short, that stand in front of
    each other line and at the end. -/
inductive Cleaned : List (List Char) → List (List Char) → Prop where
  | last {blanks : List (List Char)} : (∀ b ∈ blanks, isBlankLine b = true) → Cleaned blanks (shortened blanks)
  | line {blanks rest out : List (List Char)} {line : List Char} :
      (∀ b ∈ blanks, isBlankLine b = true) → isBlankLine line = false → Cleaned rest out →
      Cleaned (blanks ++ line :: rest) (shortened blanks ++ trimEnd line :: out)

theorem isBlankLine_iff : isBlankLine line = true ↔ trimEnd line = [] := by
  rw [isBlankLine, List.all_eq_true, trimEnd_eq_nil_iff]

theorem trimEnd_ne_nil (h : isBlankLine line = false) : trimEnd line ≠ [] :=
  fun hnil => Bool.false_ne_true (h.symm.trans (isBlankLine_iff.mpr hnil))

theorem isBlankLine_trimEnd (h : isBlankLine line = false) : isBlankLine (trimEnd line) = false := by
  rw [Bool.eq_false_iff, Ne, isBlankLine_iff, trimEnd_trimEnd]
  exact trimEnd_ne_nil h

theorem eq_nil_of_mem_shortened (h : line ∈ shortened blanks) : line = [] := List.eq_of_mem_replicate h

theorem length_shortened (blanks : List (List Char)) : (shortened blanks).length ≤ 2 := by
  unfold shortened
  rw [List.length_replicate]
  split <;> omega

theorem shortened_shortened : shortened (shortened blanks) = shortened blanks := by
  have hlength : (shortened blanks).length ≤ 2 := length_shortened blanks
  rw [shortened, if_pos hlength, shortened, List.length_replicate]

theorem exists_cleaned (ls : List (List Char)) : ∃ out, Cleaned ls out := by
  suffices h : ∀ blanks : List (List Char), (∀ b ∈ blanks, isBlankLine b = true) → ∃ out, Cleaned (blanks ++ ls) out by
    exact h [] (by simp)
  induction ls with
  | nil =>
    intro blanks hblanks
    exact ⟨_, by simpa using Cleaned.last hblanks⟩
  | cons line ls ih =>
    intro blanks hblanks
    cases hline : isBlankLine line with
    | true =>
      -- the run goes on with this line
      obtain ⟨out, hout⟩ := ih (blanks ++ [line]) (by simpa [or_imp, forall_and, hline] using hblanks)
      exact ⟨out, by simpa using hout⟩
    | false =>
      obtain ⟨out, hout⟩ := ih [] (by simp)
      exact ⟨_, .line hblanks hline hout⟩

theorem collapseBlanks_line (h : line ≠ []) :
    collapseBlanks run (line :: ls) = List.replicate (keptBlanks run) '\n' ++ line ++ '\n' :: collapseBlanks 0 ls := by
  obtain ⟨c, line, rfl⟩ := List.exists_cons_of_ne_nil h
  rfl

theorem collapseBlanks_blanks (h : ∀ b ∈ blanks, isBlankLine b = true) :
    collapseBlanks run (blanks.map trimEnd ++ ls) = collapseBlanks (run + blanks.length) ls := by
  induction blanks generalizing run with
  | nil => rfl
  | cons b blanks ih =>
    obtain ⟨hb, hblanks⟩ := List.forall_mem_cons.mp h
    rw [List.map_cons, isBlankLine_iff.mp hb, List.cons_append, collapseBlanks, ih hblanks, List.length_cons]
    congr 1
    omega

theorem unlines_shortened : unlines (shortened blanks) = List.replicate (keptBlanks blanks.length) '\n' := by
  have hkept : keptBlanks blanks.length = if blanks.length ≤ 2 then blanks.length else 1 := by
    unfold keptBlanks
    split <;> split <;> omega
  rw [unlines, shortened, hkept, List.flatMap_replicate]
  simp

/-- The counter of blank lines finds the runs between the other lines. -/
theorem Cleaned.collapseBlanks_eq (h : Cleaned ls out) : collapseBlanks 0 (ls.map trimEnd) = unlines out := by
  induction h with
  | last hblanks =>
    rw [← List.append_nil (List.map _ _), collapseBlanks_blanks hblanks, Nat.zero_add, collapseBlanks,
      unlines_shortened]
  | @line blanks rest out line hblanks hline _ ih =>
    rw [List.map_append, List.map_cons, collapseBlanks_blanks hblanks, Nat.zero_add,
      collapseBlanks_line (trimEnd_ne_nil hline), ih, ← unlines_shortened]
    simp [unlines]

theorem Cleaned.cleaned (h : Cleaned ls out) : Cleaned out out := by
  have hempty (blanks : List (List Char)) : ∀ b ∈ shortened blanks, isBlankLine b = true := by
    intro b hb
    rw [eq_nil_of_mem_shortened hb]
    rfl
  induction h with
  | @last blanks => simpa [shortened_shortened] using Cleaned.last (hempty blanks)
  | @line blanks rest out line _ hline _ ih =>
    simpa [shortened_shortened, trimEnd_trimEnd] using Cleaned.line (hempty blanks) (isBlankLine_trimEnd hline) ih

theorem Cleaned.filter_eq (h : Cleaned ls out) :
    out.filter (!isBlankLine ·) = (ls.filter (!isBlankLine ·)).map trimEnd := by
  have hempty (blanks : List (List Char)) : (shortened blanks).filter (!isBlankLine ·) = [] := by
    simp [shortened, isBlankLine]
  have hnone {blanks : List (List Char)} (hblanks : ∀ b ∈ blanks, isBlankLine b = true) :
      blanks.filter (!isBlankLine ·) = [] := by simpa using hblanks
  induction h with
  | last hblanks => rw [hempty, hnone hblanks, List.map_nil]
  | line hblanks hline _ ih =>
    rw [List.filter_append, List.filter_append, hempty, hnone hblanks, List.nil_append, List.nil_append,
      List.filter_cons_of_pos (by simp [isBlankLine_trimEnd hline]), List.filter_cons_of_pos (by simp [hline]), ih,
      List.map_cons]

theorem Cleaned.mem (h : Cleaned ls out) (hline : line ∈ out) : line = [] ∨ ∃ source ∈ ls, line = trimEnd source := by
  induction h with
  | last => exact .inl (eq_nil_of_mem_shortened hline)
  | @line blanks rest out source _ _ _ ih =>
    rcases List.mem_append.mp hline with hline | hline
    · exact .inl (eq_nil_of_mem_shortened hline)
    · rcases List.mem_cons.mp hline with rfl | hline
      · exact .inr ⟨source, by simp, rfl⟩
      · refine (ih hline).imp_right ?_
        rintro ⟨source, hsource, rfl⟩
        exact ⟨source, by simp [hsource], rfl⟩

theorem Cleaned.getLast? {c : Char} (h : Cleaned ls out) (hline : line ∈ out) (hc : line.getLast? = some c) :
    isBlank c = false := by
  rcases h.mem hline with rfl | ⟨source, -, rfl⟩
  · simp at hc
  · exact getLast?_trimEnd hc

theorem Cleaned.unbroken (h : Cleaned ls out) (hls : ∀ line ∈ ls, Unbroken line) : ∀ line ∈ out, Unbroken line := by
  intro line hline
  rcases h.mem hline with rfl | ⟨source, hsource, rfl⟩
  · exact unbroken_nil
  · obtain ⟨hfeed, hreturn⟩ := hls source hsource
    have hstart : trimEnd source <+: source := trimEnd_prefix source
    exact ⟨fun h => hfeed (hstart.subset h), fun h => hreturn (hstart.subset h)⟩

theorem prefix_of_prefix_append_cons (h : more <+: blanks ++ line :: ls) (hline : line ∉ more) : more <+: blanks := by
  induction blanks generalizing more with
  | nil =>
    cases more with
    | nil => exact List.nil_prefix
    | cons b more =>
      obtain ⟨rfl, -⟩ := List.cons_prefix_cons.mp h
      exact absurd List.mem_cons_self hline
  | cons b blanks ih =>
    cases more with
    | nil => exact List.nil_prefix
    | cons b more =>
      obtain ⟨rfl, htail⟩ := List.cons_prefix_cons.mp h
      exact List.cons_prefix_cons.mpr ⟨rfl, ih htail (List.not_mem_of_not_mem_cons hline)⟩

/-- Lines in a row that do not have `line` among them are on one side of it. -/
theorem infix_of_infix_append_cons (h : more <:+: blanks ++ line :: ls) (hline : line ∉ more) :
    more <:+: blanks ∨ more <:+: ls := by
  induction blanks with
  | nil =>
    refine (List.infix_cons_iff.mp h).imp_left fun hstart => ?_
    exact (prefix_of_prefix_append_cons hstart hline).isInfix
  | cons b blanks ih =>
    rcases List.infix_cons_iff.mp h with hstart | hwithin
    · exact .inl (prefix_of_prefix_append_cons hstart hline).isInfix
    · exact (ih hwithin).imp_left List.infix_cons

/-- No three blank lines are left in a row. -/
theorem Cleaned.short_runs (h : Cleaned ls out) : ¬[[], [], []] <:+: out := by
  have hshort (blanks : List (List Char)) : ¬[[], [], []] <:+: shortened blanks := by
    intro hwithin
    have hlength := hwithin.length_le
    have hbound := length_shortened blanks
    simp at hlength
    omega
  induction h with
  | @last blanks => exact hshort blanks
  | @line blanks rest out line _ hline _ ih =>
    intro hwithin
    rcases infix_of_infix_append_cons hwithin (by simpa using Ne.symm (trimEnd_ne_nil hline)) with hblanks | hout
    · exact hshort blanks hblanks
    · exact ih hout

/-! ## Cleaned texts -/

theorem cleanChars_eq (hls : Lined cs ls) (hout : Cleaned ls out) : cleanChars cs = unlines out := by
  rw [cleanChars, ← hls.eq_lines, hout.collapseBlanks_eq]

/-- What is cleaned has nothing left to clean. -/
theorem cleanChars_unlines (hls : Lined cs ls) (hout : Cleaned ls out) : cleanChars (unlines out) = unlines out :=
  cleanChars_eq (lined_unlines (hout.unbroken hls.unbroken)) hout.cleaned

theorem return_not_mem_unlines (h : ∀ line ∈ ls, Unbroken line) : '\r' ∉ unlines ls := by
  intro hmem
  obtain ⟨line, hline, hmem⟩ := List.mem_flatMap.mp hmem
  simp [(h line hline).2] at hmem

/-- A file in a document. Its lines, which its line endings determine, are those of the text read with a line feed for
    each ending. Each line that is left ends with a line feed and with no blank before it, and there is no carriage
    return. Runs of blank lines are kept up to two lines and cut to one line beyond; the other lines are all there, in
    order. Cleaning the text again changes nothing. -/
theorem clean_normal (s : String) :
    ∃ ls out, Lined s.toList ls ∧ (∀ other, Lined s.toList other → other = ls) ∧
      (clean s).toList = unlines out ∧ Cleaned ls out ∧
      '\r' ∉ (clean s).toList ∧
      (∀ line ∈ out, '\n' ∉ line ∧ ∀ c, line.getLast? = some c → isBlank c = false) ∧
      ¬[[], [], []] <:+: out ∧
      out.filter (!isBlankLine ·) = (ls.filter (!isBlankLine ·)).map trimEnd ∧
      clean (clean s) = clean s := by
  obtain ⟨ls, hls⟩ := exists_lined s.toList
  obtain ⟨out, hout⟩ := exists_cleaned ls
  have hunbroken := hout.unbroken hls.unbroken
  have hclean : (clean s).toList = unlines out := by rw [clean, String.toList_ofList, cleanChars_eq hls hout]
  refine ⟨ls, out, hls, fun other hother => hother.eq_lines.trans hls.eq_lines.symm, hclean, hout, ?_, ?_,
    hout.short_runs, hout.filter_eq, ?_⟩
  · rw [hclean]
    exact return_not_mem_unlines hunbroken
  · intro line hline
    exact ⟨(hunbroken line hline).1, fun c hc => hout.getLast? hline hc⟩
  · rw [clean, hclean, cleanChars_unlines hls hout, ← hclean, String.ofList_toList]

end ResourceGraph.Document
