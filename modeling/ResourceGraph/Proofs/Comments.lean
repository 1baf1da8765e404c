import Mathlib.Data.List.TakeWhile
import ResourceGraph.Proofs.Braces
import ResourceGraph.Proofs.Headers
import ResourceGraph.Proofs.Text.Lines
import ResourceGraph.Scan

/-! # Comments among assignments

A line that holds a comment assigns to no key, but its brackets count like those of any other line. So the lines behind
a comment are read as if they stood deeper by what its brackets add, and a comment leaves the keys of all bodies as
they are exactly if it opens as many brackets as it closes. -/

namespace ResourceGraph
open Text

section Lines
variable {cs line front back xs ys word : List Char} {parts ls more : List (List Char)} {depth : Int}

/-! ## Depths -/

theorem lineNesting_append : lineNesting (xs ++ ys) = lineNesting xs + lineNesting ys := by
  induction xs with
  | nil => simp [lineNesting]
  | cons x xs ih => simp [lineNesting, ih, Int.add_assoc]

/-- What some lines add to the depth of nesting. -/
def linesNesting : List (List Char) → Int
  | [] => 0
  | line :: ls => lineNesting line + linesNesting ls

theorem keysAt_append : keysAt depth (ls ++ more) = keysAt depth ls ++ keysAt (depth + linesNesting ls) more := by
  induction ls generalizing depth with
  | nil => simp [keysAt, linesNesting]
  | cons line ls ih =>
    have hdepth : depth + linesNesting (line :: ls) = depth + lineNesting line + linesNesting ls := by
      simp [linesNesting, Int.add_assoc]
    rw [List.cons_append, keysAt, keysAt, ih, hdepth]
    split
    · rw [List.append_assoc]
    · rfl

theorem lineNesting_dropReturn : lineNesting (dropReturn cs) = lineNesting cs := by
  rcases dropReturn_eq cs with h | h
  · rw [h]
  · have hreturn : lineNesting ['\r'] = 0 := by decide
    rw [congrArg lineNesting h, lineNesting_append, hreturn, Int.add_zero]

theorem linesNesting_linesOfParts : linesNesting (linesOfParts parts) = linesNesting parts := by
  fun_induction linesOfParts parts with
  | case1 => rfl
  | case2 last hlast =>
    obtain rfl := List.isEmpty_iff.mp hlast
    rfl
  | case3 => rfl
  | case4 part parts hparts ih => simpa [linesNesting, lineNesting_dropReturn] using ih

theorem linesNesting_split : linesNesting (split '\n' cs) = lineNesting cs := by
  induction cs with
  | nil => rfl
  | cons c cs ih =>
    obtain ⟨part, parts, hparts⟩ := List.exists_cons_of_ne_nil (split_ne_nil '\n' cs)
    rw [hparts] at ih
    rw [split, lineNesting, ← ih, hparts]
    split
    · rename_i hfeed
      have hc : nesting c = 0 := hfeed ▸ by decide
      simp [linesNesting, lineNesting, hc]
    · simp [linesNesting, lineNesting, Int.add_assoc]

/-- The lines of a text add what its characters add. -/
theorem linesNesting_lines : linesNesting (lines cs) = lineNesting cs := by
  rw [lines, linesNesting_linesOfParts, linesNesting_split]

/-! ## A carriage return at the end of a line -/

theorem trimStart_return (cs : List Char) :
    trimStart (cs ++ ['\r']) = trimStart cs ∨ trimStart (cs ++ ['\r']) = trimStart cs ++ ['\r'] := by
  unfold trimStart
  rw [List.dropWhile_append]
  split
  · rename_i hempty
    exact Or.inl (List.isEmpty_iff.mp hempty).symm
  · exact Or.inr rfl

theorem startsWith_return (h : '\r' ∉ word) : startsWith (cs ++ ['\r']) word = startsWith cs word := by
  rw [Bool.eq_iff_iff, startsWith_iff, startsWith_iff, List.prefix_concat_iff]
  refine ⟨fun hword => hword.resolve_left ?_, Or.inr⟩
  rintro rfl
  simp at h

/-- A carriage return at the end of a line does not change the key that the line assigns to. -/
theorem assignedKey?_return : assignedKey? (cs ++ ['\r']) = assignedKey? cs := by
  have hkey : isKeyChar '\r' = false := by decide
  rcases trimStart_return cs with h | h
  · rw [assignedKey?, h, assignedKey?]
  · have htake : (trimStart cs ++ ['\r']).takeWhile isKeyChar = (trimStart cs).takeWhile isKeyChar := by
      rw [List.takeWhile_append]
      split
      · rename_i hall
        rw [(List.takeWhile_prefix _).eq_of_length hall]
        simp [hkey]
      · rfl
    have hdrop : (trimStart cs ++ ['\r']).dropWhile isKeyChar = (trimStart cs).dropWhile isKeyChar ++ ['\r'] := by
      simp [List.dropWhile_append, hkey]
    have hrest : ∀ {word : List Char}, '\r' ∉ word →
        startsWith (trimStart ((trimStart cs).dropWhile isKeyChar ++ ['\r'])) word =
          startsWith (trimStart ((trimStart cs).dropWhile isKeyChar)) word := by
      intro word hword
      rcases trimStart_return ((trimStart cs).dropWhile isKeyChar) with heq | heq
      · rw [heq]
      · rw [heq, startsWith_return hword]
    unfold assignedKey?
    rw [h]
    simp only [htake, hdrop]
    rw [startsWith_return (by decide), startsWith_return (by decide), hrest (by decide), hrest (by decide)]

theorem assignedKey?_dropReturn : assignedKey? (dropReturn cs) = assignedKey? cs := by
  rcases dropReturn_eq cs with h | h
  · rw [h]
  · rw [congrArg assignedKey? h, assignedKey?_return]

theorem keysAt_linesOfParts : keysAt depth (linesOfParts parts) = keysAt depth (parts.map dropReturn) := by
  fun_induction linesOfParts parts generalizing depth with
  | case1 => rfl
  | case2 last hlast =>
    obtain rfl := List.isEmpty_iff.mp hlast
    have hnone : assignedKey? (dropReturn []) = none := by decide
    simp [keysAt, hnone]
  | case3 => simp [keysAt, assignedKey?_dropReturn]
  | case4 part parts hparts ih => simp [keysAt, ih]

/-- A line feed at the end of a text changes no keys. -/
theorem topLevelKeys_feed : topLevelKeys (cs ++ ['\n']) = topLevelKeys cs := by
  rw [topLevelKeys, lines_append_feed, lines_nil, List.append_nil, topLevelKeys, lines, keysAt_linesOfParts]

theorem topLevelKeys_append (h : startsLine front.getLast? = true) :
    topLevelKeys (front ++ back) = topLevelKeys front ++ keysAt (lineNesting front) (lines back) := by
  rw [topLevelKeys, lines_append h, keysAt_append, linesNesting_lines, Int.zero_add, topLevelKeys]

/-! ## A line that holds a comment -/

/-- A line that holds a comment and nothing else: blanks, one of the marks of a comment, and any text. -/
structure IsComment (line : List Char) : Prop where
  marked : ∃ blanks mark text, line = blanks ++ mark ++ text ∧ (∀ c ∈ blanks, isBlank c = true) ∧
    (mark = ['#'] ∨ mark = ['/', '/'])
  single : '\n' ∉ line

/-- A text with one more line, in front of one of the lines of a body or behind the last. -/
inductive Inserted (line body : List Char) : List Char → Prop where
  | between {front back : List Char} : body = front ++ back → startsLine front.getLast? = true →
      Inserted line body (front ++ line ++ '\n' :: back)
  | last : startsLine body.getLast? = true → Inserted line body (body ++ line)
  | behind : Inserted line body (body ++ '\n' :: line)
  | behindFeed : Inserted line body (body ++ '\n' :: line ++ ['\n'])

/-- Without its blanks a comment starts with one of the marks. -/
theorem trimStart_comment (h : IsComment line) : ∃ mark text, trimStart line = mark ++ text ∧
    (mark = ['#'] ∨ mark = ['/', '/']) := by
  obtain ⟨⟨blanks, mark, text, rfl, hblanks, hmark⟩, -⟩ := h
  refine ⟨mark, text, ?_, hmark⟩
  unfold trimStart
  rw [List.append_assoc, List.dropWhile_append_of_pos hblanks]
  rcases hmark with rfl | rfl
  · exact List.dropWhile_cons_of_neg (by decide)
  · exact List.dropWhile_cons_of_neg (by decide)

theorem assignedKey?_comment (h : IsComment line) : assignedKey? line = none := by
  obtain ⟨mark, text, htrim, hmark⟩ := trimStart_comment h
  have hstarts : startsWith (mark ++ text) ['#'] = true ∨ startsWith (mark ++ text) ['/', '/'] = true := by
    rcases hmark with rfl | rfl
    · exact Or.inl (startsWith_iff.mpr (List.prefix_append _ _))
    · exact Or.inr (startsWith_iff.mpr (List.prefix_append _ _))
  unfold assignedKey?
  rw [htrim]
  exact if_pos (Bool.or_eq_true_iff.mpr hstarts)

/-- A comment gives no key, and the lines behind it are read at the depth that its brackets lead to. -/
theorem keysAt_comment (h : IsComment line) : keysAt depth (lines (line ++ '\n' :: back)) =
    keysAt (depth + lineNesting line) (lines back) := by
  rw [lines_line h.single, keysAt, assignedKey?_dropReturn, assignedKey?_comment h, lineNesting_dropReturn]
  simp

theorem topLevelKeys_between (h : IsComment line) (hstart : startsLine front.getLast? = true) :
    topLevelKeys (front ++ line ++ '\n' :: back) =
      topLevelKeys front ++ keysAt (lineNesting front + lineNesting line) (lines back) := by
  rw [List.append_assoc, topLevelKeys_append hstart, keysAt_comment h]

/-- Behind the last line a comment changes no keys, whatever its brackets. -/
theorem topLevelKeys_last (h : IsComment line) (hstart : startsLine front.getLast? = true) :
    topLevelKeys (front ++ line) = topLevelKeys front := by
  rw [← topLevelKeys_feed, topLevelKeys_between h hstart, lines_nil, keysAt, List.append_nil]

/-- A comment whose brackets match changes no keys. -/
theorem topLevelKeys_inserted {body text : List Char} (h : IsComment line) (hnesting : lineNesting line = 0)
    (hinserted : Inserted line body text) : topLevelKeys text = topLevelKeys body := by
  have hbehind : topLevelKeys (body ++ '\n' :: line) = topLevelKeys body := by
    rw [List.append_cons, topLevelKeys_last h (startsLine_feed body), topLevelKeys_feed]
  cases hinserted with
  | between hbody hstart =>
    rw [topLevelKeys_between h hstart, hnesting, Int.add_zero, hbody, topLevelKeys_append hstart]
  | last hstart => exact topLevelKeys_last h hstart
  | behind => exact hbehind
  | behindFeed => rw [topLevelKeys_feed, hbehind]

/-- A comment whose brackets do not match hides the key in the line behind it. -/
theorem lineNesting_eq_zero_of_keys (h : IsComment line)
    (hkeys : topLevelKeys (line ++ '\n' :: "a = 1".toList) = topLevelKeys "a = 1".toList) : lineNesting line = 0 := by
  have hbody : topLevelKeys "a = 1".toList = ["a"] := by decide
  have hlines : lines "a = 1".toList = ["a = 1".toList] := by decide
  rw [topLevelKeys, keysAt_comment h, Int.zero_add, hlines, hbody, keysAt, keysAt] at hkeys
  by_cases hzero : lineNesting line = 0
  · exact hzero
  · rw [if_neg hzero] at hkeys
    cases hkeys

/-! ## Comments in files -/

/-- The brackets of a line match, and no brace in it closes one in front of the line. -/
structure Level (line : List Char) : Prop where
  nesting : lineNesting line = 0
  braces : Balanced line
  inside : ∀ p, p <+: line → p.count '}' ≤ p.count '{'

/-- The keys of the block that ends in front of a text. -/
def keysBehind (behind : List Char) : List String := topLevelKeys (Block.ofBody 0 behind).body

theorem body_feed (depth : Nat) :
    (Block.ofBody depth ('\n' :: back)).body = '\n' :: (Block.ofBody depth back).body := by
  rw [Block.ofBody_cons fun hclose => absurd hclose.1 (by decide)]
  rfl

theorem body_level (h : Level line) (depth : Nat) : (Block.ofBody depth (line ++ '\n' :: back)).body =
    line ++ '\n' :: (Block.ofBody depth back).body := by
  have hdepth : depth + line.count '{' - line.count '}' = depth := by
    rw [h.braces, Nat.add_sub_cancel]
  rw [Block.body_append fun p hp => Nat.le_add_left_of_le (h.inside p hp), hdepth, body_feed]

/-- A level comment in a block changes none of its keys. -/
theorem keysBehind_comment (h : IsComment line) (hlevel : Level line) :
    keysBehind (cs ++ '\n' :: (line ++ '\n' :: back)) = keysBehind (cs ++ '\n' :: back) := by
  unfold keysBehind
  cases hclosed : (Block.ofBody 0 cs).terminated with
  | true => rw [Block.body_append_of_terminated hclosed, Block.body_append_of_terminated hclosed]
  | false =>
    obtain ⟨depth, hbody⟩ := Block.exists_body_append hclosed
    rw [hbody, hbody, body_feed, body_feed, body_level hlevel, List.append_cons, ← List.append_assoc]
    exact topLevelKeys_inserted h hlevel.nesting (.between (List.append_cons ..) (startsLine_feed cs))

/-- Behind a line feed the matches are those of the rest, and a match in front is one of the lines in front. -/
theorem exists_behinds_append {α : Type} {p : Pattern α} (hp : p.InLine) (hstart : startsLine front.getLast? = true) :
    ∃ inner : List (List Char), ∀ rest, behinds p none 0 (front ++ rest) =
      inner.map (· ++ '\n' :: rest) ++ behinds p none 0 rest := by
  rcases startsLine_iff.mp hstart with rfl | ⟨cs, rfl⟩
  · exact ⟨[], fun _ => rfl⟩
  · refine ⟨behinds p none 0 cs, fun rest => ?_⟩
    rw [List.append_assoc, List.singleton_append, behinds_feed hp (Nat.zero_le _)]

/-- A comment is no header of locals. -/
theorem body?_comment (h : IsComment line) : Header.body? "locals" 0 (Header.dropInline line).2 = none := by
  have hinline : ∀ c ∈ line.takeWhile isInlineBlank, isBlank c = true := by
    intro c hc
    have hinline : isInlineBlank c = true := List.mem_takeWhile_imp hc
    rcases Bool.or_eq_true_iff.mp hinline with hc | hc
    · rw [of_decide_eq_true hc]
      decide
    · rw [of_decide_eq_true hc]
      decide
  have htrim : trimStart line = trimStart (Header.dropInline line).2 :=
    calc trimStart line = trimStart (line.takeWhile isInlineBlank ++ line.dropWhile isInlineBlank) := by
          rw [List.takeWhile_append_dropWhile]
      _ = trimStart (line.dropWhile isInlineBlank) := List.dropWhile_append_of_pos hinline
  obtain ⟨mark, text, hmarked, hmark⟩ := trimStart_comment h
  cases hbody : Header.body? "locals" 0 (Header.dropInline line).2 with
  | none => rfl
  | some found =>
    simp only [Header.body?, Option.bind_eq_bind, Option.bind_eq_some_iff] at hbody
    obtain ⟨behind, hword, -⟩ := hbody
    have hlocals : trimStart (Header.dropInline line).2 = 'l' :: ("ocals".toList ++ behind) := by
      rw [dropWord?_eq_some hword]
      exact List.dropWhile_cons_of_neg (by decide)
    rw [← htrim, hmarked] at hlocals
    rcases hmark with rfl | rfl
    · cases hlocals
    · cases hlocals

theorem behinds_comment (h : IsComment line) : behinds (Header.pattern "locals" 0) none 0 line = [] := by
  rw [behinds, List.map_eq_nil_iff, List.eq_nil_iff_forall_not_mem]
  intro m hm
  obtain ⟨front, hline, -, hp⟩ := mem_findAll hm
  unfold Header.pattern at hp
  split at hp
  · rename_i hstart
    rcases startsLine_iff.mp hstart with rfl | ⟨cs, rfl⟩
    · rw [← List.nil_append m.tail, ← hline, body?_comment h] at hp
      cases hp
    · exact h.single (hline ▸ by simp)
  · cases hp

namespace SourceFile
variable {f g : SourceFile}

theorem localNames_eq : f.localNames = (behinds (Header.pattern "locals" 0) none 0 f.chars).flatMap keysBehind := by
  rw [localNames, behinds, List.flatMap_map]
  rfl

theorem requiredProviders_eq : f.requiredProviders =
    ((behinds (Header.loosePattern "required_providers") none 0 f.chars).head?.map keysBehind).getD [] := by
  unfold requiredProviders behinds findAll
  split
  · rename_i hnone
    rw [hnone]
    rfl
  · rename_i m ms hsome
    rw [hsome]
    rfl

/-- A level comment changes no names of locals, wherever it stands in a file. -/
theorem localNames_comment (h : IsComment line) (hlevel : Level line) (hstart : startsLine front.getLast? = true)
    (hf : f.chars = front ++ back) (hg : g.chars = front ++ line ++ '\n' :: back) : g.localNames = f.localNames := by
  have hpattern : (Header.pattern "locals" 0).InLine := Header.inLine_pattern (by decide)
  have hline : behinds (Header.pattern "locals" 0) none 0 (line ++ '\n' :: back) =
      behinds (Header.pattern "locals" 0) none 0 back := by
    rw [behinds_feed hpattern (Nat.zero_le _), behinds_comment h, List.map_nil, List.nil_append]
  obtain ⟨inner, hfront⟩ := exists_behinds_append hpattern hstart
  rw [localNames_eq, localNames_eq, hf, hg, List.append_assoc, hfront, hfront, hline]
  simp only [List.flatMap_append, List.flatMap_map, keysBehind_comment h hlevel]

/-- A level comment changes no required providers, unless it looks like their header and stands in front of it. -/
theorem requiredProviders_comment (h : IsComment line) (hlevel : Level line) (hstart : startsLine front.getLast? = true)
    (hf : f.chars = front ++ back) (hg : g.chars = front ++ line ++ '\n' :: back)
    (hheader : findAll (Header.loosePattern "required_providers") line = [] ∨
      findAll (Header.loosePattern "required_providers") front ≠ []) : g.requiredProviders = f.requiredProviders := by
  have hpattern : (Header.loosePattern "required_providers").InLine := Header.inLine_loosePattern (by decide)
  obtain ⟨inner, hfront⟩ := exists_behinds_append hpattern hstart
  rw [requiredProviders_eq, requiredProviders_eq, hf, hg, List.append_assoc, hfront, hfront]
  cases inner with
  | cons behind inner => simp [keysBehind_comment h hlevel]
  | nil =>
    have hline : findAll (Header.loosePattern "required_providers") line = [] := by
      refine hheader.resolve_right fun hne => hne ?_
      have hnone := hfront []
      rw [List.append_nil] at hnone
      exact List.map_eq_nil_iff.mp hnone
    have hnone : behinds (Header.loosePattern "required_providers") none 0 line = [] := List.map_eq_nil_iff.mpr hline
    rw [List.map_nil, List.map_nil, List.nil_append, List.nil_append, behinds_feed hpattern (Nat.zero_le _), hnone]
    rfl

end SourceFile

/-- A comment keeps the keys of all bodies exactly if it opens as many brackets as it closes; the keys behind it are
    those at the depth that its brackets lead to. In a file a level comment changes no locals and no required
    providers, unless it looks like the header of required providers and stands in front of the first one. -/
theorem topLevelKeys_comment (h : IsComment line) :
    ((∀ body text, Inserted line body text → topLevelKeys text = topLevelKeys body) ↔ lineNesting line = 0) ∧
    (∀ front back, startsLine front.getLast? = true → topLevelKeys (front ++ line ++ '\n' :: back) =
      topLevelKeys front ++ keysAt (lineNesting front + lineNesting line) (lines back)) ∧
    ∀ (f g : SourceFile) (front back : List Char), Level line → startsLine front.getLast? = true →
      f.chars = front ++ back → g.chars = front ++ line ++ '\n' :: back →
        g.localNames = f.localNames ∧
        (findAll (Header.loosePattern "required_providers") line = [] ∨
            findAll (Header.loosePattern "required_providers") front ≠ [] →
          g.requiredProviders = f.requiredProviders) := by
  refine ⟨⟨fun hkeys => ?_, fun hnesting body text => topLevelKeys_inserted h hnesting⟩,
    fun front back => topLevelKeys_between h, fun f g front back hlevel hstart hf hg => ⟨?_, fun hheader => ?_⟩⟩
  · exact lineNesting_eq_zero_of_keys h (hkeys _ _ (.between (List.nil_append _).symm rfl))
  · exact SourceFile.localNames_comment h hlevel hstart hf hg
  · exact SourceFile.requiredProviders_comment h hlevel hstart hf hg hheader

end Lines

/-- A file with locals and required providers. -/
def providersFile : SourceFile :=
  ⟨"main.tf", "locals \x7b\n  a = 1\n\x7d\n" ++
    "terraform \x7b\n  required_providers \x7b\n    aws = \x7b\x7d\n  \x7d\n\x7d\n"⟩

/-- The same file with a level comment among the locals. -/
def providersFileNoted : SourceFile :=
  ⟨"main.tf", "locals \x7b\n  // see \x7bb\x7d (c)\n  a = 1\n\x7d\n" ++
    "terraform \x7b\n  required_providers \x7b\n    aws = \x7b\x7d\n  \x7d\n\x7d\n"⟩

theorem topLevelKeys_comment_level : IsComment "  // see \x7bb\x7d (c)".toList ∧ Level "  // see \x7bb\x7d (c)".toList ∧
    providersFile.localNames = ["a"] ∧ providersFileNoted.localNames = providersFile.localNames ∧
    providersFile.requiredProviders = ["aws"] ∧
    providersFileNoted.requiredProviders = providersFile.requiredProviders := by
  have hblanks : ∀ c ∈ "  ".toList, isBlank c = true :=
    List.forall_mem_cons.mpr ⟨rfl, List.forall_mem_singleton.mpr rfl⟩
  have hcomment : IsComment "  // see \x7bb\x7d (c)".toList :=
    ⟨⟨"  ".toList, "//".toList, " see \x7bb\x7d (c)".toList, rfl, hblanks, Or.inr rfl⟩, by decide⟩
  have hlevel : Level "  // see \x7bb\x7d (c)".toList := by
    refine ⟨by decide, rfl, fun p hp => ?_⟩
    have hinside := (Block.closes_ofBody 0 "  // see \x7bb\x7d (c)".toList).inside p hp
    rwa [Nat.zero_add] at hinside
  obtain ⟨-, -, hfiles⟩ := topLevelKeys_comment hcomment
  obtain ⟨hlocals, hproviders⟩ := hfiles providersFile providersFileNoted "locals \x7b\n".toList
    (providersFile.chars.drop 9) hlevel rfl rfl rfl
  exact ⟨hcomment, hlevel, by decide +kernel, hlocals, by decide +kernel, hproviders (Or.inl rfl)⟩

/-- The bracket of a comment hides the key behind it. -/
theorem not_topLevelKeys_comment : ¬∀ line body text, IsComment line → Inserted line body text →
    topLevelKeys text = topLevelKeys body := by
  intro hall
  have hcomment : IsComment "# see (1".toList := ⟨⟨[], ['#'], " see (1".toList, rfl, nofun, Or.inl rfl⟩, by decide⟩
  have hinserted : Inserted "# see (1".toList "a = 1\nb = 2\n".toList "a = 1\n# see (1\nb = 2\n".toList :=
    @Inserted.between _ _ "a = 1\n".toList "b = 2\n".toList rfl rfl
  have hkeys := hall _ _ _ hcomment hinserted
  revert hkeys
  decide

end ResourceGraph
