import ResourceGraph.Proofs.Text.Cut
import ResourceGraph.Text.Find

/-! # Lines

A text that is cut at the start of a line has the lines of both its pieces. -/

namespace ResourceGraph.Text
variable {cs line front back : List Char} {parts more : List (List Char)}

theorem dropReturn_eq (cs : List Char) : dropReturn cs = cs ∨ cs = dropReturn cs ++ ['\r'] := by
  unfold dropReturn
  split
  · rename_i rest hrest
    exact Or.inr (List.reverse_eq_cons_iff.mp hrest)
  · exact Or.inl rfl

theorem dropReturn_of_not_mem (h : '\r' ∉ cs) : dropReturn cs = cs := by
  rcases dropReturn_eq cs with heq | heq
  · exact heq
  · refine absurd ?_ h
    rw [heq]
    exact List.mem_append_right _ (List.mem_singleton_self _)

theorem linesOfParts_append (h : more ≠ []) :
    linesOfParts (parts ++ more) = parts.map dropReturn ++ linesOfParts more := by
  induction parts with
  | nil => rfl
  | cons part parts ih =>
    rw [List.cons_append, linesOfParts, ih, List.map_cons, List.cons_append]
    simp [h]

theorem lines_nil : lines [] = [] := rfl

/-- Behind a line feed the lines of the rest of the text follow. -/
theorem lines_append_feed : lines (cs ++ '\n' :: back) = (split '\n' cs).map dropReturn ++ lines back := by
  rw [lines, split_append_cons, linesOfParts_append (split_ne_nil _ _), lines]

theorem lines_line (h : '\n' ∉ line) : lines (line ++ '\n' :: back) = dropReturn line :: lines back := by
  rw [lines_append_feed, split_of_not_mem h, List.map_singleton, List.singleton_append]

/-- A text without line feeds is the only line of itself. -/
theorem lines_last (h : '\n' ∉ line) (hline : line ≠ []) : lines line = [line] := by
  rw [lines, split_of_not_mem h, linesOfParts]
  simp [hline]

theorem startsLine_iff : startsLine front.getLast? = true ↔ front = [] ∨ ∃ cs, front = cs ++ ['\n'] := by
  rcases List.eq_nil_or_concat front with rfl | ⟨cs, c, rfl⟩
  · simp [startsLine]
  · simp [startsLine]

theorem startsLine_feed (cs : List Char) : startsLine (cs ++ ['\n']).getLast? = true :=
  startsLine_iff.mpr (.inr ⟨cs, rfl⟩)

/-- Lines that start where a line starts are lines of the whole text. -/
theorem lines_append (h : startsLine front.getLast? = true) : lines (front ++ back) = lines front ++ lines back := by
  rcases startsLine_iff.mp h with rfl | ⟨cs, rfl⟩
  · rfl
  · rw [List.append_assoc, List.singleton_append, lines_append_feed, lines_append_feed, lines_nil, List.append_nil]

end ResourceGraph.Text
