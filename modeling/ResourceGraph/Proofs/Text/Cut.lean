import ResourceGraph.Text.Lines

/-! # Cutting texts

A text that is put together from parts is cut into them again, and the search for a word in a text finds just
the words that stand somewhere in it. -/

namespace ResourceGraph.Text
variable {cs name rest word : List Char} {s t : String} {sep : Char}

/-! ## Parts -/

theorem dropWord?_append : dropWord? (word ++ rest) word = some rest := by
  induction word with
  | nil => cases rest <;> rfl
  | cons w word ih =>
    rw [List.cons_append, dropWord?, if_pos rfl]
    exact ih

theorem dropWord?_eq_some (h : dropWord? cs word = some rest) : cs = word ++ rest := by
  induction word generalizing cs with
  | nil =>
    cases cs <;> cases h <;> rfl
  | cons w word ih =>
    cases cs with
    | nil => cases h
    | cons c cs =>
      obtain ⟨rfl, hrest⟩ := Option.ite_none_right_eq_some.mp h
      rw [ih hrest]
      rfl

/-- The elements of one class at the start of a list, up to the first of another class. -/
theorem takeWhile_append_of_stop {α : Type} {p : α → Bool} {name rest : List α} (hname : ∀ c ∈ name, p c = true)
    (hstop : ∀ c, rest.head? = some c → p c = false) : (name ++ rest).takeWhile p = name := by
  rw [List.takeWhile_append_of_pos hname]
  cases rest with
  | nil => simp
  | cons c rest => simp [hstop c rfl]

theorem dropWhile_append_of_stop {α : Type} {p : α → Bool} {name rest : List α} (hname : ∀ c ∈ name, p c = true)
    (hstop : ∀ c, rest.head? = some c → p c = false) : (name ++ rest).dropWhile p = rest := by
  rw [List.dropWhile_append_of_pos hname]
  cases rest with
  | nil => rfl
  | cons c rest => simp [hstop c rfl]

theorem splitOnce_append (h : sep ∉ name) : splitOnce sep (name ++ sep :: rest) = some (name, rest) := by
  induction name with
  | nil => rw [List.nil_append, splitOnce, if_pos rfl]
  | cons c name ih =>
    obtain ⟨hne, hname⟩ := List.ne_and_not_mem_of_not_mem_cons h
    rw [List.cons_append, splitOnce, if_neg (Ne.symm hne), ih hname]
    rfl

theorem splitOnce_eq_some {front back : List Char} :
    splitOnce sep cs = some (front, back) ↔ cs = front ++ sep :: back ∧ sep ∉ front := by
  constructor
  · intro h
    induction cs generalizing front with
    | nil => cases h
    | cons c cs ih =>
      rw [splitOnce] at h
      split at h
      · rename_i hc
        cases h
        exact ⟨by rw [hc, List.nil_append], List.not_mem_nil⟩
      · rename_i hc
        obtain ⟨⟨front', back'⟩, hsplit, heq⟩ := Option.map_eq_some_iff.mp h
        cases heq
        obtain ⟨rfl, hfront⟩ := ih hsplit
        exact ⟨rfl, List.not_mem_cons_of_ne_of_not_mem (Ne.symm hc) hfront⟩
  · rintro ⟨rfl, hfront⟩
    exact splitOnce_append hfront

theorem splitOnce_eq_none : splitOnce sep cs = none ↔ sep ∉ cs := by
  induction cs with
  | nil => simp [splitOnce]
  | cons c cs ih =>
    by_cases hc : c = sep
    · simp [splitOnce, hc]
    · simp [splitOnce, hc, Ne.symm hc, ih]

theorem split_of_not_mem (h : sep ∉ name) : split sep name = [name] := by
  induction name with
  | nil => rfl
  | cons c name ih =>
    obtain ⟨hne, hname⟩ := List.ne_and_not_mem_of_not_mem_cons h
    rw [split, if_neg (Ne.symm hne), ih hname]

theorem split_ne_nil (sep : Char) (cs : List Char) : split sep cs ≠ [] := by
  cases cs with
  | nil => exact List.cons_ne_nil _ _
  | cons c cs =>
    unfold split
    split
    · exact List.cons_ne_nil _ _
    · split <;> exact List.cons_ne_nil _ _

/-- Parts are made of the characters of the text. -/
theorem mem_of_mem_split {c : Char} {part : List Char} (hpart : part ∈ split sep cs) (hc : c ∈ part) : c ∈ cs := by
  induction cs generalizing part with
  | nil =>
    obtain rfl := List.mem_singleton.mp hpart
    exact hc
  | cons d cs ih =>
    obtain ⟨first, parts, hparts⟩ := List.exists_cons_of_ne_nil (split_ne_nil sep cs)
    rw [split, hparts] at hpart
    rw [hparts] at ih
    grind

/-- A text is split at any of its separators into the parts in front of it and those behind it. -/
theorem split_append_cons : split sep (cs ++ sep :: rest) = split sep cs ++ split sep rest := by
  induction cs with
  | nil => simp [split]
  | cons c cs ih =>
    obtain ⟨part, parts, hparts⟩ := List.exists_cons_of_ne_nil (split_ne_nil sep cs)
    rw [List.cons_append, split, split, ih, hparts]
    split
    · rfl
    · rfl

theorem split_append (h : sep ∉ name) : split sep (name ++ sep :: rest) = name :: split sep rest := by
  rw [split_append_cons, split_of_not_mem h, List.singleton_append]

theorem split_joinWith {parts : List (List Char)} (h : ∀ part ∈ parts, sep ∉ part) (hne : parts ≠ []) :
    split sep (joinWith [sep] parts) = parts := by
  fun_induction joinWith [sep] parts with
  | case1 => exact absurd rfl hne
  | case2 part => exact split_of_not_mem (h part List.mem_cons_self)
  | case3 part parts hparts ih =>
    obtain ⟨hpart, hrest⟩ := List.forall_mem_cons.mp h
    rw [List.append_assoc, List.singleton_append, split_append hpart, ih hrest hparts]

/-! ## Words -/

theorem startsWith_iff : startsWith cs word = true ↔ word <+: cs := by
  induction cs generalizing word with
  | nil => cases word <;> simp [startsWith]
  | cons c cs ih =>
    cases word with
    | nil => simp [startsWith]
    | cons w word =>
      simp only [startsWith, Bool.and_eq_true, decide_eq_true_eq, ih, List.cons_prefix_cons]
      exact and_congr_left fun _ => eq_comm

theorem occurs_iff : occurs word cs = true ↔ word <:+: cs := by
  induction cs with
  | nil => simp [occurs]
  | cons c cs ih => rw [occurs, Bool.or_eq_true, startsWith_iff, ih, List.infix_cons_iff]

theorem contains_iff : contains s t = true ↔ t.toList <:+: s.toList := occurs_iff

end ResourceGraph.Text
