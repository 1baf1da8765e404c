import ResourceGraph.Header
import ResourceGraph.Proofs.Text.Cut
import ResourceGraph.Proofs.Text.Find

/-! # What a header takes

A header ends with the opening brace of its block, and the block is what stands behind that brace. It reads as many
labels as it has to. -/

namespace ResourceGraph
open Text

namespace Header
variable {keyword : String} {n length : Nat} {cs name rest : List Char} {names : List (List Char)}
  {labels : List String} {before : Option Char} {m : Match (List String)}

theorem label?_suffix (h : label? cs = some (name, rest)) : rest <:+ cs := by
  unfold label? at h
  split at h
  · rename_i inner
    split at h
    · rename_i hname hrest
      cases h
      have hquote : rest <:+ inner.dropWhile (· ≠ '"') := hrest ▸ List.suffix_cons _ rest
      exact (hquote.trans (List.dropWhile_suffix _)).trans (List.suffix_cons _ _)
    · cases h
  · cases h

theorem labels?_eq_some (h : labels? n cs = some (names, rest)) : names.length = n ∧ rest <:+ cs := by
  induction n generalizing cs names with
  | zero =>
    cases h
    exact ⟨rfl, List.suffix_rfl⟩
  | succ n ih =>
    unfold labels? at h
    split at h
    · cases h
    · rename_i behind hblanks
      have hbehind : behind <:+ cs := by
        obtain ⟨-, rfl⟩ := Prod.mk.inj hblanks
        exact List.dropWhile_suffix _
      split at h
      · cases h
      · rename_i name after hlabel
        obtain ⟨⟨more, last⟩, hmore, heq⟩ := Option.map_eq_some_iff.mp h
        cases heq
        obtain ⟨hlength, hlast⟩ := ih hmore
        exact ⟨congrArg (· + 1) hlength, (hlast.trans (label?_suffix hlabel)).trans hbehind⟩

theorem openBrace?_eq_some (h : openBrace? cs = some rest) : '{' :: rest <:+ cs := by
  unfold openBrace? at h
  split at h
  · rename_i hbrace
    cases h
    exact hbrace ▸ List.dropWhile_suffix _
  · cases h

theorem body?_eq_some (h : body? keyword n cs = some (names, rest)) : names.length = n ∧ '{' :: rest <:+ cs := by
  simp only [body?, Option.bind_eq_bind, Option.bind_eq_some_iff] at h
  obtain ⟨behind, hword, ⟨names', middle⟩, hlabels, rest', hbrace, h⟩ := h
  cases h
  obtain ⟨hlength, hmiddle⟩ := labels?_eq_some hlabels
  have hbehind : behind <:+ cs := ⟨_, (dropWord?_eq_some hword).symm⟩
  exact ⟨hlength, ((openBrace?_eq_some hbrace).trans hmiddle).trans hbehind⟩

theorem pattern_eq_some (h : pattern keyword n before cs = some (labels, length)) : labels.length = n ∧
    ∃ header behind, cs = header ++ '{' :: behind ∧ length = header.length + 1 := by
  unfold pattern at h
  split at h
  · split at h
    · rename_i names rest hbody
      cases h
      obtain ⟨hlength, hrest⟩ := body?_eq_some hbody
      obtain ⟨header, hcs⟩ := hrest.trans (List.dropWhile_suffix _)
      refine ⟨by rw [List.length_map, hlength], header, rest, hcs.symm, ?_⟩
      rw [← hcs, List.length_append, List.length_cons]
      omega
    · cases h
  · cases h

/-- Where a header stands in a text: behind `front`, and in front of the text `behind` its brace. -/
structure Stands (cs : List Char) (m : Match (List String)) (front header behind : List Char) : Prop where
  text : cs = front ++ m.tail
  start : m.start = front.length
  tail : m.tail = header ++ '{' :: behind
  length : m.length = header.length + 1

theorem exists_stands (h : m ∈ findAll (pattern keyword n) cs) : m.value.length = n ∧
    ∃ front header behind, Stands cs m front header behind := by
  obtain ⟨front, hcs, hstart, hp⟩ := mem_findAll h
  obtain ⟨hlabels, header, behind, htail, hlength⟩ := pattern_eq_some hp
  exact ⟨hlabels, front, header, behind, hcs, hstart, htail, hlength⟩

theorem Stands.block_eq {front header behind : List Char} (h : Stands cs m front header behind) :
    block m = Block.ofBody 0 behind := by
  rw [block, h.tail, h.length, List.append_cons]
  exact congrArg (Block.ofBody 0) (List.drop_left' (by simp))

/-! ## Headers without labels

Such a header stands in one line, and what stands behind that line does not matter. -/

section InLine
variable {word : List Char}

theorem dropInline_feed : (dropInline (cs ++ '\n' :: rest)).2 = (dropInline cs).2 ++ '\n' :: rest := by
  have hfeed : isInlineBlank '\n' = false := by decide
  simp [dropInline, List.dropWhile_append, hfeed]

theorem dropWord?_feed (h : '\n' ∉ word) :
    dropWord? (cs ++ '\n' :: rest) word = (dropWord? cs word).map (· ++ '\n' :: rest) := by
  induction word generalizing cs with
  | nil => cases cs <;> rfl
  | cons w word ih =>
    obtain ⟨hw, hword⟩ := List.ne_and_not_mem_of_not_mem_cons h
    cases cs with
    | nil => exact if_neg hw
    | cons c cs =>
      rw [List.cons_append, dropWord?, dropWord?, ih hword]
      split <;> rfl

theorem openBrace?_feed : openBrace? (cs ++ '\n' :: rest) = (openBrace? cs).map (· ++ '\n' :: rest) := by
  unfold openBrace?
  rw [dropInline_feed]
  cases (dropInline cs).2 with
  | nil => simp
  | cons c after =>
    by_cases hc : c = '{'
    · simp [hc]
    · simp [hc]

theorem body?_feed (h : '\n' ∉ keyword.toList) : body? keyword 0 (cs ++ '\n' :: rest) =
    (body? keyword 0 cs).map fun (names, after) => (names, after ++ '\n' :: rest) := by
  simp only [body?, labels?, dropWord?_feed h, Option.bind_eq_bind]
  cases dropWord? cs keyword.toList with
  | none => rfl
  | some behind =>
    simp only [Option.map_some, Option.bind_some, openBrace?_feed]
    cases openBrace? behind <;> rfl

theorem inLine_pattern (h : '\n' ∉ keyword.toList) : (pattern keyword 0).InLine where
  feed before cs rest := by
    unfold pattern
    rw [dropInline_feed, body?_feed h]
    cases body? keyword 0 (dropInline cs).2 with
    | none => rfl
    | some found => simp [List.length_append, Nat.add_sub_add_right]
  within before cs labels length hp := by
    obtain ⟨-, header, behind, rfl, rfl⟩ := pattern_eq_some hp
    simp
  start cs := rfl

theorem inLine_loosePattern (h : '\n' ∉ keyword.toList) : (loosePattern keyword).InLine where
  feed before cs rest := by
    unfold loosePattern
    rw [body?_feed h]
    cases body? keyword 0 cs with
    | none => rfl
    | some found => simp [List.length_append, Nat.add_sub_add_right]
  within before cs labels length hp := by
    unfold loosePattern at hp
    split at hp
    · rename_i names rest hbody
      obtain ⟨-, header, rfl⟩ := body?_eq_some hbody
      cases hp
      rw [List.length_append, List.length_cons]
      omega
    · cases hp
  start cs := rfl

end InLine

end Header

end ResourceGraph
