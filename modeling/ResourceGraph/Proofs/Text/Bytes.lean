import ResourceGraph.Text.Lines

/-! # Byte offsets

Offsets into a text count bytes. An offset is a place in the text if some characters take just that many bytes; an
offset behind the end, or within a character, is none. -/

namespace ResourceGraph.Text
variable {cs front rest : List Char} {n : Nat}

theorem byteLength_append : byteLength (front ++ rest) = byteLength front + byteLength rest := by
  induction front with
  | nil => simp [byteLength]
  | cons c front ih => simp [byteLength, ih, Nat.add_assoc]

theorem byteLength_mono (h : front <+: cs) : byteLength front ≤ byteLength cs := by
  obtain ⟨rest, rfl⟩ := h
  rw [byteLength_append]
  exact Nat.le_add_right _ _

/-- `rest` is what stands from the offset `n` on. -/
def From (cs : List Char) (n : Nat) (rest : List Char) : Prop := ∃ front, cs = front ++ rest ∧ byteLength front = n

/-- No character lies across the offset `n`, and the text does not end in front of it. -/
def IsBoundary (cs : List Char) (n : Nat) : Prop := ∃ rest, From cs n rest

/-- `part` is what stands between two offsets. -/
def IsSlice (cs : List Char) (first last : Nat) (part : List Char) : Prop :=
  ∃ front back, cs = front ++ part ++ back ∧ byteLength front = first ∧ byteLength (front ++ part) = last

theorem IsBoundary.le (h : IsBoundary cs n) : n ≤ byteLength cs := by
  obtain ⟨rest, front, rfl, rfl⟩ := h
  rw [byteLength_append]
  exact Nat.le_add_right _ _

theorem From.skip {skipped : List Char} (h : From cs n (skipped ++ rest)) : From cs (n + byteLength skipped) rest := by
  obtain ⟨front, rfl, rfl⟩ := h
  exact ⟨front ++ skipped, (List.append_assoc front skipped rest).symm, byteLength_append⟩

theorem From.isSlice {part : List Char} (h : From cs n rest) (hpart : part <+: rest) :
    IsSlice cs n (n + byteLength part) part := by
  obtain ⟨front, rfl, rfl⟩ := h
  obtain ⟨back, rfl⟩ := hpart
  exact ⟨front, back, (List.append_assoc front part back).symm, rfl, byteLength_append⟩

theorem From.length (h : From cs n rest) : byteLength cs = n + byteLength rest := by
  obtain ⟨front, rfl, rfl⟩ := h
  exact byteLength_append

theorem dropBytes?_append : dropBytes? (front ++ rest) (byteLength front) = some rest := by
  induction front with
  | nil => cases rest <;> rfl
  | cons c front ih =>
    have hpos : 0 < c.utf8Size := c.utf8Size_pos
    have hne : c.utf8Size + byteLength front ≠ 0 := by omega
    rw [List.cons_append, byteLength, dropBytes?, if_pos (Nat.le_add_right _ _), Nat.add_sub_cancel_left]
    · exact ih
    · exact hne

theorem dropBytes?_eq_some : dropBytes? cs n = some rest ↔ From cs n rest := by
  constructor
  · intro h
    fun_induction dropBytes? cs n with
    | case1 cs =>
      cases h
      exact ⟨[], rfl, rfl⟩
    | case2 => cases h
    | case3 c cs n _ hle ih =>
      obtain ⟨front, rfl, hfront⟩ := ih h
      refine ⟨c :: front, rfl, ?_⟩
      rw [byteLength, hfront]
      omega
    | case4 => cases h
  · rintro ⟨front, rfl, rfl⟩
    exact dropBytes?_append

end ResourceGraph.Text
