import ResourceGraph.Text.Find

/-! # Places where a pattern matches

Every match of a search is one that the pattern itself made at the place where it was found. The other way
around, a place where the pattern matches may be lost to an earlier match that takes it. It is not if the
pattern takes characters of one class, save for the last one, and the place stands behind a character of another
class: an earlier match ends there at the latest. -/

namespace ResourceGraph.Text
variable {α : Type} {p : Pattern α} {m : Match α}

/-- The character in front of what stands behind `front`. -/
theorem getLast?_cons_or {before : Option Char} {c : Char} {front : List Char} :
    (c :: front).getLast?.or before = front.getLast?.or (some c) := by
  rw [List.getLast?_cons, Option.or_some, Option.some_or]

/-- A match stands behind what an earlier match takes, and the pattern made it there. -/
theorem mem_findFrom {before : Option Char} {pos skip : Nat} {cs : List Char} (h : m ∈ findFrom p before pos skip cs) :
    ∃ front, cs = front ++ m.tail ∧ m.start = pos + front.length ∧ skip ≤ front.length ∧
      p (front.getLast?.or before) m.tail = some (m.value, m.length) := by
  induction cs generalizing before pos skip with
  | nil =>
    unfold findFrom at h
    cases h
  | cons c cs ih =>
    have later {skip' : Nat} (hskip : skip ≤ skip' + 1) (h : m ∈ findFrom p (some c) (pos + 1) skip' cs) :
        ∃ front, c :: cs = front ++ m.tail ∧ m.start = pos + front.length ∧ skip ≤ front.length ∧
          p (front.getLast?.or before) m.tail = some (m.value, m.length) := by
      obtain ⟨front, hcs, hstart, hfront, hp⟩ := ih h
      refine ⟨c :: front, congrArg (c :: ·) hcs, ?_, ?_, by rwa [getLast?_cons_or]⟩
      · rw [hstart, List.length_cons]
        omega
      · rw [List.length_cons]
        omega
    cases skip with
    | succ skip => exact later (Nat.le_refl _) h
    | zero =>
      unfold findFrom at h
      split at h
      · rename_i hp
        rcases List.mem_cons.mp h with rfl | h
        · exact ⟨[], rfl, rfl, Nat.zero_le _, hp⟩
        · exact later (Nat.zero_le _) h
      · exact later (Nat.zero_le _) h

theorem mem_findAll {cs : List Char} (h : m ∈ findAll p cs) :
    ∃ front, cs = front ++ m.tail ∧ m.start = front.length ∧ p front.getLast? m.tail = some (m.value, m.length) := by
  obtain ⟨front, hcs, hstart, -, hp⟩ := mem_findFrom h
  rw [Option.or_none] at hp
  rw [Nat.zero_add] at hstart
  exact ⟨front, hcs, hstart, hp⟩

/-- Matches are found from left to right, and each ends in front of the next one. -/
theorem findFrom_apart {before : Option Char} {pos skip : Nat} {cs : List Char} :
    (findFrom p before pos skip cs).Pairwise fun m n => m.start + m.length ≤ n.start := by
  induction cs generalizing before pos skip with
  | nil =>
    unfold findFrom
    exact .nil
  | cons c cs ih =>
    cases skip with
    | succ skip => exact ih
    | zero =>
      unfold findFrom
      split
      · refine List.pairwise_cons.mpr ⟨fun n hn => ?_, ih⟩
        obtain ⟨front, -, hstart, hskip, -⟩ := mem_findFrom hn
        dsimp only
        omega
      · exact ih

theorem findAll_apart {cs : List Char} : (findAll p cs).Pairwise fun m n => m.start + m.length ≤ n.start :=
  findFrom_apart

/-! ## Places that no earlier match takes -/

section Boundaries
variable {inner : Char → Bool} {before : Option Char} {skip pos length : Nat} {c : Char} {cs front rest : List Char}
  {value : α}

/-- All that the pattern takes, save perhaps for the last character, is of one class. -/
def Pattern.Within (p : Pattern α) (inner : Char → Bool) : Prop :=
  ∀ before cs value length, p before cs = some (value, length) → ∀ c ∈ cs.take (length - 1), inner c = true

/-- An earlier match takes the next `skip` characters; what it takes is of one class from the character in front
on, save for its last. -/
inductive Taken (inner : Char → Bool) : Option Char → Nat → List Char → Prop where
  | free {before : Option Char} {cs : List Char} : Taken inner before 0 cs
  | within {c : Char} {skip : Nat} {cs : List Char} :
      (∀ x ∈ (c :: cs).take skip, inner x = true) → Taken inner (some c) skip cs

theorem Taken.next (h : Taken inner before (skip + 1) (c :: cs)) : Taken inner (some c) skip cs := by
  cases h with
  | within h => exact .within fun x hx => h x (List.mem_cons_of_mem _ hx)

/-- Behind a character of another class nothing is taken. -/
theorem Taken.eq_zero (h : Taken inner before skip cs) (hbefore : ∀ c, before = some c → inner c = false) :
    skip = 0 := by
  cases h with
  | free => rfl
  | @within c skip cs h =>
    cases skip with
    | zero => rfl
    | succ skip =>
      have hinner : inner c = true := h c List.mem_cons_self
      rw [hbefore c rfl] at hinner
      cases hinner

theorem exists_mem_findFrom (hp : p.Within inner) (htaken : Taken inner before skip (front ++ rest))
    (hne : rest ≠ []) (hbefore : ∀ c, front.getLast?.or before = some c → inner c = false)
    (hmatch : p (front.getLast?.or before) rest = some (value, length)) :
    ∃ m ∈ findFrom p before pos skip (front ++ rest), m.value = value := by
  induction front generalizing before pos skip with
  | nil =>
    obtain ⟨c, cs, rfl⟩ := List.exists_cons_of_ne_nil hne
    obtain rfl := htaken.eq_zero hbefore
    have hhere : p before (c :: cs) = some (value, length) := hmatch
    refine ⟨⟨value, pos, length, c :: cs⟩, ?_, rfl⟩
    rw [List.nil_append, findFrom, hhere]
    exact List.mem_cons_self
  | cons c front ih =>
    rw [getLast?_cons_or] at hbefore hmatch
    cases skip with
    | succ skip => exact ih htaken.next hbefore hmatch
    | zero =>
      rw [List.cons_append, findFrom]
      split
      · rename_i found taken hfound
        obtain ⟨m, hm, hvalue⟩ := ih (.within (hp _ _ _ _ hfound)) hbefore hmatch
        exact ⟨m, List.mem_cons_of_mem _ hm, hvalue⟩
      · exact ih .free hbefore hmatch

/-- What the pattern reads behind a character of another class, or at the start of the text, is found. -/
theorem exists_mem_findAll (hp : p.Within inner) (hne : rest ≠ [])
    (hopens : ∀ c, front.getLast? = some c → inner c = false)
    (hmatch : p front.getLast? rest = some (value, length)) :
    ∃ m ∈ findAll p (front ++ rest), m.value = value := by
  rw [← Option.or_none (o := front.getLast?)] at hopens hmatch
  exact exists_mem_findFrom hp .free hne hopens hmatch

end Boundaries

/-! ## Patterns that read within a line -/

section InLine
variable {before : Option Char} {skip : Nat} {c : Char} {cs rest : List Char} {value : α} {length : Nat}

/-- What stands behind a match. -/
def Match.behind (m : Match α) : List Char := m.tail.drop m.length

/-- What stands behind the matches of a search, which begins behind `before` and skips some characters. -/
def behinds (p : Pattern α) (before : Option Char) (skip : Nat) (cs : List Char) : List (List Char) :=
  (findFrom p before 0 skip cs).map Match.behind

theorem map_behind_findFrom (pos : Nat) : (findFrom p before pos skip cs).map Match.behind = behinds p before skip cs := by
  unfold behinds
  generalize 0 = start
  induction cs generalizing before pos start skip with
  | nil => simp [findFrom]
  | cons c cs ih =>
    cases skip with
    | succ skip => exact ih ..
    | zero =>
      unfold findFrom
      split
      · exact congrArg (List.cons _) (ih ..)
      · exact ih ..

theorem behinds_succ : behinds p before (skip + 1) (c :: cs) = behinds p (some c) skip cs := map_behind_findFrom 1

theorem behinds_some (h : p before (c :: cs) = some (value, length)) :
    behinds p before 0 (c :: cs) = (c :: cs).drop length :: behinds p (some c) (length - 1) cs := by
  rw [behinds, findFrom, h]
  exact congrArg (List.cons _) (map_behind_findFrom 1)

theorem behinds_none (h : p before (c :: cs) = none) : behinds p before 0 (c :: cs) = behinds p (some c) 0 cs := by
  rw [behinds, findFrom, h]
  exact map_behind_findFrom 1

/-- A pattern that reads within a line: it stops in front of a line feed, and the start of a text is to it like that of
any other line. -/
structure Pattern.InLine (p : Pattern α) : Prop where
  feed : ∀ before cs rest, p before (cs ++ '\n' :: rest) = p before cs
  within : ∀ before cs value length, p before cs = some (value, length) → 0 < length ∧ length ≤ cs.length
  start : ∀ cs, p none cs = p (some '\n') cs

theorem Pattern.InLine.eq_none (hp : p.InLine) : p before [] = none := by
  cases h : p before [] with
  | none => rfl
  | some found =>
    obtain ⟨hpos, hle⟩ := hp.within _ _ _ _ h
    exact absurd (Nat.lt_of_lt_of_le hpos hle) (Nat.lt_irrefl 0)

theorem behinds_start (hp : p.InLine) : behinds p (some '\n') 0 cs = behinds p none 0 cs := by
  cases cs with
  | nil => rfl
  | cons c cs =>
    have hstart := hp.start (c :: cs)
    cases h : p none (c :: cs) with
    | none => rw [behinds_none h, behinds_none (hstart.symm.trans h)]
    | some found => rw [behinds_some h, behinds_some (hstart.symm.trans h)]

/-- A search goes through a text line by line. -/
theorem behinds_feed (hp : p.InLine) (hskip : skip ≤ cs.length) : behinds p before skip (cs ++ '\n' :: rest) =
    (behinds p before skip cs).map (· ++ '\n' :: rest) ++ behinds p none 0 rest := by
  induction cs generalizing before skip with
  | nil =>
    obtain rfl := Nat.le_zero.mp hskip
    have hnone : p before ('\n' :: rest) = none := (hp.feed before [] rest).trans hp.eq_none
    exact (behinds_none hnone).trans (behinds_start hp)
  | cons c cs ih =>
    cases skip with
    | succ skip =>
      rw [List.cons_append, behinds_succ, behinds_succ]
      exact ih (Nat.le_of_succ_le_succ hskip)
    | zero =>
      have hfeed : p before (c :: (cs ++ '\n' :: rest)) = p before (c :: cs) := hp.feed before (c :: cs) rest
      cases h : p before (c :: cs) with
      | none =>
        rw [List.cons_append, behinds_none (hfeed.trans h), behinds_none h]
        exact ih (Nat.zero_le _)
      | some found =>
        obtain ⟨-, hle⟩ := hp.within _ _ _ _ h
        rw [List.cons_append, behinds_some (hfeed.trans h), behinds_some h, ← List.cons_append,
          List.drop_append_of_le_length hle, ih (Nat.sub_le_of_le_add hle), List.map_cons, List.cons_append]

end InLine

end ResourceGraph.Text
