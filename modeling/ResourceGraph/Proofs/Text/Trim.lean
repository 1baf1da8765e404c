import Mathlib.Data.List.TakeWhile
import ResourceGraph.Text.Blank

/-! # Trimming

A text is bare if no blank is at either end of it. Trimming gives bare texts and keeps those that are bare,
so a text that was trimmed is the same when it is trimmed again. -/

namespace ResourceGraph.Text
variable {cs xs ys zs : List Char} {s : String}

/-- No blank is at either end of a text. -/
structure Bare (cs : List Char) : Prop where
  first : ∀ c, cs.head? = some c → isBlank c = false
  last : ∀ c, cs.getLast? = some c → isBlank c = false

theorem head?_dropWhile_isBlank {c : Char} (h : (cs.dropWhile isBlank).head? = some c) : isBlank c = false := by
  have hhead := List.head?_dropWhile_not isBlank cs
  rw [h] at hhead
  simpa using hhead

theorem dropWhile_isBlank_eq_self (h : ∀ c, cs.head? = some c → isBlank c = false) : cs.dropWhile isBlank = cs := by
  cases cs with
  | nil => rfl
  | cons c cs => rw [List.dropWhile_cons_of_neg (by simp [h c rfl])]

theorem trimEnd_prefix (cs : List Char) : trimEnd cs <+: cs := by
  unfold trimEnd
  rw [← List.reverse_suffix, List.reverse_reverse]
  exact List.dropWhile_suffix isBlank

theorem getLast?_trimEnd {c : Char} (h : (trimEnd cs).getLast? = some c) : isBlank c = false := by
  unfold trimEnd at h
  rw [List.getLast?_reverse] at h
  exact head?_dropWhile_isBlank h

theorem trimEnd_eq_self (h : ∀ c, cs.getLast? = some c → isBlank c = false) : trimEnd cs = cs := by
  have hend : cs.reverse.dropWhile isBlank = cs.reverse :=
    dropWhile_isBlank_eq_self fun c hc => h c (by rwa [List.head?_reverse] at hc)
  rw [trimEnd, hend, List.reverse_reverse]

theorem trimEnd_trimEnd (cs : List Char) : trimEnd (trimEnd cs) = trimEnd cs :=
  trimEnd_eq_self fun _ => getLast?_trimEnd

theorem trimEnd_eq_nil_iff : trimEnd cs = [] ↔ ∀ c ∈ cs, isBlank c = true := by
  rw [trimEnd, List.reverse_eq_nil_iff, List.dropWhile_eq_nil_iff]
  simp only [List.mem_reverse]

theorem bare_trimChars (cs : List Char) : Bare (trimChars cs) where
  first c hc := by
    obtain ⟨back, hback⟩ := trimEnd_prefix (trimStart cs)
    unfold trimChars at hc
    have hhead : (cs.dropWhile isBlank).head? = some c := by
      have h : (trimStart cs).head? = some c := by rw [← hback, List.head?_append, hc, Option.some_or]
      exact h
    exact head?_dropWhile_isBlank hhead
  last _ hc := getLast?_trimEnd hc

theorem Bare.trimChars_eq (h : Bare cs) : trimChars cs = cs := by
  have hstart : trimStart cs = cs := dropWhile_isBlank_eq_self h.first
  rw [trimChars, hstart, trimEnd_eq_self h.last]

/-- Two bare texts with anything between them make a bare text, unless one of them is empty. -/
theorem Bare.append (hx : Bare xs) (hy : Bare ys) (hxs : xs ≠ []) (hys : ys ≠ []) : Bare (xs ++ zs ++ ys) where
  first c hc := by
    obtain ⟨x, rest, rfl⟩ := List.exists_cons_of_ne_nil hxs
    exact hx.first c hc
  last c hc := by
    obtain ⟨y, hlast⟩ := Option.isSome_iff_exists.mp (List.getLast?_isSome.mpr hys)
    rw [List.getLast?_append, hlast] at hc
    exact hy.last c (hlast.trans hc)

theorem trim_eq_self (h : Bare s.toList) : trim s = s := by
  unfold trim
  rw [h.trimChars_eq, String.ofList_toList]

theorem bare_trim (s : String) : Bare (trim s).toList := by
  unfold trim
  rw [String.toList_ofList]
  exact bare_trimChars _

end ResourceGraph.Text
