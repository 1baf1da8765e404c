import Mathlib.Data.List.TakeWhile
import ResourceGraph.Json.Lexer
import ResourceGraph.Proofs.Text.Cut

/-! # The tokens of a JSON text

A token is read from the characters that it takes and from the one behind them, so a text may go on in another way
behind it. Hence blanks at the ends of a text add no token, and a text whose first and last tokens are the brackets
of an object has no other characters in front of the first bracket or behind the last than blanks. -/

namespace ResourceGraph.Json
variable {α β : Type} {f g : List Char → Option (α × List Char)} {r : Option (α × List Char)} {o : Option α}
  {c : Char} {cs l rest after : List Char} {v : Json} {t : Token}

/-! ## Readers of the start of a text -/

/-- With the outcome `r` at the start of `cs`, a reader depends on no more of what it leaves than the first
    character. -/
def Local (f : List Char → Option (α × List Char)) (cs : List Char) (r : Option (α × List Char)) : Prop :=
  ∀ v rest, r = some (v, rest) →
    ∃ taken, cs = taken ++ rest ∧ ∀ tail, tail.head? = rest.head? → f (taken ++ tail) = some (v, tail)

theorem Local.none : Local f cs none := nofun

/-- A reader that takes nothing. -/
theorem Local.here (h : ∀ tail, tail.head? = cs.head? → f tail = o.map (·, tail)) : Local f cs (o.map (·, cs)) := by
  intro v rest hv
  obtain ⟨w, rfl, hw⟩ := Option.map_eq_some_iff.mp hv
  cases hw
  exact ⟨[], rfl, h⟩

theorem Local.always {v : α} : Local (fun cs => some (v, cs)) cs (some (v, cs)) :=
  Local.here (o := some v) fun _ _ => rfl

theorem Local.ite {P : Prop} [Decidable P] (hf : Local f cs (f cs)) (hg : Local g cs (g cs)) :
    Local (fun cs => if P then f cs else g cs) cs (if P then f cs else g cs) := by
  by_cases h : P
  · simpa only [if_pos h] using hf
  · simpa only [if_neg h] using hg

theorem Local.map (φ : α → β) (h : Local f cs r) :
    Local (fun cs => (f cs).map fun found => (φ found.1, found.2)) cs (r.map fun found => (φ found.1, found.2)) := by
  intro w left hw
  obtain ⟨⟨v, rest⟩, rfl, hfound⟩ := Option.map_eq_some_iff.mp hw
  cases hfound
  obtain ⟨taken, rfl, hread⟩ := h _ _ rfl
  refine ⟨taken, rfl, fun tail htail => ?_⟩
  dsimp only
  rw [hread tail htail]
  rfl

/-- A reader that goes on as another one behind `l`. -/
theorem Local.behind (h : Local g cs r) (hlead : ∀ more, more.head? = cs.head? → f (l ++ more) = g more) :
    Local f (l ++ cs) r := by
  intro v rest hv
  obtain ⟨taken, rfl, hread⟩ := h v rest hv
  refine ⟨l ++ taken, (List.append_assoc ..).symm, fun tail htail => ?_⟩
  have hhead : (taken ++ tail).head? = (taken ++ rest).head? := by rw [List.head?_append, List.head?_append, htail]
  rw [List.append_assoc, hlead _ hhead, hread tail htail]

theorem Local.congr (h : Local g cs r) (hfg : ∀ tail, tail.head? = cs.head? → f tail = g tail) : Local f cs r :=
  h.behind (l := []) hfg

/-- A reader that takes the digits at the start first. -/
theorem Local.digits {g : List Char → List Char → Option (α × List Char)}
    (hf : ∀ cs, f cs = g (cs.takeWhile Char.isDigit) (cs.dropWhile Char.isDigit))
    (hg : ∀ run rest, Local (g run) rest (g run rest)) (cs : List Char) : Local f cs (f cs) := by
  have hrun : ∀ c ∈ cs.takeWhile Char.isDigit, c.isDigit = true := fun c hc => List.mem_takeWhile_imp hc
  have hstop : ∀ c, (cs.dropWhile Char.isDigit).head? = some c → c.isDigit = false := fun c hc => by
    have hhead := List.head?_dropWhile_not Char.isDigit cs
    rw [hc] at hhead
    simpa using hhead
  have hlocal : Local f (cs.takeWhile Char.isDigit ++ cs.dropWhile Char.isDigit) (f cs) := by
    rw [hf cs]
    refine (hg _ _).behind fun more hmore => ?_
    rw [← hmore] at hstop
    rw [hf, Text.takeWhile_append_of_stop hrun hstop, Text.dropWhile_append_of_stop hrun hstop]
  rwa [List.takeWhile_append_dropWhile] at hlocal

/-! ## Strings and words -/

theorem Local.pushChar {f : List Char → Option (List Char × List Char)} {r : Option (List Char × List Char)}
    (h : Local f cs r) : Local (fun cs => pushChar c (f cs)) cs (pushChar c r) := h.map (c :: ·)

theorem local_stringBody (cs : List Char) : Local stringBody cs (stringBody cs) := by
  fun_induction stringBody cs with
  | case2 rest =>
    exact Local.always.behind (l := ['"']) fun _ _ => rfl
  | case5 a b c d high hhigh hrange e f g h after low hlow hlowRange ih =>
    refine ih.pushChar.behind (l := ['\\', 'u', a, b, c, d, '\\', 'u', e, f, g, h]) fun more _ => ?_
    simp only [List.cons_append, List.nil_append, stringBody, hhigh, if_pos hrange, hlow, if_pos hlowRange]
  | case9 a b c d rest high hhigh hrange hlowRange ih =>
    refine ih.pushChar.behind (l := ['\\', 'u', a, b, c, d]) fun more _ => ?_
    simp only [List.cons_append, List.nil_append, stringBody, hhigh, if_neg hrange, if_neg hlowRange]
  | case11 c rest hunicode e he ih =>
    have hc : c ≠ 'u' := by
      rintro rfl
      cases he
    refine ih.pushChar.behind (l := ['\\', c]) fun more _ => ?_
    rw [List.cons_append, List.cons_append, List.nil_append, stringBody, he]
    exact fun _ _ _ _ _ h => absurd h hc
  | case13 c rest hquote hunicode hescape hplain ih =>
    have hc : c ≠ '\\' := fun h => hplain (Or.inr h)
    refine ih.pushChar.behind (l := [c]) fun more _ => ?_
    rw [List.cons_append, List.nil_append, stringBody, if_neg hplain]
    · exact hquote
    · exact fun _ _ _ _ _ h => absurd h hc
    · exact fun _ _ h => absurd h hc
  | _ => exact .none

theorem local_keyword (c : Char) (rest : List Char) :
    Local (fun rest => keyword? (c :: rest)) rest (keyword? (c :: rest)) := by
  generalize hcs : c :: rest = cs
  fun_cases keyword? cs with
  | case1 more =>
    cases hcs
    exact Local.always.behind (l := ['u', 'l', 'l']) fun _ _ => rfl
  | case2 more =>
    cases hcs
    exact Local.always.behind (l := ['r', 'u', 'e']) fun _ _ => rfl
  | case3 more =>
    cases hcs
    exact Local.always.behind (l := ['a', 'l', 's', 'e']) fun _ _ => rfl
  | case4 => exact .none

/-! ## Numbers -/

section Numbers
variable {negative down : Bool} {significand : Nat} {shift : Int}

/-- The sign of an exponent, and the text behind it. -/
def exponentSign (cs : List Char) : Bool × List Char :=
  match cs with
  | '+' :: more => (false, more)
  | '-' :: more => (true, more)
  | _ => (false, cs)

/-- The number whose exponent has the digits `run`, and the text behind them. -/
def exponentRun (negative : Bool) (significand : Nat) (shift : Int) (down : Bool) (run after : List Char) :
    Option (Json × List Char) :=
  if run.isEmpty then none
  else
    let written := run.foldl (fun n d => n * 10 + (d.toNat - '0'.toNat)) 0
    if 0x80000000 ≤ written then
      if significand ≠ 0 ∧ !down then none
      else some (.real (if negative then -0.0 else 0.0), after)
    else
      let exponent : Int := if down then shift - written else shift + written
      (realOf negative significand exponent).map (·, after)

/-- The number whose exponent stands behind its mark and sign. -/
def exponentDigits (negative : Bool) (significand : Nat) (shift : Int) (down : Bool) (cs : List Char) :
    Option (Json × List Char) :=
  exponentRun negative significand shift down (cs.takeWhile Char.isDigit) (cs.dropWhile Char.isDigit)

theorem exponentPart_mark (h : c = 'e' ∨ c = 'E') : exponentPart negative significand shift (c :: cs) =
    exponentDigits negative significand shift (exponentSign cs).1 (exponentSign cs).2 := if_pos h

theorem exponentPart_no_mark (h : ∀ c, cs.head? = some c → ¬(c = 'e' ∨ c = 'E')) :
    exponentPart negative significand shift cs = (realOf negative significand shift).map (·, cs) := by
  cases cs with
  | nil => rfl
  | cons c cs => exact if_neg (h c rfl)

theorem local_exponentRun (run after : List Char) : Local (exponentRun negative significand shift down run) after
    (exponentRun negative significand shift down run after) := by
  unfold exponentRun
  exact .ite .none (.ite (.ite .none .always) (.here fun _ _ => rfl))

theorem local_exponentDigits (cs : List Char) :
    Local (exponentDigits negative significand shift down) cs (exponentDigits negative significand shift down cs) :=
  Local.digits (g := exponentRun negative significand shift down) (fun _ => rfl) local_exponentRun cs

theorem exponentSign_of_head (h : cs.head? ≠ some '+' ∧ cs.head? ≠ some '-') : exponentSign cs = (false, cs) := by
  unfold exponentSign
  split
  · exact absurd rfl h.1
  · exact absurd rfl h.2
  · rfl

theorem local_exponentPart (cs : List Char) :
    Local (exponentPart negative significand shift) cs (exponentPart negative significand shift cs) := by
  by_cases h : ∃ c more, cs = c :: more ∧ (c = 'e' ∨ c = 'E')
  · obtain ⟨c, cs, rfl, hc⟩ := h
    rw [exponentPart_mark hc]
    by_cases hsign : cs.head? ≠ some '+' ∧ cs.head? ≠ some '-'
    · rw [exponentSign_of_head hsign]
      refine (local_exponentDigits _).behind (l := [c]) fun more hmore => ?_
      rw [← hmore] at hsign
      rw [List.cons_append, List.nil_append, exponentPart_mark hc, exponentSign_of_head hsign]
    · rcases Decidable.not_and_iff_or_not.mp hsign with hsign | hsign
      · obtain ⟨more, rfl⟩ := List.head?_eq_some_iff.mp (not_not.mp hsign)
        exact (local_exponentDigits more).behind (l := [c, '+']) fun _ _ => exponentPart_mark hc
      · obtain ⟨more, rfl⟩ := List.head?_eq_some_iff.mp (not_not.mp hsign)
        exact (local_exponentDigits more).behind (l := [c, '-']) fun _ _ => exponentPart_mark hc
  · have hmark : ∀ c, cs.head? = some c → ¬(c = 'e' ∨ c = 'E') := fun c hc hmark => by
      obtain ⟨more, rfl⟩ := List.head?_eq_some_iff.mp hc
      exact h ⟨c, more, rfl, hmark⟩
    rw [exponentPart_no_mark hmark]
    exact .here fun tail htail => exponentPart_no_mark (htail ▸ hmark)

/-- The number whose fraction has the digits `run`, and the text behind it. -/
def fractionRun (negative : Bool) (significand dropped : Nat) (run after : List Char) : Option (Json × List Char) :=
  if run.isEmpty then none
  else
    let (final, places, _) := takeDigits significand run
    exponentPart negative final ((dropped : Int) - places) after

/-- The number without a fraction and an exponent. -/
def plainRun (negative : Bool) (significand : Nat) (rest : List Char) : Option (Json × List Char) :=
  if !negative then some (.int significand, rest)
  else if significand = 0 ∨ 0x8000000000000000 < significand then (realOf true significand 0).map (·, rest)
  else some (.int (-significand), rest)

/-- The number with the digits `run` in front of a point or mark, and the text behind it. -/
def wholeRun (negative : Bool) (run rest : List Char) : Option (Json × List Char) :=
  if run.isEmpty ∨ (run.head? = some '0' ∧ 1 < run.length) then none
  else
    let (significand, used, _) := takeDigits 0 run
    let dropped := run.length - used
    match rest with
    | '.' :: more =>
      fractionRun negative significand dropped (more.takeWhile Char.isDigit) (more.dropWhile Char.isDigit)
    | _ =>
      if rest.head? = some 'e' ∨ rest.head? = some 'E' ∨ dropped ≠ 0 then
        exponentPart negative significand dropped rest
      else plainRun negative significand rest

theorem number_eq : number negative cs = wholeRun negative (cs.takeWhile Char.isDigit) (cs.dropWhile Char.isDigit) := by
  unfold number wholeRun fractionRun plainRun
  rfl

theorem local_fraction {dropped : Nat} (cs : List Char) :
    let f := fun cs : List Char =>
      fractionRun negative significand dropped (cs.takeWhile Char.isDigit) (cs.dropWhile Char.isDigit)
    Local f cs (f cs) := by
  refine Local.digits (fun _ => rfl) (fun run after => ?_) cs
  unfold fractionRun
  exact .ite .none (local_exponentPart after)

theorem local_plainRun (rest : List Char) :
    Local (plainRun negative significand) rest (plainRun negative significand rest) := by
  unfold plainRun
  exact .ite .always (.ite (.here fun _ _ => rfl) .always)

theorem local_wholeRun (run rest : List Char) : Local (wholeRun negative run) rest (wholeRun negative run rest) := by
  by_cases hrun : run.isEmpty ∨ (run.head? = some '0' ∧ 1 < run.length)
  · unfold wholeRun
    rw [if_pos hrun]
    exact .none
  by_cases hpoint : rest.head? = some '.'
  · obtain ⟨more, rfl⟩ := List.head?_eq_some_iff.mp hpoint
    have hwhole (more : List Char) : wholeRun negative run ('.' :: more) =
        fractionRun negative (takeDigits 0 run).1 (run.length - (takeDigits 0 run).2.1)
          (more.takeWhile Char.isDigit) (more.dropWhile Char.isDigit) := if_neg hrun
    rw [hwhole]
    exact (local_fraction more).behind (l := ['.']) fun more _ => hwhole more
  · have hwhole (tail : List Char) (htail : tail.head? = rest.head?) : wholeRun negative run tail =
        if rest.head? = some 'e' ∨ rest.head? = some 'E' ∨ run.length - (takeDigits 0 run).2.1 ≠ 0 then
          exponentPart negative (takeDigits 0 run).1 (run.length - (takeDigits 0 run).2.1 : Nat) tail
        else plainRun negative (takeDigits 0 run).1 tail := by
      rw [← htail] at hpoint ⊢
      unfold wholeRun
      rw [if_neg hrun]
      dsimp only
      split
      · exact absurd List.head?_cons hpoint
      · rfl
    rw [hwhole rest rfl]
    exact (Local.ite (local_exponentPart rest) (local_plainRun rest)).congr hwhole

theorem local_number (cs : List Char) : Local (number negative) cs (number negative cs) :=
  Local.digits (fun _ => number_eq) local_wholeRun cs

/-- A number is read from its first digit on. -/
theorem local_number_cons (h : c.isDigit = true) (rest : List Char) :
    Local (fun rest => number negative (c :: rest)) rest (number negative (c :: rest)) := by
  refine Local.digits (g := fun run => wholeRun negative (c :: run)) (fun cs => ?_) (fun run => local_wholeRun _) rest
  rw [number_eq, List.takeWhile_cons_of_pos h, List.dropWhile_cons_of_pos h]

end Numbers

/-! ## Values without parts -/

section Plain
variable {r s : Option (Json × List Char)} {negative : Bool} {significand : Nat} {shift : Int}

/-- Whether a value has no parts. -/
def isPlain : Json → Bool
  | .list _ | .object _ => false
  | _ => true

/-- Whether a value is an object. -/
def isObject : Json → Bool
  | .object _ => true
  | _ => false

theorem exists_fields (h : v.isObject = true) : ∃ fields, v = .object fields := by
  cases v with
  | object fields => exact ⟨fields, rfl⟩
  | _ => cases h

theorem isObject_of_isPlain (h : v.isPlain = true) : v.isObject = false := by
  cases v with
  | object fields => cases h
  | _ => rfl

/-- What is read has no parts. -/
def Plain (r : Option (Json × List Char)) : Prop := ∀ v rest, r = some (v, rest) → v.isPlain = true

theorem Plain.none : Plain none := nofun

theorem Plain.some (h : v.isPlain = true) : Plain (some (v, rest)) := by
  intro w left hw
  cases hw
  exact h

theorem Plain.real : Plain ((realOf negative significand shift).map (·, rest)) := by
  intro v left h
  obtain ⟨w, hw, heq⟩ := Option.map_eq_some_iff.mp h
  cases heq
  obtain ⟨x, -, rfl⟩ := Option.map_eq_some_iff.mp hw
  rfl

theorem Plain.ite {P : Prop} [Decidable P] (hr : Plain r) (hs : Plain s) : Plain (if P then r else s) := by
  split <;> assumption

theorem plain_exponentPart : Plain (exponentPart negative significand shift cs) := by
  unfold exponentPart
  cases cs with
  | nil => exact .real
  | cons c cs => exact .ite (.ite .none (.ite (.ite .none (.some rfl)) .real)) .real

theorem plain_number : Plain (number negative cs) := by
  rw [number_eq]
  unfold wholeRun fractionRun plainRun
  refine .ite .none ?_
  dsimp only
  split
  · exact .ite .none plain_exponentPart
  · exact .ite plain_exponentPart (.ite (.some rfl) (.ite .real (.some rfl)))

theorem plain_keyword : Plain (keyword? cs) := by
  fun_cases keyword? cs with
  | case4 => exact .none
  | _ => exact .some rfl

theorem Plain.isPlain (hr : Plain r)
    (h : (r.map fun (v, after) => (Token.scalar v, after)) = Option.some (.scalar v, after)) : v.isPlain = true := by
  obtain ⟨found, hfound, heq⟩ := Option.map_eq_some_iff.mp h
  cases heq
  exact hr _ _ hfound

end Plain

/-! ## Tokens -/

theorem local_token (c : Char) (rest : List Char) : Local (token? c) rest (token? c rest) := by
  unfold token?
  split
  case h_7 => exact (local_stringBody rest).map fun cs => Token.scalar (.text (String.ofList cs))
  case h_8 => exact (local_number rest).map Token.scalar
  case h_9 =>
    by_cases hdigit : c.isDigit = true
    · simp only [if_pos hdigit]
      exact (local_number_cons hdigit rest).map Token.scalar
    · simp only [if_neg hdigit]
      exact (local_keyword c rest).map Token.scalar
  all_goals exact .always

theorem token_openObject (h : token? c rest = some (.openObject, after)) : c = '{' ∧ after = rest := by
  unfold token? at h
  split at h
  case h_9 => split_ifs at h <;> simp at h
  all_goals simp_all

theorem token_closeObject (h : token? c rest = some (.closeObject, after)) : c = '}' ∧ after = rest := by
  unfold token? at h
  split at h
  case h_9 => split_ifs at h <;> simp at h
  all_goals simp_all

theorem isPlain_of_scalar (h : token? c rest = some (.scalar v, after)) : v.isPlain = true := by
  unfold token? at h
  split at h
  case h_7 =>
    obtain ⟨found, -, heq⟩ := Option.map_eq_some_iff.mp h
    cases heq
    rfl
  case h_8 => exact plain_number.isPlain h
  case h_9 =>
    split_ifs at h
    · exact plain_number.isPlain h
    · exact plain_keyword.isPlain h
  all_goals cases h

/-! ## Texts -/

section Texts
variable {ts : List Token}

theorem tokens_of_isSpace (h : isSpace c = true) : tokens? (c :: rest) = tokens? rest := by rw [tokens?, if_pos h]

theorem tokens_of_token (hc : ¬isSpace c = true) (h : token? c rest = some (t, after)) :
    tokens? (c :: rest) = (tokens? after).map (t :: ·) := by
  obtain ⟨taken, rfl, -⟩ := local_token c rest _ _ h
  have hlength : after.length ≤ (taken ++ after).length := by simp
  rw [tokens?, if_neg hc, h]
  exact if_pos hlength

theorem tokens_cons (hc : ¬isSpace c = true) (h : tokens? (c :: rest) = some ts) :
    ∃ t after more, token? c rest = some (t, after) ∧ tokens? after = some more ∧ ts = t :: more := by
  cases htoken : token? c rest with
  | none =>
    rw [tokens?, if_neg hc, htoken] at h
    cases h
  | some found =>
    rw [tokens_of_token hc htoken] at h
    obtain ⟨more, hmore, rfl⟩ := Option.map_eq_some_iff.mp h
    exact ⟨found.1, found.2, more, rfl, hmore, rfl⟩

/-- A text is read token by token from its start. -/
inductive Tokenized : List Char → List Token → Prop where
  | nil : Tokenized [] []
  | space {c : Char} {cs : List Char} {ts : List Token} : isSpace c = true → Tokenized cs ts → Tokenized (c :: cs) ts
  | token {c : Char} {cs after : List Char} {t : Token} {ts : List Token} : ¬isSpace c = true →
      token? c cs = some (t, after) → Tokenized after ts → Tokenized (c :: cs) (t :: ts)

theorem Tokenized.tokens (h : Tokenized cs ts) : tokens? cs = some ts := by
  induction h with
  | nil => rw [tokens?]
  | space hc _ ih => rw [tokens_of_isSpace hc, ih]
  | token hc htoken _ ih => rw [tokens_of_token hc htoken, ih, Option.map_some]

theorem tokenized_of_tokens (h : tokens? cs = some ts) : Tokenized cs ts := by
  induction cs using tokens?.induct generalizing ts with
  | case1 =>
    rw [tokens?] at h
    cases h
    exact .nil
  | case2 c cs hc ih =>
    rw [tokens_of_isSpace hc] at h
    exact .space hc (ih h)
  | case3 c cs hc htoken =>
    obtain ⟨_, _, _, hsome, -⟩ := tokens_cons hc h
    rw [htoken] at hsome
    cases hsome
  | case4 c cs hc t after htoken hlength ih =>
    rw [tokens_of_token hc htoken] at h
    obtain ⟨more, hmore, rfl⟩ := Option.map_eq_some_iff.mp h
    exact .token hc htoken (ih hmore)
  | case5 c cs hc t after htoken hlength =>
    obtain ⟨taken, rfl, -⟩ := local_token c cs _ _ htoken
    exact absurd (by simp) hlength

/-- The values among the tokens have no parts. -/
theorem Tokenized.isPlain (h : Tokenized cs ts) : ∀ v, .scalar v ∈ ts → v.isPlain = true := by
  induction h with
  | nil => exact nofun
  | space _ _ ih => exact ih
  | token _ htoken _ ih =>
    intro v hv
    rcases List.mem_cons.mp hv with rfl | hv
    · exact isPlain_of_scalar htoken
    · exact ih v hv

theorem isSpace_of_tokens_nil (h : tokens? cs = some []) : ∀ c ∈ cs, isSpace c = true := by
  induction cs with
  | nil => exact nofun
  | cons c cs ih =>
    by_cases hc : isSpace c = true
    · rw [tokens_of_isSpace hc] at h
      exact List.forall_mem_cons.mpr ⟨hc, ih h⟩
    · obtain ⟨t, after, more, -, -, hts⟩ := tokens_cons hc h
      cases hts

/-- The first token stands behind blanks. -/
theorem tokens_first (h : tokens? cs = some (t :: ts)) :
    ∃ front c rest after, cs = front ++ c :: rest ∧ (∀ x ∈ front, isSpace x = true) ∧
      token? c rest = some (t, after) ∧ tokens? (c :: rest) = some (t :: ts) := by
  induction cs with
  | nil =>
    rw [tokens?] at h
    cases h
  | cons c cs ih =>
    by_cases hc : isSpace c = true
    · rw [tokens_of_isSpace hc] at h
      obtain ⟨front, d, rest, after, rfl, hfront, htoken⟩ := ih h
      exact ⟨c :: front, d, rest, after, rfl, List.forall_mem_cons.mpr ⟨hc, hfront⟩, htoken⟩
    · obtain ⟨u, after, more, htoken, -, hts⟩ := tokens_cons hc h
      cases hts
      exact ⟨[], c, cs, after, rfl, List.forall_mem_nil _, htoken, h⟩

/-- The bracket that ends an object stands in front of blanks if it is the last token. -/
theorem tokens_last (h : tokens? cs = some ts) (hlast : ts.getLast? = some .closeObject) :
    ∃ body back, cs = body ++ '}' :: back ∧ (∀ c ∈ back, isSpace c = true) ∧ tokens? (body ++ ['}']) = some ts := by
  induction tokenized_of_tokens h with
  | nil => cases hlast
  | @space c cs ts hc hrest ih =>
    obtain ⟨body, back, rfl, hback, hbody⟩ := ih hrest.tokens hlast
    exact ⟨c :: body, back, rfl, hback, (tokens_of_isSpace hc).trans hbody⟩
  | @token c cs after t more hc htoken hrest ih =>
    cases more with
    | nil =>
      -- The bracket itself is the last token.
      cases hlast
      obtain ⟨rfl, rfl⟩ := token_closeObject htoken
      refine ⟨[], after, rfl, isSpace_of_tokens_nil hrest.tokens, ?_⟩
      rw [List.nil_append, tokens_of_token (by decide) (show token? '}' [] = some (.closeObject, []) from rfl), tokens?]
      rfl
    | cons u more =>
      rw [List.getLast?_cons_cons] at hlast
      obtain ⟨body, back, rfl, hback, hbody⟩ := ih hrest.tokens hlast
      obtain ⟨taken, rfl, hread⟩ := local_token c cs _ _ htoken
      have htoken : token? c (taken ++ (body ++ ['}'])) = some (t, body ++ ['}']) :=
        hread _ (by rw [List.head?_append, List.head?_append]; rfl)
      refine ⟨c :: (taken ++ body), back, by simp, hback, ?_⟩
      rw [List.cons_append, List.append_assoc, tokens_of_token hc htoken, hbody]
      rfl

end Texts

end ResourceGraph.Json
