import ResourceGraph.Json.Writer
import ResourceGraph.Proofs.Json.Depth

/-! # Values read again

The text of a value is read as this value again: its tokens are found in front of a separator, a closing bracket or
the end, and they are put together on a stack with enough levels left. Doubles are left out, and integers fit 64
bits. -/

namespace ResourceGraph.Json
open Sorted

/-! ## Strings -/

theorem hexUnit?_digits : ∀ n < 32, hexUnit? '0' '0' (Nat.digitChar (n / 16)) (Nat.digitChar (n % 16)) = some n := by
  decide

theorem stringBody_escapeChar (c : Char) (more : List Char) :
    stringBody (escapeChar c ++ more) = pushChar c (stringBody more) := by
  unfold escapeChar
  split_ifs with hquote hback hbackspace hfeed hline hreturn htab hcontrol
  · rw [hquote]
    rfl
  · rw [hback]
    rfl
  · rw [hbackspace]
    rfl
  · rw [hfeed]
    rfl
  · rw [hline]
    rfl
  · rw [hreturn]
    rfl
  · rw [htab]
    rfl
  · simp only [List.cons_append, List.nil_append]
    rw [stringBody, hexUnit?_digits c.toNat hcontrol]
    dsimp only
    rw [if_neg (by omega), if_neg (by omega), Char.ofNat_toNat]
  · rw [List.cons_append, List.nil_append, stringBody, if_neg (not_or.mpr ⟨hcontrol, hback⟩)]
    · exact hquote
    · exact fun _ _ _ _ _ h => absurd h hback
    · exact fun _ _ h => absurd h hback

theorem stringBody_flatMap (cs rest : List Char) : stringBody (cs.flatMap escapeChar ++ '"' :: rest) = some (cs, rest) := by
  induction cs with
  | nil => rfl
  | cons c cs ih =>
    rw [List.flatMap_cons, List.append_assoc, stringBody_escapeChar, ih]
    rfl

theorem tokens_quote (s : String) (rest : List Char) :
    tokens? ((quote s).toList ++ rest) = (tokens? rest).map (.scalar (.text s) :: ·) := by
  have htoken : token? '"' (s.toList.flatMap escapeChar ++ '"' :: rest) = some (.scalar (.text s), rest) := by
    unfold token?
    simp only [stringBody_flatMap, Option.map_some, String.ofList_toList]
  rw [quote, String.toList_ofList, List.cons_append, List.cons_append, List.append_assoc, List.singleton_append]
  exact tokens_of_token (by decide) htoken

/-! ## Integers -/

/-- A value may end in front of these characters. -/
def Ends (rest : List Char) : Prop := ∀ c, rest.head? = some c → c = ',' ∨ c = ']' ∨ c = '}'

section Integers
variable {n significand : Nat} {ds rest : List Char} {negative : Bool}

theorem head?_toDigits (hn : 0 < n) : (Nat.toDigits 10 n).head? ≠ some '0' := by
  induction n using Nat.strong_induction_on with
  | h n ih =>
    by_cases hlt : n < 10
    · rw [Nat.toDigits_of_lt_base hlt, List.head?_singleton]
      have hdigit : ∀ k < 10, 0 < k → some (Nat.digitChar k) ≠ some '0' := by decide
      exact hdigit n hlt hn
    · have hfirst := ih (n / 10) (by omega) (by omega)
      obtain ⟨d, ds, hds⟩ := List.exists_cons_of_ne_nil (Nat.toDigits_ne_nil (n := n / 10) (b := 10))
      rw [Nat.toDigits_of_base_le (by decide) (Nat.not_lt.mp hlt)]
      rw [hds] at hfirst ⊢
      exact hfirst

theorem length_toDigits (h : (Nat.toDigits 10 n).head? = some '0') : (Nat.toDigits 10 n).length ≤ 1 := by
  rcases Nat.eq_zero_or_pos n with rfl | hn
  · decide
  · exact absurd h (head?_toDigits hn)

theorem le_ofDigitChars (ds : List Char) (significand : Nat) : significand ≤ Nat.ofDigitChars 10 ds significand := by
  induction ds generalizing significand with
  | nil => exact Nat.le_refl _
  | cons d ds ih =>
    rw [Nat.ofDigitChars_cons]
    exact Nat.le_trans (by omega) (ih _)

theorem takeDigits_eq (h : Nat.ofDigitChars 10 ds significand ≤ maxUnsigned) :
    takeDigits significand ds = (Nat.ofDigitChars 10 ds significand, ds.length, false) := by
  induction ds generalizing significand with
  | nil => rfl
  | cons d ds ih =>
    rw [Nat.ofDigitChars_cons, Nat.mul_comm] at h ⊢
    have hnext := Nat.le_trans (le_ofDigitChars ds _) h
    unfold takeDigits
    dsimp only
    rw [if_neg (Nat.not_lt.mpr hnext), ih h]
    rfl

theorem number_toDigits (hn : n ≤ maxUnsigned) (hrest : Ends rest) :
    number negative (Nat.toDigits 10 n ++ rest) = plainRun negative n rest := by
  have hdigits : ∀ c ∈ Nat.toDigits 10 n, c.isDigit = true := fun c => Nat.isDigit_of_mem_toDigits (by decide) (by decide)
  have hstop : ∀ c, rest.head? = some c → c.isDigit = false := fun c hc => by
    rcases hrest c hc with rfl | rfl | rfl <;> rfl
  have hmark : ∀ c, c = '.' ∨ c = 'e' ∨ c = 'E' → rest.head? ≠ some c := fun c hc hhead => by
    rcases hrest c hhead with rfl | rfl | rfl <;> simp at hc
  have hvalue : takeDigits 0 (Nat.toDigits 10 n) = (n, (Nat.toDigits 10 n).length, false) := by
    rw [takeDigits_eq] <;> rw [Nat.ofDigitChars_ten_toDigits]
    exact hn
  rw [number_eq, Text.takeWhile_append_of_stop hdigits hstop, Text.dropWhile_append_of_stop hdigits hstop]
  unfold wholeRun
  rw [if_neg, hvalue]
  · dsimp only
    split
    · exact absurd rfl (hmark '.' (Or.inl rfl))
    · rw [if_neg]
      simp [hmark]
  · rintro (hempty | ⟨hzero, hlength⟩)
    · exact Nat.toDigits_ne_nil (List.isEmpty_iff.mp hempty)
    · exact absurd (length_toDigits hzero) (Nat.not_le.mpr hlength)

/-- A token that starts with a digit is a number. -/
theorem token_of_isDigit {c : Char} (hc : c.isDigit = true) :
    token? c rest = (number false (c :: rest)).map fun found => (.scalar found.1, found.2) := by
  unfold token?
  split <;> first | cases hc | exact if_pos hc

theorem tokens_int {k : Int} (hlow : -0x8000000000000000 ≤ k) (hhigh : k ≤ maxUnsigned) (hrest : Ends rest) :
    tokens? ((toString k).toList ++ rest) = (tokens? rest).map (.scalar (.int k) :: ·) := by
  cases k with
  | ofNat n =>
    have hn : n ≤ maxUnsigned := Int.ofNat_le.mp hhigh
    have htext : (toString (Int.ofNat n)).toList = Nat.toDigits 10 n := Nat.toList_repr
    have hnumber : number false (Nat.toDigits 10 n ++ rest) = plainRun false n rest := number_toDigits hn hrest
    obtain ⟨d, ds, hds⟩ := List.exists_cons_of_ne_nil (Nat.toDigits_ne_nil (n := n) (b := 10))
    have hd : d.isDigit = true :=
      Nat.isDigit_of_mem_toDigits (b := 10) (n := n) (by decide) (by decide) (hds ▸ List.mem_cons_self)
    have hspace : ¬isSpace d = true := by
      intro hspace
      simp only [isSpace, Bool.or_eq_true, decide_eq_true_eq] at hspace
      rcases hspace with ((rfl | rfl) | rfl) | rfl <;> cases hd
    rw [htext]
    rw [hds] at hnumber ⊢
    refine tokens_of_token hspace ?_
    rw [token_of_isDigit hd]
    exact congrArg (Option.map fun found => (Token.scalar found.1, found.2)) hnumber
  | negSucc n =>
    have hn : n + 1 ≤ 0x8000000000000000 := by omega
    have htext : (toString (Int.negSucc n)).toList = '-' :: Nat.toDigits 10 (n + 1) := by
      have hminus : toString (Int.negSucc n) = "-" ++ (n + 1).repr := rfl
      rw [hminus, String.toList_append, Nat.toList_repr]
      rfl
    have hnumber : number true (Nat.toDigits 10 (n + 1) ++ rest) = plainRun true (n + 1) rest :=
      number_toDigits (Nat.le_trans hn (by decide)) hrest
    have hplain : plainRun true (n + 1) rest = some (.int (Int.negSucc n), rest) :=
      if_neg (by omega : ¬(n + 1 = 0 ∨ 0x8000000000000000 < n + 1))
    rw [hplain] at hnumber
    rw [htext]
    refine tokens_of_token (by decide) ?_
    exact congrArg (Option.map fun found : Json × List Char => (Token.scalar found.1, found.2)) hnumber

end Integers

/-! ## Values -/

mutual

/-- Whether a value has no doubles, and integers that fit 64 bits. -/
def isExact : Json → Bool
  | .int k => decide (-0x8000000000000000 ≤ k ∧ k ≤ maxUnsigned)
  | .real _ => false
  | .list items => itemsExact items
  | .object fields => fieldsExact fields
  | _ => true

/-- Whether all items are such values. -/
def itemsExact : List Json → Bool
  | [] => true
  | v :: rest => isExact v && itemsExact rest

/-- Whether all fields have such values. -/
def fieldsExact : List (String × Json) → Bool
  | [] => true
  | f :: rest => isExact f.2 && fieldsExact rest

end

mutual

/-- The tokens of a value. -/
def tokensOf : Json → List Token
  | .list items => .openList :: (itemTokens items ++ [.closeList])
  | .object fields => .openObject :: (fieldTokens fields ++ [.closeObject])
  | v => [.scalar v]

/-- The tokens of the items of a list. -/
def itemTokens : List Json → List Token
  | [] => []
  | [v] => tokensOf v
  | v :: rest => tokensOf v ++ .comma :: itemTokens rest

/-- The tokens of the fields of an object. -/
def fieldTokens : List (String × Json) → List Token
  | [] => []
  | [(k, v)] => .scalar (.text k) :: .colon :: tokensOf v
  | (k, v) :: rest => .scalar (.text k) :: .colon :: (tokensOf v ++ .comma :: fieldTokens rest)

end

section Values
variable {n : Nat} {v : Json} {items : List Json} {fields : List (String × Json)} {cs rest : List Char}
  {ts us : List Token} {p : Progress} {done : List Json} {doneFields : List (String × Json)} {outer : List Frame}
  {expect : Expect}

theorem itemsExact_iff : itemsExact items = true ↔ ∀ v ∈ items, v.isExact = true := by
  induction items with
  | nil => simp [itemsExact]
  | cons v items ih => simp [itemsExact, ih]

theorem fieldsExact_iff : fieldsExact fields = true ↔ ∀ f ∈ fields, f.2.isExact = true := by
  induction fields with
  | nil => simp [fieldsExact]
  | cons f fields ih => simp [fieldsExact, ih]

theorem compactItems_cons_cons (v w : Json) (items : List Json) :
    compactItems (v :: w :: items) = compact v ++ "," ++ compactItems (w :: items) := by
  rw [compactItems]
  exact nofun

theorem itemTokens_cons_cons (v w : Json) (items : List Json) :
    itemTokens (v :: w :: items) = tokensOf v ++ .comma :: itemTokens (w :: items) := by
  rw [itemTokens]
  exact nofun

theorem compactFields_cons_cons (f g : String × Json) (fields : List (String × Json)) :
    compactFields (f :: g :: fields) = compactFields [f] ++ "," ++ compactFields (g :: fields) := by
  rw [compactFields, compactFields]
  exact nofun

theorem fieldTokens_cons_cons (f g : String × Json) (fields : List (String × Json)) :
    fieldTokens (f :: g :: fields) = fieldTokens [f] ++ .comma :: fieldTokens (g :: fields) := by
  rw [fieldTokens, fieldTokens]
  · rfl
  · exact nofun

/-! ### Texts -/

/-- Some characters are read as some tokens where a value ends behind them. -/
def Spells (cs : List Char) (ts : List Token) : Prop :=
  ∀ rest, Ends rest → tokens? (cs ++ rest) = (tokens? rest).map (ts ++ ·)

theorem Ends.cons {c : Char} (hc : c = ',' ∨ c = ']' ∨ c = '}') : Ends (c :: rest) := by
  intro d hd
  cases hd
  exact hc

theorem tokens_mark {c : Char} {t : Token} (hc : isSpace c = false) (h : token? c rest = some (t, rest)) :
    tokens? (c :: rest) = (tokens? rest).map (t :: ·) :=
  tokens_of_token (by simp [hc]) h

/-- A comma stands between two parts. -/
theorem Spells.comma {s s' : String} (h : Spells s.toList ts) (h' : Spells s'.toList us) :
    Spells (s ++ "," ++ s').toList (ts ++ .comma :: us) := by
  intro rest hrest
  have hcomma : ",".toList = [','] := rfl
  rw [String.toList_append, String.toList_append, hcomma, List.append_assoc, List.append_assoc, List.singleton_append,
    h _ (.cons (Or.inl rfl)), tokens_mark rfl rfl, h' rest hrest]
  simp [Function.comp_def]

theorem spells_compactItems (h : ∀ v ∈ items, Spells (compact v).toList (tokensOf v)) :
    Spells (compactItems items).toList (itemTokens items) := by
  induction items with
  | nil =>
    intro rest _
    simp [compactItems, itemTokens]
  | cons v items ih =>
    obtain ⟨hv, hitems⟩ := List.forall_mem_cons.mp h
    cases items with
    | nil =>
      rw [compactItems, itemTokens]
      exact hv
    | cons w items =>
      rw [compactItems_cons_cons, itemTokens_cons_cons]
      exact hv.comma (ih hitems)

theorem spells_field {f : String × Json} (h : Spells (compact f.2).toList (tokensOf f.2)) :
    Spells (compactFields [f]).toList (fieldTokens [f]) := by
  intro rest hrest
  have hcolon : ":".toList = [':'] := rfl
  rw [compactFields, fieldTokens, String.toList_append, String.toList_append, hcolon, List.append_assoc,
    List.append_assoc, List.singleton_append, tokens_quote, tokens_mark rfl rfl, h rest hrest]
  simp [Function.comp_def]

theorem spells_compactFields (h : ∀ f ∈ fields, Spells (compact f.2).toList (tokensOf f.2)) :
    Spells (compactFields fields).toList (fieldTokens fields) := by
  induction fields with
  | nil =>
    intro rest _
    simp [compactFields, fieldTokens]
  | cons f fields ih =>
    obtain ⟨hf, hfields⟩ := List.forall_mem_cons.mp h
    cases fields with
    | nil => exact spells_field hf
    | cons g fields =>
      rw [compactFields_cons_cons, fieldTokens_cons_cons]
      exact (spells_field hf).comma (ih hfields)

theorem Fits.spells (h : v.Fits n) (hv : v.isExact = true) : Spells (compact v).toList (tokensOf v) := by
  induction h with
  | @plain n v hplain =>
    intro rest hrest
    cases v with
    | null =>
      have htoken : token? 'n' ('u' :: 'l' :: 'l' :: rest) = some (.scalar .null, rest) := rfl
      exact tokens_of_token (by decide) htoken
    | bool b =>
      cases b with
      | false =>
        have htoken : token? 'f' ('a' :: 'l' :: 's' :: 'e' :: rest) = some (.scalar (.bool false), rest) := rfl
        exact tokens_of_token (by decide) htoken
      | true =>
        have htoken : token? 't' ('r' :: 'u' :: 'e' :: rest) = some (.scalar (.bool true), rest) := rfl
        exact tokens_of_token (by decide) htoken
    | int k =>
      obtain ⟨hlow, hhigh⟩ := of_decide_eq_true hv
      exact tokens_int hlow hhigh hrest
    | real x => cases hv
    | text s => exact tokens_quote s rest
    | list items => cases hplain
    | object fields => cases hplain
  | @list n items _ ih =>
    have hitems := spells_compactItems fun w hw => ih w hw (itemsExact_iff.mp hv w hw)
    intro rest _
    have htext : (compact (.list items)).toList = '[' :: ((compactItems items).toList ++ [']']) := by
      rw [compact, String.toList_append, String.toList_append]
      rfl
    rw [htext, List.cons_append, List.append_assoc, List.singleton_append, tokens_mark rfl rfl,
      hitems _ (.cons (Or.inr (Or.inl rfl))), tokens_mark rfl rfl, tokensOf]
    simp [Function.comp_def]
  | @object n fields hfields _ ih =>
    have hfields := spells_compactFields fun f hf => ih f hf (fieldsExact_iff.mp hv f hf)
    intro rest _
    have htext : (compact (.object fields)).toList = '{' :: ((compactFields fields).toList ++ ['}']) := by
      rw [compact, String.toList_append, String.toList_append]
      rfl
    rw [htext, List.cons_append, List.append_assoc, List.singleton_append, tokens_mark rfl rfl,
      hfields _ (.cons (Or.inr (Or.inr rfl))), tokens_mark rfl rfl, tokensOf]
    simp [Function.comp_def]

/-! ### Progress -/

theorem Progress.run_append (p : Progress) (ts us : List Token) :
    p.run (ts ++ us) = (p.run ts).bind fun q => q.run us := by
  induction ts generalizing p with
  | nil => rfl
  | cons t ts ih =>
    rw [List.cons_append, run_cons, run_cons, Option.bind_assoc]
    exact congrArg _ (funext ih)

theorem Progress.run_singleton (p : Progress) (t : Token) : p.run [t] = p.step t := by
  rw [run_cons]
  cases p.step t <;> rfl

/-- Some tokens put a value where one is wanted and so many levels are left. -/
def Yields (n : Nat) (ts : List Token) (v : Json) : Prop :=
  ∀ p : Progress, p.expect.wantsValue = true → p.stack.length + n ≤ maxDepth → p.run ts = p.push v

theorem run_itemTokens (h : ∀ v ∈ items, Yields n (tokensOf v) v) (hne : items ≠ [])
    (hexpect : expect.wantsValue = true) (hlength : outer.length + (n + 1) ≤ maxDepth) :
    Progress.run ⟨.items done :: outer, expect, none⟩ (itemTokens items) =
      some ⟨.items (items.reverse ++ done) :: outer, .next, none⟩ := by
  induction items generalizing done expect with
  | nil => exact absurd rfl hne
  | cons v items ih =>
    obtain ⟨hv, hitems⟩ := List.forall_mem_cons.mp h
    have hpush : Progress.run ⟨.items done :: outer, expect, none⟩ (tokensOf v) =
        some ⟨.items (v :: done) :: outer, .next, none⟩ :=
      hv _ hexpect (by simpa [Nat.add_assoc, Nat.add_comm 1] using hlength)
    cases items with
    | nil =>
      rw [itemTokens, hpush]
      rfl
    | cons w items =>
      have hcomma : Progress.step ⟨.items (v :: done) :: outer, .next, none⟩ .comma =
        some ⟨.items (v :: done) :: outer, .value, none⟩ := rfl
      rw [itemTokens_cons_cons, Progress.run_append, hpush, Option.bind_some, Progress.run_cons, hcomma,
        Option.bind_some, ih hitems (List.cons_ne_nil _ _) rfl]
      simp

theorem run_fieldTokens (h : ∀ f ∈ fields, Yields n (tokensOf f.2) f.2) (hne : fields ≠ [])
    (hexpect : expect = .key ∨ expect = .firstKey) (hlength : outer.length + (n + 1) ≤ maxDepth) :
    Progress.run ⟨.fields doneFields :: outer, expect, none⟩ (fieldTokens fields) =
      some ⟨.fields (fields.reverse ++ doneFields) :: outer, .next, none⟩ := by
  induction fields generalizing doneFields expect with
  | nil => exact absurd rfl hne
  | cons f fields ih =>
    obtain ⟨hf, hfields⟩ := List.forall_mem_cons.mp h
    have hkey : Progress.step ⟨.fields doneFields :: outer, expect, none⟩ (.scalar (.text f.1)) =
        some ⟨.awaiting doneFields f.1 :: outer, .colon, none⟩ := by
      rcases hexpect with rfl | rfl <;> rfl
    have hcolon : Progress.step ⟨.awaiting doneFields f.1 :: outer, .colon, none⟩ .colon =
        some ⟨.awaiting doneFields f.1 :: outer, .value, none⟩ := rfl
    have hpush : Progress.run ⟨.awaiting doneFields f.1 :: outer, .value, none⟩ (tokensOf f.2) =
        some ⟨.fields (f :: doneFields) :: outer, .next, none⟩ :=
      hf _ rfl (by simpa [Nat.add_assoc, Nat.add_comm 1] using hlength)
    have hfield : Progress.run ⟨.fields doneFields :: outer, expect, none⟩ (fieldTokens [f]) =
        some ⟨.fields (f :: doneFields) :: outer, .next, none⟩ := by
      rw [fieldTokens, Progress.run_cons, hkey, Option.bind_some, Progress.run_cons, hcolon, Option.bind_some, hpush]
    cases fields with
    | nil => exact hfield
    | cons g fields =>
      have hcomma : Progress.step ⟨.fields (f :: doneFields) :: outer, .next, none⟩ .comma =
        some ⟨.fields (f :: doneFields) :: outer, .key, none⟩ := rfl
      rw [fieldTokens_cons_cons, Progress.run_append, hfield, Option.bind_some, Progress.run_cons, hcomma,
        Option.bind_some, ih hfields (List.cons_ne_nil _ _) (Or.inl rfl)]
      simp

theorem Fits.yields (h : v.Fits n) : Yields n (tokensOf v) v := by
  induction h with
  | @plain n v hplain =>
    intro p hexpect _
    have hscalar : tokensOf v = [.scalar v] := by
      cases v with
      | list items => cases hplain
      | object fields => cases hplain
      | _ => rfl
    rw [hscalar, Progress.run_singleton]
    unfold Progress.step
    exact if_pos hexpect
  | @list n items _ ih =>
    intro p hexpect hlength
    have hopen : p.step .openList = some ⟨.items [] :: p.stack, .first, none⟩ := if_pos ⟨hexpect, by omega⟩
    have hclose : ∀ done, Progress.step ⟨.items done :: p.stack, .next, none⟩ .closeList = p.push (.list done.reverse) :=
      fun _ => rfl
    rw [tokensOf, Progress.run_cons, hopen, Option.bind_some]
    cases items with
    | nil => exact Progress.run_singleton _ _
    | cons v items =>
      rw [Progress.run_append, run_itemTokens ih (List.cons_ne_nil _ _) rfl hlength, Option.bind_some, Progress.run_singleton,
        hclose, List.append_nil, List.reverse_reverse]
  | @object n fields hfields _ ih =>
    intro p hexpect hlength
    have hopen : p.step .openObject = some ⟨.fields [] :: p.stack, .firstKey, none⟩ := if_pos ⟨hexpect, by omega⟩
    have hclose : ∀ done, Progress.step ⟨.fields done :: p.stack, .next, none⟩ .closeObject =
        p.push (Json.ofFields done.reverse) := fun _ => rfl
    rw [tokensOf, Progress.run_cons, hopen, Option.bind_some]
    cases fields with
    | nil => exact Progress.run_singleton _ _
    | cons f fields =>
      rw [Progress.run_append, run_fieldTokens ih (List.cons_ne_nil _ _) (Or.inr rfl) hlength, Option.bind_some,
        Progress.run_singleton, hclose, List.append_nil, List.reverse_reverse, Json.ofFields, Table.ofList_eq_self hfields]

/-- The text of a value is read as this value. -/
theorem read_compact (h : v.Fits maxDepth) (hv : v.isExact = true) : read? (compact v) = some v := by
  have hnil : Ends [] := nofun
  have htokens := h.spells hv [] hnil
  rw [List.append_nil, tokens?, Option.map_some, List.append_nil] at htokens
  have hrun : Progress.run ⟨[], .value, none⟩ (tokensOf v) = Progress.push ⟨[], .value, none⟩ v :=
    h.yields _ rfl (Nat.le_of_eq (Nat.zero_add _))
  rw [← String.ofList_toList (s := compact v), read_ofList, htokens, Option.bind_some, value?, hrun]
  rfl

end Values

end ResourceGraph.Json
