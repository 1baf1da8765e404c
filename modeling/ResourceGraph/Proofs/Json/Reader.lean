import ResourceGraph.Json.Reader
import ResourceGraph.Proofs.Json.Lexer

/-! # The value of a JSON text

The outermost container is opened by the first token and closed by the last one, so a text is read as an object just
if it starts with the bracket of one. The blanks around it do not matter. -/

namespace ResourceGraph.Json
variable {cs : List Char} {t : Token} {ts : List Token} {v : Json} {p q : Progress} {o : Bool}

/-! ## Progress -/

/-- Whether an open container is an object. -/
def Frame.isObject : Frame → Bool
  | .items _ => false
  | .fields _ | .awaiting _ _ => true

/-- The outermost container, which is an object or a list, is open or complete. -/
inductive Progress.Within (o : Bool) : Progress → Prop where
  | inside {stack : List Frame} {expect : Expect} : (stack.map Frame.isObject).getLast? = some o →
      Within o ⟨stack, expect, none⟩
  | complete {v : Json} : v.isObject = o → Within o ⟨[], .next, some v⟩

/-- Behind a complete value nothing is taken. -/
theorem Progress.step_complete : Progress.step ⟨[], .next, some v⟩ t = none := by
  cases t <;> rfl

/-- A value in an open container closes nothing. -/
theorem Progress.Within.push {stack : List Frame} {expect : Expect}
    (h : (stack.map Frame.isObject).getLast? = some o) (hq : Progress.push ⟨stack, expect, none⟩ v = some q) :
    q.Within o ∧ q.result = none := by
  cases stack with
  | nil => cases h
  | cons f outer =>
    cases f with
    | fields done => cases hq
    | items done =>
      cases hq
      exact ⟨.inside h, rfl⟩
    | awaiting done key =>
      cases hq
      exact ⟨.inside h, rfl⟩

/-- The value of the innermost container takes its place; the text is complete if there is no other. -/
theorem Progress.Within.close {f : Frame} {outer : List Frame} {expect : Expect}
    (h : ((f :: outer).map Frame.isObject).getLast? = some o) (hv : v.isObject = f.isObject)
    (hq : Progress.push ⟨outer, expect, none⟩ v = some q) :
    q.Within o ∧ (q.result ≠ none → f.isObject = o) := by
  cases outer with
  | nil =>
    cases hq
    have hf : f.isObject = o := Option.some.inj h
    exact ⟨.complete (hv.trans hf), fun _ => hf⟩
  | cons g outer =>
    rw [List.map_cons, List.map_cons, List.getLast?_cons_cons, ← List.map_cons] at h
    obtain ⟨hwithin, hresult⟩ := Within.push h hq
    exact ⟨hwithin, fun hne => absurd hresult hne⟩

/-- The bracket that closes a container. -/
def closing (o : Bool) : Token :=
  if o then .closeObject else .closeList

/-- A container that is opened within another is not the outermost one. -/
theorem Progress.Within.open {f : Frame} {stack : List Frame} {expect : Expect}
    (h : (stack.map Frame.isObject).getLast? = some o) : Within o ⟨f :: stack, expect, none⟩ := by
  refine .inside ?_
  rw [List.map_cons, List.getLast?_cons, h]
  rfl

theorem Progress.Within.step (h : p.Within o) (hstep : p.step t = some q) :
    q.Within o ∧ (q.result ≠ none → t = closing o) := by
  cases h with
  | complete hv =>
    rw [Progress.step_complete] at hstep
    cases hstep
  | @inside stack expect h =>
    have goes (hq : q.Within o ∧ q.result = none) : q.Within o ∧ (q.result ≠ none → t = closing o) :=
      ⟨hq.1, fun hne => absurd hq.2 hne⟩
    cases t with
    | scalar v =>
      apply goes
      unfold Progress.step at hstep
      dsimp only at hstep
      split at hstep
      · exact Within.push h hstep
      · split at hstep <;> cases hstep <;> exact ⟨.inside h, rfl⟩
    | openList | openObject =>
      apply goes
      obtain ⟨-, hq⟩ := Option.ite_none_right_eq_some.mp hstep
      cases hq
      exact ⟨.open h, rfl⟩
    | closeList | closeObject =>
      unfold Progress.step at hstep
      dsimp only at hstep
      split at hstep
      · obtain ⟨hq, hclosed⟩ := Within.close h rfl hstep
        exact ⟨hq, fun hne => hclosed hne ▸ rfl⟩
      · obtain ⟨hq, hclosed⟩ := Within.close h rfl hstep
        exact ⟨hq, fun hne => hclosed hne ▸ rfl⟩
      · cases hstep
    | colon =>
      apply goes
      unfold Progress.step at hstep
      dsimp only at hstep
      split at hstep <;> cases hstep
      exact ⟨.inside h, rfl⟩
    | comma =>
      apply goes
      unfold Progress.step at hstep
      dsimp only at hstep
      split at hstep <;> cases hstep <;> exact ⟨.inside h, rfl⟩

theorem Progress.run_cons : p.run (t :: ts) = (p.step t).bind fun next => next.run ts := rfl

/-- Until the outermost container is complete there is no value, and the token that closes it is the last one. -/
theorem Progress.Within.run (h : p.Within o) (hrun : p.run ts = some q) (hp : p.result = none)
    (hq : q.result = some v) : v.isObject = o ∧ ts.getLast? = some (closing o) := by
  induction ts generalizing p with
  | nil =>
    cases hrun
    rw [hp] at hq
    cases hq
  | cons t ts ih =>
    rw [Progress.run_cons] at hrun
    obtain ⟨next, hstep, hrest⟩ := Option.bind_eq_some_iff.mp hrun
    obtain ⟨hnext, hclosed⟩ := h.step hstep
    cases hresult : next.result with
    | none =>
      obtain ⟨hv, hlast⟩ := ih hnext hrest hresult
      refine ⟨hv, ?_⟩
      rw [List.getLast?_cons, hlast]
      rfl
    | some w =>
      -- The value is complete, so no token is left.
      cases hnext with
      | inside => cases hresult
      | complete hw =>
        cases ts with
        | nil =>
          cases hrest
          cases hq
          exact ⟨hw, congrArg some (hclosed (by simp))⟩
        | cons u ts =>
          rw [Progress.run_cons, Progress.step_complete] at hrest
          cases hrest

/-! ## Texts -/

/-- The tokens of a text have a value. -/
def value? (ts : List Token) : Option Json :=
  (Progress.run ⟨[], .value, none⟩ ts).bind Progress.result

theorem read_ofList : read? (String.ofList cs) = (tokens? cs).bind value? := by
  unfold read? value?
  rw [String.toList_ofList]
  rfl

/-- The bracket that opens a container. -/
def opening (o : Bool) : Token :=
  if o then .openObject else .openList

theorem value_opening (h : value? (opening o :: ts) = some v) :
    v.isObject = o ∧ ts.getLast? = some (closing o) := by
  obtain ⟨q, hrun, hq⟩ := Option.bind_eq_some_iff.mp h
  rw [Progress.run_cons] at hrun
  obtain ⟨p, hstep, hrest⟩ := Option.bind_eq_some_iff.mp hrun
  have hp : p.Within o ∧ p.result = none := by
    cases o with
    | false =>
      cases hstep
      exact ⟨.inside rfl, rfl⟩
    | true =>
      cases hstep
      exact ⟨.inside rfl, rfl⟩
  exact hp.1.run hrest hp.2 hq

/-- An object starts with its bracket. -/
theorem value_object (h : value? (t :: ts) = some v) (hv : v.isObject = true)
    (hscalar : ∀ w, t = .scalar w → w.isObject = false) : t = .openObject := by
  cases t with
  | openObject => rfl
  | openList =>
    have hlist := (value_opening (o := false) h).1
    rw [hv] at hlist
    cases hlist
  | scalar w =>
    cases ts with
    | nil =>
      cases h
      rw [hscalar v rfl] at hv
      cases hv
    | cons u ts =>
      obtain ⟨q, hrun, -⟩ := Option.bind_eq_some_iff.mp h
      rw [Progress.run_cons] at hrun
      obtain ⟨p, hstep, hrest⟩ := Option.bind_eq_some_iff.mp hrun
      cases hstep
      rw [Progress.run_cons, Progress.step_complete] at hrest
      cases hrest
  | _ => cases h

/-- The text of an object is that of its brackets and of what stands between them, with blanks around it. -/
theorem read_object (h : read? (String.ofList cs) = some v) (hv : v.isObject = true) :
    ∃ front inner back, cs = front ++ ('{' :: (inner ++ ['}'])) ++ back ∧ (∀ c ∈ front, isSpace c = true) ∧
      (∀ c ∈ back, isSpace c = true) ∧ read? (String.ofList ('{' :: (inner ++ ['}']))) = some v := by
  rw [read_ofList] at h
  obtain ⟨ts, hts, hvalue⟩ := Option.bind_eq_some_iff.mp h
  cases ts with
  | nil => cases hvalue
  | cons t ts =>
    obtain ⟨front, c, rest, after, rfl, hfront, htoken, htokens⟩ := tokens_first hts
    obtain rfl : t = .openObject := value_object hvalue hv fun w hw => by
      rw [hw] at htoken
      exact isObject_of_isPlain (isPlain_of_scalar htoken)
    obtain ⟨rfl, rfl⟩ := token_openObject htoken
    have hlast : (Token.openObject :: ts).getLast? = some .closeObject := by
      rw [List.getLast?_cons, (value_opening (o := true) hvalue).2]
      rfl
    obtain ⟨body, back, hbody, hback, htokens⟩ := tokens_last htokens hlast
    obtain ⟨inner, rfl⟩ : ∃ inner, body = '{' :: inner := by
      cases body with
      | nil => cases hbody
      | cons c inner =>
        cases hbody
        exact ⟨inner, rfl⟩
    refine ⟨front, inner, back, ?_, hfront, hback, ?_⟩
    · rw [hbody]
      simp
    · rw [read_ofList, ← List.cons_append, htokens]
      exact hvalue

theorem isObject_of_read (h : read? (String.ofList ('{' :: cs)) = some v) : v.isObject = true := by
  have htoken : token? '{' cs = some (.openObject, cs) := rfl
  rw [read_ofList, tokens_of_token (by decide) htoken] at h
  obtain ⟨ts, hts, hvalue⟩ := Option.bind_eq_some_iff.mp h
  obtain ⟨more, -, rfl⟩ := Option.map_eq_some_iff.mp hts
  exact (value_opening (o := true) hvalue).1

end ResourceGraph.Json
