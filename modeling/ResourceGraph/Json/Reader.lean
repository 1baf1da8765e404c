import ResourceGraph.Json.Lexer

/-!
Reading a JSON text. The tokens are folded over a stack of the lists and objects that are still
open, so that the depth of the stack is the depth of nesting, which is limited.
-/

namespace ResourceGraph.Json

/-- A container that is still open, and what is in it so far, in reverse. -/
inductive Frame where
  /-- A list. -/
  | items (done : List Json)
  /-- An object whose last key has a value. -/
  | fields (done : List (String × Json))
  /-- An object with a key that waits for its value. -/
  | awaiting (done : List (String × Json)) (key : String)

/-- What may come next in the innermost container. -/
inductive Expect where
  /-- A value, or the end of a list that is still empty. -/
  | first
  /-- A value. -/
  | value
  /-- A separator or the end. -/
  | next
  /-- A key. -/
  | key
  /-- A key, or the end of an object that is still empty. -/
  | firstKey
  /-- The colon behind a key. -/
  | colon

/-- How far the reading has come. -/
structure Progress where
  stack : List Frame
  expect : Expect
  /-- The value of the whole text, once it is complete. -/
  result : Option Json

/-- The greatest depth of nesting. -/
def maxDepth : Nat := 127

/-- Puts a complete value where one is expected. -/
def Progress.push (p : Progress) (v : Json) : Option Progress :=
  match p.stack with
  | [] => some ⟨[], .next, some v⟩
  | .items done :: outer => some ⟨.items (v :: done) :: outer, .next, none⟩
  | .awaiting done key :: outer => some ⟨.fields ((key, v) :: done) :: outer, .next, none⟩
  | .fields _ :: _ => none

/-- Whether a value may come next. -/
def Expect.wantsValue : Expect → Bool
  | .first | .value => true
  | _ => false

/-- Takes one more token. -/
def Progress.step (p : Progress) (t : Token) : Option Progress :=
  match t with
  | .scalar v =>
    if p.expect.wantsValue then p.push v
    else match p.expect, p.stack, v with
      | .key, .fields done :: outer, .text k
      | .firstKey, .fields done :: outer, .text k => some ⟨.awaiting done k :: outer, .colon, none⟩
      | _, _, _ => none
  | .openList =>
    if p.expect.wantsValue ∧ p.stack.length < maxDepth then
      some ⟨.items [] :: p.stack, .first, none⟩
    else none
  | .openObject =>
    if p.expect.wantsValue ∧ p.stack.length < maxDepth then
      some ⟨.fields [] :: p.stack, .firstKey, none⟩
    else none
  | .closeList =>
    match p.stack, p.expect with
    | .items done :: outer, .first
    | .items done :: outer, .next => Progress.push { p with stack := outer } (.list done.reverse)
    | _, _ => none
  | .closeObject =>
    match p.stack, p.expect with
    | .fields done :: outer, .firstKey
    | .fields done :: outer, .next =>
      Progress.push { p with stack := outer } (ofFields done.reverse)
    | _, _ => none
  | .colon =>
    match p.expect with
    | .colon => some { p with expect := .value }
    | _ => none
  | .comma =>
    match p.stack, p.expect with
    | .items _ :: _, .next => some { p with expect := .value }
    | .fields _ :: _, .next => some { p with expect := .key }
    | _, _ => none

/-- Takes all tokens. -/
def Progress.run (p : Progress) : List Token → Option Progress
  | [] => some p
  | t :: rest => (p.step t).bind fun next => Progress.run next rest

/-- The value that a text stands for. -/
def read? (s : String) : Option Json := do
  let tokens ← tokens? s.toList
  let final ← Progress.run ⟨[], .value, none⟩ tokens
  final.result

end ResourceGraph.Json
