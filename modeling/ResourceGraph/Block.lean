import ResourceGraph.Text.Blank
import ResourceGraph.Text.Lines

/-!
Blocks between braces. A block runs from an opening brace to the brace that closes it; braces are
counted wherever they stand. A block that nothing closes runs to the end of the text.
-/

namespace ResourceGraph

open Text

/-- A block, from behind its opening brace. -/
structure Block where
  /-- The text between the braces. -/
  body : List Char
  /-- The text behind the closing brace. -/
  rest : List Char
  /-- Whether there is a closing brace. -/
  terminated : Bool

namespace Block

/-- The block whose opening brace stands in front of the text, within `depth` more open braces. -/
def ofBody (depth : Nat) : List Char → Block
  | [] => ⟨[], [], false⟩
  | c :: rest =>
    if c = '}' ∧ depth = 0 then ⟨[], rest, true⟩
    else
      let inner := if c = '{' then depth + 1 else if c = '}' then depth - 1 else depth
      let b := ofBody inner rest
      { b with body := c :: b.body }

/-- The text behind the opening brace that belongs to the block. -/
def tail (b : Block) : List Char :=
  if b.terminated then b.body ++ ['}'] else b.body

/-- The whole text of the block, braces included. -/
def text (b : Block) : List Char :=
  '{' :: b.tail

end Block

/-- A block found in a text, by the offsets of its bytes. -/
structure Span where
  /-- The offset of the opening brace. -/
  start : Nat
  /-- The offset behind the block. -/
  stop : Nat
  block : Block

/-- The block that the first opening brace at or behind the offset `start` opens. There is none if
the offset lies behind the end or within a character, or if no brace follows. -/
def extractBlock? (cs : List Char) (start : Nat) : Option Span :=
  match dropBytes? cs start with
  | none => none
  | some rest =>
    match splitOnce '{' rest with
    | none => none
    | some (front, behind) =>
      let b := Block.ofBody 0 behind
      let first := start + byteLength front
      some ⟨first, first + byteLength b.text, b⟩

/-! ### Keys -/

/-- The characters of a key. -/
def isKeyChar (c : Char) : Bool :=
  c.isAlphanum || c = '_' || c = '-'

/-- Whether a key may start with a character. -/
def isKeyStart (c : Char) : Bool :=
  c.isAlpha || c = '_'

/-- The key that a line assigns to. A comment assigns to none, and neither does a comparison. -/
def assignedKey? (line : List Char) : Option String :=
  let cs := trimStart line
  if startsWith cs ['#'] || startsWith cs ['/', '/'] then none
  else
    let key := cs.takeWhile isKeyChar
    let rest := trimStart (cs.dropWhile isKeyChar)
    match key with
    | [] => none
    | c :: _ =>
      if isKeyStart c && startsWith rest ['='] && !startsWith rest ['=', '='] then
        some (String.ofList key)
      else none

/-- What a character adds to the depth of nesting. -/
def nesting (c : Char) : Int :=
  if c = '{' ∨ c = '[' ∨ c = '(' then 1
  else if c = '}' ∨ c = ']' ∨ c = ')' then -1
  else 0

/-- What a line adds to the depth of nesting. -/
def lineNesting : List Char → Int
  | [] => 0
  | c :: rest => nesting c + lineNesting rest

/-- The keys assigned on lines at which the depth is zero, for lines that start at `depth`. -/
def keysAt (depth : Int) : List (List Char) → List String
  | [] => []
  | line :: rest =>
    let keys := keysAt (depth + lineNesting line) rest
    if depth = 0 then (assignedKey? line).toList ++ keys else keys

/-- The keys that the body of a block assigns directly, not within a nested block. -/
def topLevelKeys (body : List Char) : List String :=
  keysAt 0 (lines body)

end ResourceGraph
