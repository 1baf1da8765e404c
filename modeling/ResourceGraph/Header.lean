import ResourceGraph.Block
import ResourceGraph.Text.Blank
import ResourceGraph.Text.Find

/-!
Headers of declarations: a keyword at the start of a line, labels in quotes, and an opening brace.
Spaces and tabs separate them.
-/

namespace ResourceGraph

open Text

namespace Header

/-- Drops spaces and tabs; tells how many there were. -/
def dropInline (cs : List Char) : Nat × List Char :=
  ((cs.takeWhile isInlineBlank).length, cs.dropWhile isInlineBlank)

/-- A label in quotes, which holds at least one character and no quote. -/
def label? (cs : List Char) : Option (List Char × List Char) :=
  match cs with
  | '"' :: rest =>
    match rest.takeWhile (· ≠ '"'), rest.dropWhile (· ≠ '"') with
    | c :: name, _ :: after => some (c :: name, after)
    | _, _ => none
  | _ => none

/-- Labels in quotes, each behind at least one blank. -/
def labels? : Nat → List Char → Option (List (List Char) × List Char)
  | 0, cs => some ([], cs)
  | n + 1, cs =>
    match dropInline cs with
    | (0, _) => none
    | (_ + 1, rest) =>
      match label? rest with
      | none => none
      | some (name, after) => (labels? n after).map fun (names, rest) => (name :: names, rest)

/-- An opening brace, possibly behind blanks. -/
def openBrace? (cs : List Char) : Option (List Char) :=
  match (dropInline cs).2 with
  | '{' :: rest => some rest
  | _ => none

/-- A keyword, the given number of labels and an opening brace; the text behind the brace is left. -/
def body? (keyword : String) (labels : Nat) (cs : List Char) :
    Option (List (List Char) × List Char) := do
  let rest ← dropWord? cs keyword.toList
  let (names, rest) ← labels? labels rest
  let rest ← openBrace? rest
  return (names, rest)

/-- The header of a declaration. It starts with the blanks that indent its line and ends with the
brace; what it reads are its labels. -/
def pattern (keyword : String) (labels : Nat) : Pattern (List String) := fun before cs =>
  if startsLine before then
    match body? keyword labels (dropInline cs).2 with
    | some (names, rest) => some (names.map String.ofList, cs.length - rest.length)
    | none => none
  else none

/-- A keyword and an opening brace, anywhere. -/
def loosePattern (keyword : String) : Pattern Unit := fun _ cs =>
  match body? keyword 0 cs with
  | some (_, rest) => some ((), cs.length - rest.length)
  | none => none

/-- The block that the header of a match opens. -/
def block (m : Match α) : Block :=
  Block.ofBody 0 (m.tail.drop m.length)

end Header

/-- A resource with the text of its block. -/
structure ResourceBlock where
  /-- The address of the resource. -/
  id : String
  /-- The header, with the blanks in front of it, and the block. -/
  text : List Char
  terminated : Bool

/-- The header of a resource. -/
def resourceHeader : Pattern (List String) :=
  Header.pattern "resource" 2

/-- The resource that a header opens. -/
def ResourceBlock.ofMatch? (m : Match (List String)) : Option ResourceBlock :=
  match m.value with
  | [type, name] =>
    let b := Header.block m
    some ⟨type ++ "." ++ name, m.tail.take m.length ++ b.tail, b.terminated⟩
  | _ => none

/-- The resources of a text, in order. -/
def resourceBlocks (cs : List Char) : List ResourceBlock :=
  (findAll resourceHeader cs).filterMap ResourceBlock.ofMatch?

end ResourceGraph
