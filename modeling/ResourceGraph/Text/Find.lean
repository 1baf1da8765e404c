/-!
Finding the places where a pattern matches. A pattern looks at the character in front of a place
and at the text from there on; if it matches it tells what it read and how many characters it
took. Places are tried from left to right, and the search goes on behind each match.
-/

namespace ResourceGraph.Text

/-- A pattern: the character in front and the text from here on give what is read and the number
of characters it takes. -/
abbrev Pattern (α : Type) := Option Char → List Char → Option (α × Nat)

/-- A place where a pattern matched. -/
structure Match (α : Type) where
  /-- What the pattern read. -/
  value : α
  /-- The number of characters in front of the match. -/
  start : Nat
  /-- The number of characters it takes. -/
  length : Nat
  /-- The text from the start of the match to the end of the whole text. -/
  tail : List Char

/-- The matches in `cs`, which stands behind `before` at position `pos`; the first `skip`
characters belong to an earlier match. -/
def findFrom (p : Pattern α) : Option Char → Nat → Nat → List Char → List (Match α)
  | _, _, _, [] => []
  | _, pos, skip + 1, c :: cs => findFrom p (some c) (pos + 1) skip cs
  | before, pos, 0, c :: cs =>
    match p before (c :: cs) with
    | some (value, length) =>
      ⟨value, pos, length, c :: cs⟩ :: findFrom p (some c) (pos + 1) (length - 1) cs
    | none => findFrom p (some c) (pos + 1) 0 cs

/-- All matches of a pattern in a text, from left to right and without overlap. -/
def findAll (p : Pattern α) (cs : List Char) : List (Match α) :=
  findFrom p none 0 0 cs

/-- Whether a line starts behind `before`. -/
def startsLine (before : Option Char) : Bool :=
  match before with
  | none => true
  | some c => c = '\n'

end ResourceGraph.Text
