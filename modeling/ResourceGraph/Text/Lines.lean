/-!
Cutting a text at a character, and into lines. A line ends at a line feed; a carriage return in
front of that line feed belongs to the ending.
-/

namespace ResourceGraph.Text

/-- The parts of a text between the occurrences of `sep`; one part more than occurrences. -/
def split (sep : Char) : List Char → List (List Char)
  | [] => [[]]
  | c :: rest =>
    if c = sep then [] :: split sep rest
    else match split sep rest with
      | [] => [[c]]
      | part :: parts => (c :: part) :: parts

/-- The parts in front of and behind the first occurrence of `sep`. -/
def splitOnce (sep : Char) : List Char → Option (List Char × List Char)
  | [] => none
  | c :: rest =>
    if c = sep then some ([], rest)
    else (splitOnce sep rest).map fun (front, back) => (c :: front, back)

/-- A line without the carriage return at its end. -/
def dropReturn (cs : List Char) : List Char :=
  match cs.reverse with
  | '\r' :: rest => rest.reverse
  | _ => cs

/-- The lines among the parts between line feeds: the last part is a line only if it holds
anything, and it alone keeps a carriage return at its end. -/
def linesOfParts : List (List Char) → List (List Char)
  | [] => []
  | [last] => if last.isEmpty then [] else [last]
  | part :: parts => dropReturn part :: linesOfParts parts

/-- The lines of a text, without their endings. -/
def lines (cs : List Char) : List (List Char) :=
  linesOfParts (split '\n' cs)

/-- The parts joined by `sep`. -/
def joinWith (sep : List Char) : List (List Char) → List Char
  | [] => []
  | [part] => part
  | part :: parts => part ++ sep ++ joinWith sep parts

/-- Whether `word` stands at the start of the text. -/
def startsWith : List Char → List Char → Bool
  | _, [] => true
  | [], _ :: _ => false
  | c :: cs, w :: ws => c = w && startsWith cs ws

/-- The text behind `word`, if the text starts with it. -/
def dropWord? : List Char → List Char → Option (List Char)
  | cs, [] => some cs
  | [], _ :: _ => none
  | c :: cs, w :: ws => if c = w then dropWord? cs ws else none

/-- Whether `word` occurs in the text. -/
def occurs (word : List Char) : List Char → Bool
  | [] => word.isEmpty
  | c :: cs => startsWith (c :: cs) word || occurs word cs

/-- Whether `word` occurs in `s`. -/
def contains (s word : String) : Bool :=
  occurs word.toList s.toList

/-- The number of bytes of a text in UTF-8. -/
def byteLength : List Char → Nat
  | [] => 0
  | c :: cs => c.utf8Size + byteLength cs

/-- The text behind its first `n` bytes; nothing if the text is shorter or a character lies
across that place. -/
def dropBytes? : List Char → Nat → Option (List Char)
  | cs, 0 => some cs
  | [], _ + 1 => none
  | c :: cs, n => if c.utf8Size ≤ n then dropBytes? cs (n - c.utf8Size) else none

end ResourceGraph.Text
