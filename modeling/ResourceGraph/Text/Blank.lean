import ResourceGraph.Text.Range

/-!
Blanks: the code points with the Unicode property White_Space, and trimming them off the ends of
a text.
-/

namespace ResourceGraph.Text

/-- The ranges of White_Space. -/
def blankRanges : List (Nat × Nat) :=
  [(0x9, 0xd), (0x20, 0x20), (0x85, 0x85), (0xa0, 0xa0), (0x1680, 0x1680), (0x2000, 0x200a),
   (0x2028, 0x2029), (0x202f, 0x202f), (0x205f, 0x205f), (0x3000, 0x3000)]

/-- Whether a character is a blank. -/
def isBlank (c : Char) : Bool :=
  inRanges blankRanges c.toNat

/-- A space or a tab: the only blanks that may indent or separate the words of a header. -/
def isInlineBlank (c : Char) : Bool :=
  c = ' ' || c = '\t'

/-- The text without its leading blanks. -/
def trimStart (cs : List Char) : List Char :=
  cs.dropWhile isBlank

/-- The text without its trailing blanks. -/
def trimEnd (cs : List Char) : List Char :=
  (cs.reverse.dropWhile isBlank).reverse

/-- The text without blanks at either end. -/
def trimChars (cs : List Char) : List Char :=
  trimEnd (trimStart cs)

/-- A string without blanks at either end. -/
def trim (s : String) : String :=
  String.ofList (trimChars s.toList)

end ResourceGraph.Text
