import ResourceGraph.Text.Lines

/-!
Writing TOML values. A string is written in the plainest form that holds it: in double quotes, in
single quotes if it holds a double quote or a backslash, and in triple quotes if it holds line feeds
or quotes of both kinds; where none of these holds it as it is, its characters are escaped.
-/

namespace ResourceGraph.Toml

open Text

/-- The length of the longest run of a character; `run` is that of the run just before. -/
def longestRun (c : Char) (run : Nat) : List Char → Nat
  | [] => run
  | d :: rest => if d = c then longestRun c (run + 1) rest else max run (longestRun c 0 rest)

/-- Whether a character has to be escaped wherever it stands. -/
def needsEscape (c : Char) : Bool :=
  (c.toNat < 0x20 && c ≠ '\t' && c ≠ '\n') || c.toNat = 0x7f

/-- A hexadecimal digit in capitals. -/
def hexDigit (n : Nat) : Char :=
  (Nat.digitChar n).toUpper

/-- A character within double quotes. -/
def escapeChar (c : Char) : List Char :=
  if c = '\\' then ['\\', '\\']
  else if c = Char.ofNat 8 then ['\\', 'b']
  else if c = '\t' then ['\\', 't']
  else if c = '\n' then ['\\', 'n']
  else if c = Char.ofNat 12 then ['\\', 'f']
  else if c = '\r' then ['\\', 'r']
  else if c.toNat < 0x20 ∨ c.toNat = 0x7f then
    ['\\', 'u', '0', '0', hexDigit (c.toNat / 16), hexDigit (c.toNat % 16)]
  else [c]

/-- The text of a string within double quotes. At most `allowed` quotes may follow each other as
they are, and line feeds stay as they are if `long` says so; `run` quotes stand in front. -/
def escapeFrom (allowed : Nat) (long : Bool) (run : Nat) : List Char → List Char
  | [] => []
  | c :: rest =>
    if c = '"' then
      if run < allowed then c :: escapeFrom allowed long (run + 1) rest
      else '\\' :: c :: escapeFrom allowed long 0 rest
    else if c = '\n' ∧ long then c :: escapeFrom allowed long 0 rest
    else escapeChar c ++ escapeFrom allowed long 0 rest

/-- A string in the plainest form that holds it. -/
def writeString (s : String) : String :=
  let cs := s.toList
  let escapes := cs.any needsEscape
  let backslash := cs.contains '\\'
  let long := cs.contains '\n'
  let singles := longestRun '\'' 0 cs
  let doubles := longestRun '"' 0 cs
  let opening := if long then ['\n'] else []
  let text :=
    if !escapes && !backslash && doubles = 0 && !long then '"' :: escapeFrom 0 false 0 cs ++ ['"']
    else if !escapes && singles = 0 && !long then '\'' :: cs ++ ['\'']
    else if !escapes && !backslash && doubles ≤ 2 then
      ['"', '"', '"'] ++ opening ++ escapeFrom 2 true 0 cs ++ ['"', '"', '"']
    else if !escapes && singles ≤ 2 then
      ['\'', '\'', '\''] ++ opening ++ cs ++ ['\'', '\'', '\'']
    else if long then ['"', '"', '"', '\n'] ++ escapeFrom 2 true 0 cs ++ ['"', '"', '"']
    else '"' :: escapeFrom 0 false 0 cs ++ ['"']
  String.ofList text

/-- A list of strings: one with several of them has each on a line of its own. -/
def writeStrings (items : List String) : String :=
  match items with
  | [] => "[]"
  | [s] => "[" ++ writeString s ++ "]"
  | _ => "[\n" ++ String.join (items.map fun s => "    " ++ writeString s ++ ",\n") ++ "]"

end ResourceGraph.Toml
