import ResourceGraph.Toml.Value

/-!
Reading the simple values of TOML: strings in their four forms, numbers, truth values and times.
A reader gives what it reads and the text behind it.
-/

namespace ResourceGraph.Toml

/-- A reader. -/
abbrev Reader (α : Type) := List Char → Option (α × List Char)

/-- Tab and space. -/
def isInline (c : Char) : Bool :=
  c = ' ' || c = '\t'

/-- The text behind its leading tabs and spaces. -/
def skipInline (cs : List Char) : List Char :=
  cs.dropWhile isInline

/-- Whether a character may stand in a comment or a string: no control character but the tab. -/
def isPrintable (c : Char) : Bool :=
  c = '\t' || (0x20 ≤ c.toNat && c.toNat ≠ 0x7f)

/-- The value of a digit in a base up to sixteen. -/
def digit? (base : Nat) (c : Char) : Option Nat :=
  let value :=
    if '0' ≤ c ∧ c ≤ '9' then c.toNat - '0'.toNat
    else if 'a' ≤ c ∧ c ≤ 'f' then c.toNat - 'a'.toNat + 10
    else if 'A' ≤ c ∧ c ≤ 'F' then c.toNat - 'A'.toNat + 10
    else 16
  if value < base then some value else none

/-- The character with the given hexadecimal code. -/
def codeChar? (digits : List Char) : Option Char := do
  let values ← digits.mapM (digit? 16)
  let code := values.foldl (fun n d => n * 16 + d) 0
  if code < 0xd800 ∨ (0xe000 ≤ code ∧ code < 0x110000) then some (Char.ofNat code) else none

/-- The character behind a backslash in an escape of two characters. -/
def shortEscape? (c : Char) : Option Char :=
  if c = '"' ∨ c = '\\' then some c
  else if c = 'b' then some (Char.ofNat 8)
  else if c = 'f' then some (Char.ofNat 12)
  else if c = 'n' then some '\n'
  else if c = 'r' then some '\r'
  else if c = 't' then some '\t'
  else none

/-- A character put in front of what a reader gives. -/
def push (c : Char) (r : Option (List Char × List Char)) : Option (List Char × List Char) :=
  r.map fun (cs, rest) => (c :: cs, rest)

/-- The rest of a string in double quotes on one line. -/
def basicBody : Reader (List Char)
  | [] => none
  | '"' :: rest => some ([], rest)
  | '\\' :: 'u' :: a :: b :: c :: d :: rest =>
    match codeChar? [a, b, c, d] with
    | some x => push x (basicBody rest)
    | none => none
  | '\\' :: 'U' :: a :: b :: c :: d :: e :: f :: g :: h :: rest =>
    match codeChar? [a, b, c, d, e, f, g, h] with
    | some x => push x (basicBody rest)
    | none => none
  | '\\' :: c :: rest =>
    match shortEscape? c with
    | some x => push x (basicBody rest)
    | none => none
  | c :: rest => if isPrintable c && c ≠ '\\' then push c (basicBody rest) else none

/-- The rest of a string in single quotes on one line. -/
def literalBody : Reader (List Char)
  | [] => none
  | '\'' :: rest => some ([], rest)
  | c :: rest => if isPrintable c then push c (literalBody rest) else none

/-- Whether a line ends here, tabs and spaces aside. -/
def endsLine (cs : List Char) : Bool :=
  match skipInline cs with
  | '\n' :: _ => true
  | '\r' :: '\n' :: _ => true
  | _ => false

/-- The rest of a string in triple double quotes. Up to two quotes may stand in front of the closing
ones. A backslash at the end of a line takes away all blanks and line endings behind it, which
`skipping` tells to do. -/
def longBasicBody (skipping : Bool) : Reader (List Char)
  | [] => none
  | '"' :: '"' :: '"' :: '"' :: '"' :: rest => some (['"', '"'], rest)
  | '"' :: '"' :: '"' :: '"' :: rest => some (['"'], rest)
  | '"' :: '"' :: '"' :: rest => some ([], rest)
  | '\r' :: '\n' :: rest =>
    if skipping then longBasicBody true rest else push '\n' (longBasicBody false rest)
  | '\\' :: 'u' :: a :: b :: c :: d :: rest =>
    match codeChar? [a, b, c, d] with
    | some x => push x (longBasicBody false rest)
    | none => none
  | '\\' :: 'U' :: a :: b :: c :: d :: e :: f :: g :: h :: rest =>
    match codeChar? [a, b, c, d, e, f, g, h] with
    | some x => push x (longBasicBody false rest)
    | none => none
  | '\\' :: c :: rest =>
    if endsLine (c :: rest) then longBasicBody true rest
    else match shortEscape? c with
      | some x => push x (longBasicBody false rest)
      | none => none
  | c :: rest =>
    if skipping && (isInline c || c = '\n') then longBasicBody true rest
    else if c = '\n' then push '\n' (longBasicBody false rest)
    else if isPrintable c && c ≠ '\\' then push c (longBasicBody false rest)
    else none

/-- The rest of a string in triple single quotes. -/
def longLiteralBody : Reader (List Char)
  | [] => none
  | '\'' :: '\'' :: '\'' :: '\'' :: '\'' :: rest => some (['\'', '\''], rest)
  | '\'' :: '\'' :: '\'' :: '\'' :: rest => some (['\''], rest)
  | '\'' :: '\'' :: '\'' :: rest => some ([], rest)
  | '\r' :: '\n' :: rest => push '\n' (longLiteralBody rest)
  | c :: rest =>
    if c = '\n' ∨ isPrintable c then push c (longLiteralBody rest) else none

/-- The text behind a line ending that it starts with; it is the whole text if it starts with
none. -/
def dropNewline : List Char → List Char
  | '\n' :: rest => rest
  | '\r' :: '\n' :: rest => rest
  | cs => cs

/-- A string on one line. -/
def shortString : Reader String
  | '"' :: rest => (basicBody rest).map fun (cs, after) => (String.ofList cs, after)
  | '\'' :: rest => (literalBody rest).map fun (cs, after) => (String.ofList cs, after)
  | _ => none

/-- A string. A line ending right behind triple quotes does not count. -/
def string : Reader String
  | '"' :: '"' :: '"' :: rest =>
    (longBasicBody false (dropNewline rest)).map fun (cs, after) => (String.ofList cs, after)
  | '\'' :: '\'' :: '\'' :: rest =>
    (longLiteralBody (dropNewline rest)).map fun (cs, after) => (String.ofList cs, after)
  | cs => shortString cs

/-- Digits of a base behind a first one; single underscores may stand between digits. -/
def moreDigits (base : Nat) : List Char → List Nat × List Char
  | '_' :: c :: rest =>
    match digit? base c with
    | some d => let (ds, after) := moreDigits base rest; (d :: ds, after)
    | none => ([], '_' :: c :: rest)
  | c :: rest =>
    match digit? base c with
    | some d => let (ds, after) := moreDigits base rest; (d :: ds, after)
    | none => ([], c :: rest)
  | [] => ([], [])

/-- At least one digit of a base. -/
def someDigits (base : Nat) : Reader (List Nat)
  | c :: rest => do
    let d ← digit? base c
    let (ds, after) := moreDigits base rest
    return (d :: ds, after)
  | [] => none

/-- The number that digits stand for. -/
def ofDigits (base : Nat) (digits : List Nat) : Nat :=
  digits.foldl (fun n d => n * base + d) 0

/-- A sign, or none. -/
def sign (cs : List Char) : Bool × List Char :=
  match cs with
  | '-' :: rest => (true, rest)
  | '+' :: rest => (false, rest)
  | _ => (false, cs)

/-- Decimal digits without a leading zero. -/
def wholeDigits : Reader (List Nat)
  | '0' :: rest => some ([0], rest)
  | cs => someDigits 10 cs

/-- A whole number that fits 64 bits with a sign. -/
def fitted (negative : Bool) (n : Nat) : Option Value :=
  if negative then (if n ≤ 0x8000000000000000 then some (.int (-n)) else none)
  else if n < 0x8000000000000000 then some (.int n) else none

/-- A whole number, in decimal or behind the mark of another base. -/
def integer (cs : List Char) : Option (Value × List Char) :=
  let based (base : Nat) (rest : List Char) : Option (Value × List Char) := do
    let (ds, after) ← someDigits base rest
    return (← fitted false (ofDigits base ds), after)
  match cs with
  | '0' :: 'x' :: rest => based 16 rest
  | '0' :: 'o' :: rest => based 8 rest
  | '0' :: 'b' :: rest => based 2 rest
  | _ => do
    let (negative, rest) := sign cs
    let (ds, after) ← wholeDigits rest
    return (← fitted negative (ofDigits 10 ds), after)

/-- The exponent of a float. -/
def exponent : Reader Int
  | e :: rest => do
    if !(e = 'e' || e = 'E') then none
    let (negative, rest) := sign rest
    let (ds, after) ← someDigits 10 rest
    let n : Int := ofDigits 10 ds
    return (if negative then -n else n, after)
  | [] => none

/-- Whether a decimal number is too large for a double. -/
def overflows (digits : List Nat) (exponent : Int) : Bool :=
  let lead := digits.dropWhile (· = 0)
  let size := (lead.length : Int) + exponent
  if lead.isEmpty || size < 300 then false
  else if 310 < size then true
  else
    let m := ofDigits 10 digits
    (if exponent < 0 then Float.ofScientific m true exponent.natAbs
      else Float.ofScientific m false exponent.toNat).isInf

/-- A float: a fraction, an exponent or both, or one of the two words. -/
def float (cs : List Char) : Option (Value × List Char) :=
  let (negative, rest) := sign cs
  match rest with
  | 'i' :: 'n' :: 'f' :: after => some (.float, after)
  | 'n' :: 'a' :: 'n' :: after => some (.float, after)
  | _ => do
    let (whole, rest) ← wholeDigits rest
    let (fraction, rest) ← match rest with
      | '.' :: more => someDigits 10 more
      | _ => if rest.head? = some 'e' ∨ rest.head? = some 'E' then some ([], rest) else none
    let (power, rest) ← match rest with
      | c :: _ => if c = 'e' ∨ c = 'E' then exponent rest else some (0, rest)
      | [] => some (0, rest)
    if !negative && overflows (whole ++ fraction) (power - fraction.length) then none
    else some (.float, rest)

/-- A number of exactly `count` digits. -/
def fixedDigits (count : Nat) (cs : List Char) : Option (Nat × List Char) := do
  let front := cs.take count
  if front.length < count then none
  let ds ← front.mapM (digit? 10)
  return (ofDigits 10 ds, cs.drop count)

/-- A number of two digits in a range. -/
def twoDigits (low high : Nat) (cs : List Char) : Option (Nat × List Char) := do
  let (n, rest) ← fixedDigits 2 cs
  if low ≤ n ∧ n ≤ high then some (n, rest) else none

/-- The text behind a character. -/
def dropChar? (c : Char) : List Char → Option (List Char)
  | d :: rest => if c = d then some rest else none
  | [] => none

/-- The number of days of a month. -/
def daysIn (year month : Nat) : Nat :=
  let leap := year % 4 = 0 ∧ (year % 100 ≠ 0 ∨ year % 400 = 0)
  if month = 2 then (if leap then 29 else 28)
  else if month = 4 ∨ month = 6 ∨ month = 9 ∨ month = 11 then 30
  else 31

/-- A date. -/
def date (cs : List Char) : Option (List Char) := do
  let (year, rest) ← fixedDigits 4 cs
  let (month, rest) ← twoDigits 1 12 (← dropChar? '-' rest)
  let (_, rest) ← twoDigits 1 (daysIn year month) (← dropChar? '-' rest)
  return rest

/-- A time of the day. -/
def timeOfDay (cs : List Char) : Option (List Char) := do
  let (_, rest) ← twoDigits 0 23 cs
  let (_, rest) ← twoDigits 0 59 (← dropChar? ':' rest)
  let (_, rest) ← twoDigits 0 60 (← dropChar? ':' rest)
  match rest with
  | '.' :: more =>
    if (more.takeWhile Char.isDigit).isEmpty then none else some (more.dropWhile Char.isDigit)
  | _ => some rest

/-- The distance to universal time, if one is given. -/
def offset (cs : List Char) : Option (List Char) :=
  match cs with
  | 'Z' :: rest | 'z' :: rest => some rest
  | '+' :: rest | '-' :: rest => do
    let (_, rest) ← twoDigits 0 23 rest
    let (_, rest) ← twoDigits 0 59 (← dropChar? ':' rest)
    return rest
  | _ => some cs

/-- A date, a time, or both. -/
def dateTime (cs : List Char) : Option (Value × List Char) :=
  match date cs with
  | none => (timeOfDay cs).map (.time, ·)
  | some rest =>
    match rest with
    | c :: more =>
      if c = 'T' ∨ c = 't' ∨ c = ' ' then
        match timeOfDay more with
        | some after => (offset after).map (.time, ·)
        | none => some (.time, rest)
      else some (.time, rest)
    | [] => some (.time, rest)

/-- A value without parts. -/
def scalar (cs : List Char) : Option (Value × List Char) :=
  match cs with
  | '"' :: _ | '\'' :: _ => (string cs).map fun (s, rest) => (.text s, rest)
  | 't' :: 'r' :: 'u' :: 'e' :: rest => some (.bool true, rest)
  | 'f' :: 'a' :: 'l' :: 's' :: 'e' :: rest => some (.bool false, rest)
  | _ => dateTime cs <|> float cs <|> integer cs

end ResourceGraph.Toml
