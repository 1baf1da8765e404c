import ResourceGraph.Json.Value

/-!
The tokens of a JSON text. Numbers become values here: a number with a fraction, an exponent or
too many digits is read from the digits that fit 64 bits and a power of ten, with one rounding for
each of the two.
-/

namespace ResourceGraph.Json

/-- A token: a bracket, a separator, or a value without parts. -/
inductive Token where
  | openList
  | closeList
  | openObject
  | closeObject
  | colon
  | comma
  | scalar (value : Json)

/-- The four blanks that may stand between tokens. -/
def isSpace (c : Char) : Bool :=
  c = ' ' || c = '\t' || c = '\n' || c = '\r'

/-- The value of a hexadecimal digit. -/
def hexValue? (c : Char) : Option Nat :=
  if '0' ≤ c ∧ c ≤ '9' then some (c.toNat - '0'.toNat)
  else if 'a' ≤ c ∧ c ≤ 'f' then some (c.toNat - 'a'.toNat + 10)
  else if 'A' ≤ c ∧ c ≤ 'F' then some (c.toNat - 'A'.toNat + 10)
  else none

/-- The number that four hexadecimal digits stand for. -/
def hexUnit? (a b c d : Char) : Option Nat := do
  return (((← hexValue? a) * 16 + (← hexValue? b)) * 16 + (← hexValue? c)) * 16 + (← hexValue? d)

/-- The character behind a backslash in an escape of two characters. -/
def shortEscape? (c : Char) : Option Char :=
  if c = '"' ∨ c = '\\' ∨ c = '/' then some c
  else if c = 'b' then some (Char.ofNat 8)
  else if c = 'f' then some (Char.ofNat 12)
  else if c = 'n' then some '\n'
  else if c = 'r' then some '\r'
  else if c = 't' then some '\t'
  else none

/-- A character put in front of what the rest of a string reads as. -/
def pushChar (c : Char) (r : Option (List Char × List Char)) : Option (List Char × List Char) :=
  r.map fun (cs, rest) => (c :: cs, rest)

/-- The characters of a string behind its opening quote, and the text behind its closing quote. A
pair of surrogate escapes is one character; a lone one, and a bare control character, is refused. -/
def stringBody : List Char → Option (List Char × List Char)
  | [] => none
  | '"' :: rest => some ([], rest)
  | '\\' :: 'u' :: a :: b :: c :: d :: rest =>
    match hexUnit? a b c d with
    | none => none
    | some high =>
      if 0xd800 ≤ high ∧ high < 0xdc00 then
        match rest with
        | '\\' :: 'u' :: e :: f :: g :: h :: after =>
          match hexUnit? e f g h with
          | none => none
          | some low =>
            if 0xdc00 ≤ low ∧ low < 0xe000 then
              pushChar (Char.ofNat (0x10000 + (high - 0xd800) * 0x400 + (low - 0xdc00)))
                (stringBody after)
            else none
        | _ => none
      else if 0xdc00 ≤ high ∧ high < 0xe000 then none
      else pushChar (Char.ofNat high) (stringBody rest)
  | '\\' :: c :: rest =>
    match shortEscape? c with
    | none => none
    | some e => pushChar e (stringBody rest)
  | c :: rest => if c.toNat < 0x20 ∨ c = '\\' then none else pushChar c (stringBody rest)

/-- The power of ten as a double. -/
def tenPow (n : Nat) : Float :=
  Float.ofScientific 1 false n

/-- `x * 10 ^ exponent` with one rounding. Exponents beyond 308 are refused unless the value is
zero; those below -308 are reached by dividing by `10 ^ 308` first. -/
def scaleTen (x : Float) (exponent : Int) : Option Float :=
  if exponent.natAbs ≤ 308 then
    if 0 ≤ exponent then
      let scaled := x * tenPow exponent.toNat
      if scaled.isInf then none else some scaled
    else some (x / tenPow exponent.natAbs)
  else if x == 0.0 then some x
  else if 0 ≤ exponent then none
  else scaleTen (x / tenPow 308) (exponent + 308)
termination_by exponent.natAbs

/-- The double of the given sign, digits and power of ten. -/
def realOf (negative : Bool) (significand : Nat) (exponent : Int) : Option Json :=
  (scaleTen significand.toUInt64.toFloat exponent).map fun x => .real (if negative then -x else x)

/-- The largest number of 64 bits. -/
def maxUnsigned : Nat := 0xffffffffffffffff

/-- Appends digits to a significand as long as it fits 64 bits; also tells the number of digits
that were used and whether some were left over. -/
def takeDigits (significand : Nat) : List Char → Nat × Nat × Bool
  | [] => (significand, 0, false)
  | d :: rest =>
    let next := significand * 10 + (d.toNat - '0'.toNat)
    if maxUnsigned < next then (significand, 0, true)
    else
      let (final, used, left) := takeDigits next rest
      (final, used + 1, left)

/-- The exponent part behind a number, if one starts here. An exponent that does not fit 32 bits
gives zero, or an error if it is positive and the number is not zero. -/
def exponentPart (negative : Bool) (significand : Nat) (shift : Int) (cs : List Char) :
    Option (Json × List Char) :=
  match cs with
  | [] => (realOf negative significand shift).map (·, [])
  | e :: rest =>
    if e = 'e' ∨ e = 'E' then
      let (down, digits) := match rest with
        | '+' :: more => (false, more)
        | '-' :: more => (true, more)
        | _ => (false, rest)
      let run := digits.takeWhile Char.isDigit
      let after := digits.dropWhile Char.isDigit
      if run.isEmpty then none
      else
        let written := run.foldl (fun n d => n * 10 + (d.toNat - '0'.toNat)) 0
        if 0x80000000 ≤ written then
          if significand ≠ 0 ∧ !down then none
          else some (.real (if negative then -0.0 else 0.0), after)
        else
          let exponent : Int := if down then shift - written else shift + written
          (realOf negative significand exponent).map (·, after)
    else (realOf negative significand shift).map (·, cs)

/-- A number at the start of a text, behind its minus sign if it has one. -/
def number (negative : Bool) (cs : List Char) : Option (Json × List Char) :=
  let whole := cs.takeWhile Char.isDigit
  let rest := cs.dropWhile Char.isDigit
  if whole.isEmpty ∨ (whole.head? = some '0' ∧ 1 < whole.length) then none
  else
    let (significand, used, _) := takeDigits 0 whole
    let dropped := whole.length - used
    match rest with
    | '.' :: more =>
      let fraction := more.takeWhile Char.isDigit
      if fraction.isEmpty then none
      else
        let (final, places, _) := takeDigits significand fraction
        exponentPart negative final ((dropped : Int) - places) (more.dropWhile Char.isDigit)
    | _ =>
      if rest.head? = some 'e' ∨ rest.head? = some 'E' ∨ dropped ≠ 0 then
        exponentPart negative significand dropped rest
      else if !negative then some (.int significand, rest)
      else if significand = 0 ∨ 0x8000000000000000 < significand then
        (realOf true significand 0).map (·, rest)
      else some (.int (-significand), rest)

/-- A word of the format. -/
def keyword? (cs : List Char) : Option (Json × List Char) :=
  match cs with
  | 'n' :: 'u' :: 'l' :: 'l' :: rest => some (.null, rest)
  | 't' :: 'r' :: 'u' :: 'e' :: rest => some (.bool true, rest)
  | 'f' :: 'a' :: 'l' :: 's' :: 'e' :: rest => some (.bool false, rest)
  | _ => none

/-- The token at the start of a text that begins with `c`, which is no blank. -/
def token? (c : Char) (rest : List Char) : Option (Token × List Char) :=
  match c with
  | '[' => some (.openList, rest)
  | ']' => some (.closeList, rest)
  | '{' => some (.openObject, rest)
  | '}' => some (.closeObject, rest)
  | ':' => some (.colon, rest)
  | ',' => some (.comma, rest)
  | '"' => (stringBody rest).map fun (cs, after) => (.scalar (.text (String.ofList cs)), after)
  | '-' => (number true rest).map fun (v, after) => (.scalar v, after)
  | _ =>
    if c.isDigit then (number false (c :: rest)).map fun (v, after) => (.scalar v, after)
    else (keyword? (c :: rest)).map fun (v, after) => (.scalar v, after)

/-- The tokens of a text; nothing if some part of it is no token. -/
def tokens? (cs : List Char) : Option (List Token) :=
  match cs with
  | [] => some []
  | c :: rest =>
    if isSpace c then tokens? rest
    else match token? c rest with
      | none => none
      | some (t, after) =>
        if after.length ≤ rest.length then (tokens? after).map (t :: ·) else none
termination_by cs.length

end ResourceGraph.Json
