import ResourceGraph.Decimal.Shortest

/-!
Writing decimal digits: with a point among them, or with an exponent behind them, and with a fixed
number of places.
-/

namespace ResourceGraph.Decimal

/-- How the shortest digits of a number are written. -/
structure Layout where
  /-- The least exponent of the first digit that is written without an exponent. -/
  lowestPlain : Int
  /-- The greatest such exponent. -/
  highestPlain : Int
  /-- What is put between the digits and a positive exponent, and a negative one. -/
  positiveMark : String
  negativeMark : String

/-- The characters of some digits. -/
def digitChars (digits : List Nat) : List Char :=
  digits.map Nat.digitChar

/-- Digits of which the first stands for `10 ^ exponent`, with a point and at least one digit on
either side of it. -/
def plain (digits : List Nat) (exponent : Int) : List Char :=
  if exponent < 0 then
    '0' :: '.' :: List.replicate (-exponent - 1).toNat '0' ++ digitChars digits
  else
    let whole := exponent.toNat + 1
    let front := digits.take whole
    let back := digits.drop whole
    digitChars front ++ List.replicate (whole - front.length) '0' ++ '.' ::
      (if back.isEmpty then ['0'] else digitChars back)

/-- Digits with an exponent: a point stands behind the first digit if there are more. -/
def Layout.withExponent (l : Layout) (digits : List Nat) (exponent : Int) : List Char :=
  let mantissa := match digitChars digits with
    | [] => ['0']
    | [d] => [d]
    | d :: rest => d :: '.' :: rest
  let mark := if exponent < 0 then l.negativeMark else l.positiveMark
  mantissa ++ mark.toList ++ (toString exponent.natAbs).toList

/-- The text of a finite value. -/
def Layout.write (l : Layout) (b : Binary) : String :=
  let s := shortest b
  let body :=
    if l.lowestPlain ≤ s.exponent ∧ s.exponent ≤ l.highestPlain then plain s.digits s.exponent
    else l.withExponent s.digits s.exponent
  String.ofList (if b.negative then '-' :: body else body)

/-- The whole number nearest to `num / den`; of two equally near ones the even one. -/
def roundDiv (num den : Nat) : Nat :=
  let down := num / den
  let rest := 2 * (num % den)
  if rest < den then down
  else if den < rest then down + 1
  else if down % 2 = 0 then down else down + 1

/-- The text of a finite value with two places behind the point. The exact value is rounded, a
half to the even neighbour. -/
def twoPlaces (b : Binary) : String :=
  let hundredths := roundDiv (b.significand * powNat 2 b.exponent * 100) (powNat 2 (-b.exponent))
  let places := toString (hundredths % 100)
  let body := toString (hundredths / 100) ++ "." ++ (if hundredths % 100 < 10 then "0" else "") ++ places
  if b.negative then "-" ++ body else body

end ResourceGraph.Decimal
