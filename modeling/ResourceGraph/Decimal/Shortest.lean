import ResourceGraph.Decimal.Binary

/-!
The fewest decimal digits that read back as a given double, and of those the nearest. For each
number of digits only the two grid points around the value can do, since the doubles that read
back form an interval around it.
-/

namespace ResourceGraph.Decimal

/-- The digits `digits`, of which the first stands for `10 ^ exponent`. -/
structure Scientific where
  digits : List Nat
  exponent : Int

/-- `b ^ e` for a whole exponent, one for a negative one. -/
def powNat (b : Nat) (e : Int) : Nat :=
  Nat.pow b e.toNat

/-- The decimal digits of a number, most significant first. -/
def digitsOf (n : Nat) : List Nat :=
  (Nat.toDigits 10 n).map fun c => c.toNat - '0'.toNat

/-- The exponent of the first digit of `num / den`, which is not zero. At most `fuel` places
behind the point are tried. -/
def leadingExponent (fuel : Nat) (num den : Nat) : Int :=
  if den ≤ num then ((digitsOf (num / den)).length : Int) - 1
  else match fuel with
    | 0 => 0
    | fuel + 1 => leadingExponent fuel (num * 10) den - 1

/-- The nearest point of the grid of `10 ^ grid` that reads back as `b`, if there is one: the
point is this number times `10 ^ grid`. Of two equally near points the even one is taken. -/
def nearestOnGrid? (b : Binary) (grid : Int) : Option Nat :=
  -- a point `d` and a quarter `k` of the last place are compared as `d * unit` and `k * quarter`
  let unit := powNat 10 grid * powNat 2 (-b.exponent) * 4
  let quarter := powNat 2 b.exponent * powNat 10 (-grid)
  let value := 4 * b.significand * quarter
  let low := (4 * b.significand - (if b.narrow then 1 else 2)) * quarter
  let high := (4 * b.significand + 2) * quarter
  let inside (d : Nat) : Bool :=
    if b.significand % 2 = 0 then low ≤ d * unit ∧ d * unit ≤ high
    else low < d * unit ∧ d * unit < high
  let below := value / unit
  let above := below + 1
  match inside below, inside above with
  | false, false => none
  | true, false => some below
  | false, true => some above
  | true, true =>
    let down := value - below * unit
    let up := above * unit - value
    if down < up then some below
    else if up < down then some above
    else if below % 2 = 0 then some below else some above

/-- Tries grids with `count`, `count + 1`, … digits, at most `fuel` of them. -/
def shortestFrom (b : Binary) (lead : Int) : Nat → Nat → Scientific
  | 0, _ => ⟨[0], 0⟩
  | fuel + 1, count =>
    let grid := lead - (count : Int) + 1
    match nearestOnGrid? b grid with
    | some point =>
      let digits := digitsOf point
      ⟨digits.reverse.dropWhile (· = 0) |>.reverse, grid + (digits.length : Int) - 1⟩
    | none => shortestFrom b lead fuel (count + 1)

/-- The fewest digits that read back as `b`; a single zero for zero. -/
def shortest (b : Binary) : Scientific :=
  if b.significand = 0 then ⟨[0], 0⟩
  else
    let lead := leadingExponent 400 (b.significand * powNat 2 b.exponent) (powNat 2 (-b.exponent))
    shortestFrom b lead 20 1

end ResourceGraph.Decimal
