/-!
The exact value of a double: a whole number times a power of two.
-/

namespace ResourceGraph.Decimal

/-- A finite value `significand * 2 ^ exponent`, negative or not. `narrow` tells that the double
below it lies only half as far away as the one above it. -/
structure Binary where
  negative : Bool
  significand : Nat
  exponent : Int
  narrow : Bool

/-- The bit that a significand has but for the least doubles, and that is not written. -/
def hiddenBit : Nat := 0x10000000000000

/-- The value of a double; nothing for infinities and the values that are no number. -/
def Binary.ofFloat? (x : Float) : Option Binary :=
  let bits : Nat := x.toBits.toNat
  let negative := 0x8000000000000000 ≤ bits
  let field : Nat := bits / hiddenBit % 0x800
  let fraction : Nat := bits % hiddenBit
  if field = 2047 then none
  else if field = 0 then some ⟨negative, fraction, -1074, false⟩
  else some ⟨negative, hiddenBit + fraction, (field : Int) - 1075, fraction = 0 ∧ 1 < field⟩

end ResourceGraph.Decimal
