/-!
Classes of code points, given as increasing lists of closed ranges.
-/

namespace ResourceGraph.Text

/-- Whether `n` lies in one of the ranges. The ranges increase, so one that starts above `n`
ends the search. -/
def inRanges : List (Nat × Nat) → Nat → Bool
  | [], _ => false
  | (low, high) :: rest, n =>
    if n < low then false
    else if n ≤ high then true
    else inRanges rest n

end ResourceGraph.Text
