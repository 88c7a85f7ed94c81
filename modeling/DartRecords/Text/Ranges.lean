/-!
# Tables of code points

Character classes are given as ascending lists of closed ranges of code points.
-/

namespace DartRecords.Text

/-- Whether a number lies in one of the ranges of an ascending table. -/
def inRanges : List (Nat × Nat) → Nat → Bool
  | [], _ => false
  | (lo, hi) :: rest, n => if n < lo then false else n ≤ hi || inRanges rest n

end DartRecords.Text
