/-!
Sets of characters given by ranges of code points.
-/

set_option autoImplicit false

namespace LispHost.Text

/-- Whether a code point lies in one of the ranges, bounds included. -/
def inRanges (ranges : List (Nat × Nat)) (n : Nat) : Bool :=
  ranges.any fun range => decide (range.1 ≤ n) && decide (n ≤ range.2)

end LispHost.Text
