/-!
# Ranges of code points

Tables of characters are lists of closed ranges of code points.
-/

namespace TwoWay.Text

/-- Whether a code point lies in one of the ranges. -/
def inRanges (ranges : List (Nat × Nat)) (code : Nat) : Bool :=
  ranges.any fun r => r.1 ≤ code && code ≤ r.2

end TwoWay.Text
