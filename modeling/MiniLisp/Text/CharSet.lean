/-! # Sets of characters

    A set of characters is given by the ranges of its code points in ascending
    order.
-/

namespace MiniLisp.Text

/-- Ranges of code points, both ends included, in ascending order. -/
abbrev CharRanges := List (Nat × Nat)

/-- Whether a code point lies in one of the ranges. The search ends at the
    first range above it. -/
def CharRanges.holds : CharRanges → Nat → Bool
  | [], _ => false
  | (low, high) :: rest, point =>
      if point < low then false
      else if point ≤ high then true
      else CharRanges.holds rest point

end MiniLisp.Text
