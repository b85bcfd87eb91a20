/-!
# Character ranges

A class of characters given by the ranges of its code points, in rising order.
-/

namespace RequiredFields.Text

/-- Whether one of the ranges, first and last code point in rising order, holds `n`. -/
def inRanges : List (Nat × Nat) → Nat → Bool
  | [], _ => false
  | (first, last) :: rest, n => first ≤ n && (n ≤ last || inRanges rest n)

end RequiredFields.Text
