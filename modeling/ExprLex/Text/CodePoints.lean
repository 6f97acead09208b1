/-!
# Sets of Code Points

A set of code points is a list of inclusive ranges in ascending order, the form in which
character properties are published. Membership stops at the first range beyond the point.
-/

namespace ExprLex.Text

/-- Inclusive ranges of code points, in ascending order and without overlaps. -/
abbrev CodePoints := List (Nat × Nat)

namespace CodePoints

/-- Whether a code point lies in one of the ranges. -/
def contains : CodePoints → Nat → Bool
  | [], _ => false
  | (low, high) :: rest, n =>
    if n < low then false
    else if n ≤ high then true
    else contains rest n

end CodePoints

end ExprLex.Text
