/-!
# Sets of characters as ranges

A set of characters is kept as the closed ranges of its code points, in ascending order, so that a
search ends at the first range that starts above the character.
-/

namespace TemplateExpr.Text

/-- Closed ranges of code points in ascending order. -/
abbrev Ranges := List (Nat × Nat)

/-- Whether a code point lies in one of the ranges. -/
def Ranges.contain : Ranges → Nat → Bool
  | [], _ => false
  | (first, last) :: rest, n => if n < first then false else n ≤ last || Ranges.contain rest n

end TemplateExpr.Text
