/-!
# Ranges of code points

A set of characters of a standard property is kept as the list of its ranges, in
ascending order and without overlap. The search ends at the first range above the
code point.
-/

namespace Highlighter.Unicode

/-- Ranges of code points, both ends included, in ascending order. -/
abbrev Ranges := List (Nat × Nat)

/-- Whether a code point is in one of the ranges. -/
def Ranges.holds : Ranges → Nat → Bool
  | [], _ => false
  | (lo, hi) :: rest, n => if n < lo then false else if n ≤ hi then true else holds rest n

end Highlighter.Unicode
