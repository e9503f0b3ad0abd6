/-!
# Ranges of code points

A property of characters is given as a list of ranges of code points in ascending order.
Membership stops at the first range that starts beyond the code point, so that the common
characters at the low end are decided after a few steps.
-/

set_option autoImplicit false

namespace LintRun.Unicode

/-- Ranges of code points, both ends included, in ascending order. -/
abbrev Ranges := List (Nat × Nat)

/-- Whether a code point lies in one of the ranges. -/
def Ranges.has : Ranges → Nat → Bool
  | [], _ => false
  | (lo, hi) :: rest, c =>
    if c < lo then false else if c ≤ hi then true else Ranges.has rest c

end LintRun.Unicode
