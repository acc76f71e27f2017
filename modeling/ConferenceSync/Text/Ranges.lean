/-!
# Sets of code points

A character class is given as a list of closed ranges of code points in ascending order, so
that a lookup may stop at the first range that starts above the code point it looks for.

## Main definitions

* `CodeRanges` — ascending closed ranges of code points
* `CodeRanges.contains` — membership of a code point
-/

namespace ConferenceSync.Text

/-- A set of code points, as closed ranges in ascending order. -/
abbrev CodeRanges := List (Nat × Nat)

/-- Whether a code point lies in one of the ranges; the search ends at the first range that
starts above it. -/
def CodeRanges.contains : CodeRanges → Nat → Bool
  | [], _ => false
  | (lo, hi) :: rest, n => if n < lo then false else n ≤ hi || CodeRanges.contains rest n

end ConferenceSync.Text
