import TrackerQuery.Text.Basic

/-!
# TrackerQuery.Text.CodeRange

Sets of characters given as **ascending ranges of code points**, both ends
included. The property tables of the library are of this form, so that a table
reads like the listing of the property it states.
-/

namespace TrackerQuery.Text

/-- Ascending, disjoint ranges of code points. -/
abbrev CodeRanges := List (Nat × Nat)

/-- Whether a code point lies in one of the ranges. The search stops at the first range that
begins beyond it. -/
def CodeRanges.covers : CodeRanges → Nat → Bool
  | [], _ => false
  | (first, last) :: rest, n =>
    if n < first then false else if n ≤ last then true else CodeRanges.covers rest n

end TrackerQuery.Text
