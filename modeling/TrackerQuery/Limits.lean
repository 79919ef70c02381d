/-!
# TrackerQuery.Limits

What a **platform** sets a limit to.

A whole number can have any size, and a document can be nested at will. A platform
converts whole numbers to and from decimal numerals only up to a number of digits, and
follows the nesting of a document only to some depth. Both are settings of the platform,
and the first one can be switched off, so that nothing in the library may rest on their
values: whatever reads or writes a numeral, or descends into a document, says what
happens beyond the limit.
-/

namespace TrackerQuery

/-- The limits of a platform. -/
class Limits where
  /-- The most digits of a numeral; `none` if numerals are not limited. -/
  digits : Option Nat
  /-- How many collections of a document may lie within each other. -/
  nesting : Nat
  /-- A limit on numerals leaves those of ordinary numbers alone. -/
  le_of_mem_digits : ∀ d ∈ digits, 640 ≤ d

/-- The limits that a platform has unless it is told otherwise. -/
instance Limits.usual : Limits where
  digits := some 4300
  nesting := 990
  le_of_mem_digits := by simp

end TrackerQuery
