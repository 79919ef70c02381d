import TrackerQuery.Text.Keyword

/-!
# TrackerQuery.Where.Operator

The **operators** of conditions: nine comparisons, which take a value, and two
null checks, which take none.

An operator is its words. In a clause the words may be separated by any run of
blanks and be in any letter case; in compiled text one space separates them.
-/

namespace TrackerQuery

/-- An operator that compares a field with a value. -/
inductive Comparison where
  /-- Equal. -/
  | eq
  /-- Not equal. -/
  | ne
  /-- Greater than. -/
  | gt
  /-- Greater than or equal. -/
  | gte
  /-- Less than. -/
  | lt
  /-- Less than or equal. -/
  | lte
  /-- Member of a list. -/
  | isIn
  /-- Has a text as a part. -/
  | contains
  /-- Has a text not as a part. -/
  | notContains
  deriving DecidableEq, Repr, Inhabited

/-- An operator that asks whether a field has a value. -/
inductive NullCheck where
  /-- The field has no value. -/
  | isNull
  /-- The field has a value. -/
  | isNotNull
  deriving DecidableEq, Repr, Inhabited

/-- An operator of a condition. -/
inductive Operator where
  /-- A comparison. -/
  | comparison (c : Comparison)
  /-- A null check. -/
  | nullCheck (n : NullCheck)
  deriving DecidableEq, Repr, Inhabited

namespace Comparison

/-- The words of a comparison. -/
def words : Comparison → List Text
  | eq => [['e', 'q']]
  | ne => [['n', 'e']]
  | gt => [['g', 't']]
  | gte => [['g', 't', 'e']]
  | lt => [['l', 't']]
  | lte => [['l', 't', 'e']]
  | isIn => [['i', 'n']]
  | contains => [['c', 'o', 'n', 't', 'a', 'i', 'n', 's']]
  | notContains => [['n', 'o', 't'], ['c', 'o', 'n', 't', 'a', 'i', 'n', 's']]

/-- The comparisons in the order in which a clause is tried against them: longer ones first, so
that none is mistaken for another that begins it or ends it. -/
def matchOrder : List Comparison :=
  [notContains, contains, gte, lte, eq, ne, gt, lt, isIn]

/-- A comparison as compiled text. -/
def toText (c : Comparison) : Text :=
  Text.join [' '] c.words

end Comparison

namespace NullCheck

/-- The words of a null check. -/
def words : NullCheck → List Text
  | isNull => [['i', 's'], ['n', 'u', 'l', 'l']]
  | isNotNull => [['i', 's'], ['n', 'o', 't'], ['n', 'u', 'l', 'l']]

/-- A null check as compiled text. -/
def toText (n : NullCheck) : Text :=
  Text.join [' '] n.words

end NullCheck

namespace Operator

/-- An operator as compiled text. -/
def toText : Operator → Text
  | comparison c => c.toText
  | nullCheck n => n.toText

end Operator

end TrackerQuery
