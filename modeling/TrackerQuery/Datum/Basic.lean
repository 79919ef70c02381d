import TrackerQuery.Auth.Scheme
import TrackerQuery.Binary64.Basic
import TrackerQuery.Calendar.Moment

/-!
# TrackerQuery.Datum.Basic

The **loosely typed values** that callers hand over and configuration documents
hold.

Options of a query arrive as whatever the caller has: a text or a list where a
list of texts is meant, a boolean where a number is meant, a dictionary where a
sort key is meant. `Datum` is the type of all these, and the compiler decides for
each option what it makes of each shape. The five `literal` shapes are values
that somebody has already classified for the query language; they pass through
classification unchanged, and an `arrayLiteral` may still hold unclassified
values.

Design points:

* A dictionary is its entries in order of first insertion. `insert` replaces the
  value of a key that is present and keeps its place.
* Keys are compared by `sameKey`, for which a whole number equals the boolean
  or floating point number of the same value, and two moments are equal that are
  the same instant.
* A member of the scheme enumeration is a text wherever a text is asked for
  (`asText?`).
-/

namespace TrackerQuery

/-- The direction that a structured sort key may name. The query language has none. -/
inductive Direction where
  /-- Ascending. -/
  | asc
  /-- Descending. -/
  | desc
  deriving DecidableEq, Repr, Inhabited

/-- The name of a direction. -/
def Direction.name : Direction → Text
  | .asc => "asc".toText
  | .desc => "desc".toText

/-- A structured sort key. -/
structure SortItem where
  /-- The field to sort by. -/
  field : Text
  /-- The direction, which is accepted and not sent. -/
  direction : Direction
  deriving DecidableEq, Repr, Inhabited

/-- A loosely typed value. -/
inductive Datum where
  /-- Absence of a value. -/
  | null
  /-- A truth value. -/
  | bool (b : Bool)
  /-- A whole number of any size. -/
  | int (n : Int)
  /-- A floating point number. -/
  | float (x : Binary64)
  /-- A text. -/
  | text (t : Text)
  /-- A list. -/
  | list (items : List Datum)
  /-- A sequence of fixed length. -/
  | tuple (items : List Datum)
  /-- A dictionary, its entries in order of first insertion. -/
  | dict (entries : List (Datum × Datum))
  /-- A calendar day. -/
  | day (d : Day)
  /-- A day with a time. -/
  | moment (m : Moment)
  /-- A structured sort key. -/
  | sortItem (item : SortItem)
  /-- A member of the scheme enumeration. -/
  | scheme (s : AuthScheme)
  /-- The literal `null`. -/
  | nullLiteral
  /-- The literals `true` and `false`. -/
  | boolLiteral (b : Bool)
  /-- A date literal; what it holds should be a day or a moment. -/
  | dateLiteral (value : Datum)
  /-- An array literal; its items should be literals. -/
  | arrayLiteral (items : List Datum)
  /-- A text literal, not yet quoted. -/
  | textLiteral (t : Text)
  deriving Inhabited, Repr

namespace Datum

/-! ### Views -/

/-- The text that a value is, if it is one. -/
def asText? : Datum → Option Text
  | text t => some t
  | scheme s => some s.name
  | _ => none

/-- Whether a value counts as given: absence, false, zero and what is empty do not. -/
def isGiven : Datum → Bool
  | null => false
  | bool b => b
  | int n => n != 0
  | float x => !x.isZero
  | text t => !t.isEmpty
  | list items => !items.isEmpty
  | tuple items => !items.isEmpty
  | dict entries => !entries.isEmpty
  | _ => true

/-- Whether a value is one of the classified shapes. -/
def isLiteral : Datum → Bool
  | nullLiteral | boolLiteral _ | dateLiteral _ | arrayLiteral _ | textLiteral _ => true
  | _ => false

/-- The values that iterating over a value yields, if it can be iterated over: the characters of
a text, the keys of a dictionary, the items of a sequence, and the name and value of each
attribute of a sort key. -/
def elements? : Datum → Option (List Datum)
  | list items => some items
  | tuple items => some items
  | dict entries => some (entries.map Prod.fst)
  | sortItem item =>
    some [tuple [text "field".toText, text item.field],
      tuple [text "direction".toText, text item.direction.name]]
  | d => d.asText?.map fun t => t.map fun c => text [c]

/-! ### Keys -/

/-- The whole number that a value equals as a key. -/
def keyNumber? : Datum → Option Int
  | bool b => some (if b then 1 else 0)
  | int n => some n
  | float x => x.toInt?
  | _ => none

mutual

/-- Whether two values are the same key. -/
def sameKey : Datum → Datum → Bool
  | null, null => true
  | day d, day d' => d == d'
  | moment m, moment m' => m.isSame m'
  | tuple xs, tuple ys => sameKeys xs ys
  | float (.infinite s), float (.infinite s') => s == s'
  | float (.finite s m e), float (.finite s' m' e') =>
    (m == 0 && m' == 0) || (s == s' && m == m' && e == e')
  | a, b =>
    match a.keyNumber?, b.keyNumber? with
    | some n, some k => n == k
    | none, none =>
      match a.asText?, b.asText? with
      | some t, some u => t == u
      | _, _ => false
    | _, _ => false

/-- Whether two sequences are the same key, item by item. -/
def sameKeys : List Datum → List Datum → Bool
  | [], [] => true
  | x :: xs, y :: ys => sameKey x y && sameKeys xs ys
  | _, _ => false

end

/-- The value of a key in entries. -/
def lookup {α : Type} (key : Datum) : List (Datum × α) → Option α
  | [] => none
  | (k, v) :: rest => if sameKey k key then some v else lookup key rest

/-- The value of a key that is a text. -/
def lookupText {α : Type} (key : Text) (entries : List (Datum × α)) : Option α :=
  lookup (text key) entries

/-- Entries with a key set to a value: in the place of the key if it is present, else at the end. -/
def insert (key value : Datum) : List (Datum × Datum) → List (Datum × Datum)
  | [] => [(key, value)]
  | (k, v) :: rest =>
    if sameKey k key then (k, value) :: rest else (k, v) :: insert key value rest

/-- The entries that result from setting keys in order, starting from none. -/
def ofPairs (pairs : List (Datum × Datum)) : List (Datum × Datum) :=
  pairs.foldl (fun entries p => insert p.1 p.2 entries) []

end Datum

end TrackerQuery
