import TrackerQuery.Datum.Display
import TrackerQuery.Fault.Basic
import TrackerQuery.Text.Keyword

/-!
# TrackerQuery.SortKey

**Sort keys**: which fields a query sorts by.

The query language has no direction, so a key is reduced to its field. A key is a
text, which may end in direction words, a dictionary with a field, or a structured
sort key. `stripDirection` takes the words off a text one at a time from the end,
each with the blanks in front of it; a word with nothing in front is a field.
-/

namespace TrackerQuery.SortKey

/-! ### Direction words -/

/-- The direction words. -/
def directionWords : List Text := [['a', 's', 'c'], ['d', 'e', 's', 'c']]

/-- The reversed text without the first of some words that it begins with, read backwards, and
without the blanks behind that word; `none` if it begins with none of them so. -/
def dropWord? (reversed : Text) : List Text → Option Text
  | [] => none
  | word :: more =>
    match Text.beforeKeyword? word reversed with
    | some (_, rest) => some rest
    | none => dropWord? reversed more

/-- The reversed text without any of the direction words that it begins with. Each round needs at
most the length of the text, which bounds the rounds. -/
def dropWords : Nat → Text → Text
  | 0, reversed => reversed
  | rounds + 1, reversed =>
    match dropWord? reversed directionWords with
    | none => reversed
    | some rest => dropWords rounds rest

/-- A text without the direction words at its end, trimmed. -/
def stripDirection (key : Text) : Text :=
  let stripped := Text.strip key
  (dropWords stripped.length stripped.reverse).reverse

/-! ### Fields -/

/-- The name under which a dictionary gives its field. -/
def fieldName : Text := "field".toText

/-- The rejection of a sort key, which names it as it is shown. -/
def refuse [Limits] (key : Datum) (why : Text → Rejection) : Except Fault Text :=
  match key.shown with
  | .ok t => .error (.rejected (why t))
  | .error f => .error f

/-- The field of a sort key, trimmed. -/
def field [Limits] (key : Datum) : Except Fault Text :=
  match key with
  | .dict entries =>
    match Datum.lookupText fieldName entries with
    | some value =>
      match value.written with
      | .ok t => .ok (Text.strip t)
      | .error f => .error f
    | none => refuse key .sortKeyWithoutField
  | .sortItem item => .ok (Text.strip item.field)
  | _ =>
    match key.asText? with
    | some t => .ok (stripDirection t)
    | none => refuse key .badSortKey

/-- The fields of sort keys in order, those that are empty left out; the first key that is none
decides. -/
def fields [Limits] : List Datum → Except Fault (List Text)
  | [] => .ok []
  | key :: rest =>
    match field key with
    | .error e => .error e
    | .ok f =>
      match fields rest with
      | .error e => .error e
      | .ok fs => .ok (if f.isEmpty then fs else f :: fs)

/-- The sort keys that iterating over a value yields. -/
def keys (d : Datum) : Except Fault (List Datum) :=
  match d.elements? with
  | some items => .ok items
  | none => .error .wrongShape

/-- Fields as one text. -/
def render (fields : List Text) : Text :=
  Text.join [','] fields

end TrackerQuery.SortKey
