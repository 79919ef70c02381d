import TrackerQuery.Datum.Basic
import TrackerQuery.Field
import TrackerQuery.Traced

/-!
# TrackerQuery.Include

**Include paths**: which related data a query attaches.

A path is letters and dots, and may end in one nested selection between square
brackets, in which commas are allowed too. Blank entries are dropped, the others
brought into the canonical form of a field and checked; the first one that fails
rejects all. Since an alias of a custom field has an underscore, no custom field
passes.

`render` writes the paths as one list between brackets, and `read` takes that
list apart again at the commas that stand outside a nested selection.
-/

namespace TrackerQuery.Include

/-! ### The form of a path -/

/-- A letter or a dot. -/
def isPathChar (c : CodePoint) : Bool :=
  c.isAlpha || c == '.'

/-- A character of a nested selection. -/
def isSelectionChar (c : CodePoint) : Bool :=
  isPathChar c || c == ','

/-- Whether a text is one or more characters of a selection and a closing bracket. -/
def isSelection (t : Text) : Bool :=
  !(t.takeWhile isSelectionChar).isEmpty && t.dropWhile isSelectionChar == [.char ']']

/-- Whether a text is a path. -/
def isPath (t : Text) : Bool :=
  !(t.takeWhile isPathChar).isEmpty &&
    match t.dropWhile isPathChar with
    | [] => true
    | c :: rest => c == '[' && isSelection rest

/-! ### Checking -/

/-- Entries without the blank ones, in canonical form. -/
def canonical (entries : List Text) : List Text :=
  (entries.filter fun e => !Text.isAllBlank e).map fun e => Field.sanitize (Text.strip e)

/-- The paths that entries name, in order; the first entry that is no path decides. -/
def check (entries : List Text) : Except Rejection (List Text) :=
  match (canonical entries).find? fun e => !isPath e with
  | some bad => .error (.badInclude bad)
  | none => .ok (canonical entries)

/-- The paths that entries name, in order, with a warning of the first entry that is no path. -/
def accept (entries : List Text) : Traced (List Text) :=
  match (canonical entries).find? fun e => !isPath e with
  | some bad => do
    Traced.log .warning .includes ("Rejected include entry: ".toText ++ Text.inspect bad)
    Traced.fail (.rejected (.badInclude bad))
  | none => return canonical entries

/-- The entries among loosely typed values. Values that do not count as given are dropped. -/
def texts : List Datum → Except Fault (List Text)
  | [] => .ok []
  | d :: rest =>
    if d.isGiven then
      match d.asText? with
      | none => .error .lacksOperation
      | some t =>
        match texts rest with
        | .error e => .error e
        | .ok ts => .ok (t :: ts)
    else texts rest

/-- The entries that iterating over a value yields. -/
def entries (d : Datum) : Except Fault (List Text) :=
  match d.elements? with
  | some items => texts items
  | none => .error .wrongShape

/-! ### Written form -/

/-- Paths as one list between brackets. -/
def render (paths : List Text) : Text :=
  .char '[' :: Text.join [','] paths ++ [.char ']']

/-- A character in front of the first of some paths. -/
def consFirst (c : CodePoint) : List Text → List Text
  | [] => [[c]]
  | p :: ps => (c :: p) :: ps

/-- The paths of a list that is not empty, from behind its opening bracket. `nested` says that
the text stands inside a selection. `none` if the list is not closed at the very end. -/
def readFrom (nested : Bool) : Text → Option (List Text)
  | [] => none
  | c :: rest =>
    if nested then (readFrom (c != ']') rest).map (consFirst c)
    else if c = ',' then (readFrom false rest).map ([] :: ·)
    else if c = ']' then (if rest.isEmpty then some [[]] else none)
    else (readFrom (c == '[') rest).map (consFirst c)

/-- The paths of a list between brackets. -/
def read (t : Text) : Option (List Text) :=
  if t = "[]".toText then some []
  else
    match t with
    | '[' :: rest => readFrom false rest
    | _ => none

end TrackerQuery.Include
