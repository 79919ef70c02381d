import TrackerQuery.Auth.Descriptor
import TrackerQuery.FormEncoding
import TrackerQuery.Include
import TrackerQuery.SortKey

/-!
# TrackerQuery.Builder.Options

The **options of a query** in canonical form, and the parameters they give.

An option is set by a `Setting`, which is canonical already; what a caller
supplies becomes a setting, or is ignored or rejected, before it gets here
(`TrackerQuery.Builder.Call`). Each setting touches one option.

Design points:

* An option that was never set has its default: no expression, no paths, no
  limit, no sort keys, and the default format.
* `params` lists the parameters in a fixed order. What an option does not
  constrain leaves no parameter, and the token of the sender comes last. There are no
  parameters if the page size has too many digits to be written.
-/

namespace TrackerQuery

open FormEncoding (Param)

/-- The format of a response that is asked for if no other is. -/
def defaultFormat : Text := "json".toText

/-- The options of a query. -/
structure Options where
  /-- The compiled where expression. -/
  filter : Option Text := none
  /-- The include paths. -/
  includes : List Text := []
  /-- The page size. -/
  take : Option Nat := none
  /-- The fields to sort by. -/
  sortKeys : List Text := []
  /-- The response format. None or an empty one stands for the default. -/
  format : Option Text := some defaultFormat
  deriving DecidableEq, Repr, Inhabited

/-- A change of one option to a canonical value. -/
inductive Setting where
  /-- A compiled where expression. -/
  | filter (compiled : Text)
  /-- Include paths. -/
  | includes (paths : List Text)
  /-- A page size. -/
  | take (limit : Nat)
  /-- Fields to sort by. -/
  | sortKeys (fields : List Text)
  /-- A response format. -/
  | format (name : Option Text)
  deriving DecidableEq, Repr

namespace Options

/-- The options with one of them changed. -/
def set (o : Options) : Setting → Options
  | .filter compiled => { o with filter := some compiled }
  | .includes paths => { o with includes := paths }
  | .take limit => { o with take := some limit }
  | .sortKeys fields => { o with sortKeys := fields }
  | .format name => { o with format := name }

/-! ### Parameters -/

/-- The format that is asked for. -/
def effectiveFormat (o : Options) : Text :=
  match o.format with
  | some name => if name.isEmpty then defaultFormat else name
  | none => defaultFormat

/-- A parameter, unless its value is missing or empty. -/
def param (name : String) (value : Option Text) : List Param :=
  match value with
  | some v => if v.isEmpty then [] else [(name.toText, v)]
  | none => []

/-- The page size as the value of a parameter; a size of zero is none. -/
def takeText [Limits] (o : Options) : Except Fault (Option Text) :=
  match o.take with
  | some n => if n = 0 then .ok none else (Datum.int n).written.map some
  | none => .ok none

/-- The include paths as the value of a parameter. -/
def includeText (o : Options) : Option Text :=
  if o.includes.isEmpty then none else some (Include.render o.includes)

/-- The parameter of the sort keys. -/
def sortParam (o : Options) : List Param :=
  if o.sortKeys.isEmpty then [] else [("orderBy".toText, SortKey.render o.sortKeys)]

/-- The parameter of the sender. -/
def tokenParam (auth : Auth) : List Param :=
  if auth.isApiKey then [("access_token".toText, auth.token)] else []

/-- The parameters of a query in order, with a given text for the page size. -/
def paramsWith (o : Options) (auth : Auth) (take : Option Text) : List Param :=
  ("format".toText, o.effectiveFormat) :: param "take" take ++ param "where" o.filter ++
    param "include" o.includeText ++ o.sortParam ++ tokenParam auth

/-- The parameters of a query, in order. -/
def params [Limits] (o : Options) (auth : Auth) : Except Fault (List Param) :=
  o.takeText.map (o.paramsWith auth)

end Options

end TrackerQuery
