import TrackerQuery.Builder.Basic

/-!
# TrackerQuery.Compilation

**One compilation** of query options into a query string, as the command line
runs it.

A preset wins over a where expression. A completed compilation logs how many
parameters it gave.
-/

namespace TrackerQuery

/-- The options of a compilation, as a caller supplied them. -/
structure Compilation where
  /-- The where expression. -/
  filter : Option Text := none
  /-- The name of a preset. -/
  preset : Option Text := none
  /-- The variables of the preset. -/
  bindings : Datum := .null
  /-- The include entries. -/
  includes : Datum := .null
  /-- The page size. -/
  take : Datum := .null
  /-- The sort keys. -/
  orderBy : Datum := .null
  /-- The response format. -/
  format : Option Text := none
  deriving Repr

namespace Compilation

/-- A text that may be absent, as a loosely typed value. -/
def textDatum : Option Text → Datum
  | some t => .text t
  | none => .null

/-- The call that sets the where expression. -/
def filterCall (c : Compilation) (today : Day) : Call :=
  match c.preset with
  | some name =>
    if name.isEmpty then .filter (textDatum c.filter) else .preset name c.bindings today
  | none => .filter (textDatum c.filter)

/-- The call that sets the format, if one is given. -/
def formatCalls (c : Compilation) : List Call :=
  match c.format with
  | some name => if name.isEmpty then [] else [.format (some name)]
  | none => []

/-- The calls of a compilation, in order. -/
def calls (c : Compilation) (today : Day) : List Call :=
  [c.filterCall today, .includes c.includes, .take c.take, .orderBy c.orderBy] ++ c.formatCalls

/-- The query string of a compilation. -/
def run [Limits] (c : Compilation) (auth : Auth) (today : Day) : Traced Text := do
  let b ← (Builder.new auth).callAll (c.calls today)
  let query ← Traced.ofExcept b.queryString
  let params ← Traced.ofExcept b.params
  Traced.log .info .compile
    ("Compiled query with ".toText ++ Text.ofNat params.length ++ " parameter(s)".toText)
  return query

end Compilation

end TrackerQuery
