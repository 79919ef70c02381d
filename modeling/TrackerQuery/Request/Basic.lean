import TrackerQuery.Builder.Basic
import TrackerQuery.Request.Parts

/-!
# TrackerQuery.Request.Basic

The two **requests**, searching for items and getting one item, from payload to
parameters.

A payload is checked field by field and every issue is reported. Compiling a
request then runs the builder in a fixed order (where expression, include paths,
page size, sort keys), so the first stage that rejects its part decides. A search
may refer to a preset in place of a where expression.
-/

namespace TrackerQuery

open FormEncoding (Param)

/-! ### Search -/

/-- A request to search for items. -/
structure SearchRequest where
  /-- The entity type. -/
  type : Text
  /-- The where expression, or a reference to a preset. -/
  filter : Option Text
  /-- The include entries. -/
  includes : Option (List Text)
  /-- The page size. -/
  take : Nat
  /-- The sort keys. -/
  orderBy : Option (List Request.OrderKey)
  /-- The variables of the preset. -/
  bindings : List (Text × Request.VariableValue)
  deriving DecidableEq, Repr

namespace SearchRequest

/-- The page size of a payload that names none. -/
def defaultTake : Nat := 100

/-- The payload with the other spelling of the sort keys accepted, unless both are there. -/
def unifyOrderBy (payload : List (Datum × Datum)) : List (Datum × Datum) :=
  match Datum.lookupText "orderBy".toText payload,
      Datum.lookupText "order_by".toText payload with
  | some d, none => Datum.insert (.text "order_by".toText) d payload
  | _, _ => payload

/-- The search request that a payload describes. -/
def ofPayload (payload : List (Datum × Datum)) : Except Fault SearchRequest :=
  let fields := unifyOrderBy payload
  let checked :=
    (Request.required fields "type" Request.typeName).both <|
    (Request.withDefault fields "where" none (Request.optional Request.text)).both <|
    (Request.withDefault fields "include" none
      (Request.optional (Request.listOf Request.text))).both <|
    (Request.withDefault fields "take" defaultTake Request.pageSize).both <|
    (Request.withDefault fields "order_by" none
      (Request.optional (Request.listOf Request.orderKey))).both
    (Request.withDefault fields "preset_variables" [] Request.variableDict)
  Checked.report
    (checked.map fun (type, filter, includes, take, orderBy, bindings) =>
      ⟨type, filter, includes, take, orderBy, bindings⟩)

/-- An optional list as a loosely typed value. -/
def listDatum (xs : Option (List Datum)) : Datum :=
  match xs with
  | some items => .list items
  | none => .null

/-- The include entries as a loosely typed value. -/
def includeDatum (includes : Option (List Text)) : Datum :=
  listDatum (includes.map fun ts => ts.map Datum.text)

/-- The sort keys as a loosely typed value. -/
def orderByDatum (r : SearchRequest) : Datum :=
  listDatum (r.orderBy.map fun ks => ks.map Request.OrderKey.toDatum)

/-- A where expression as a loosely typed value. -/
def filterDatum (filter : Option Text) : Datum :=
  match filter with
  | some t => .text t
  | none => .null

/-- The parameters of a search. -/
def compile [Limits] (r : SearchRequest) (auth : Auth) (today : Day) : Traced (List Param) := do
  let filter ← Preset.resolve r.filter (Request.variablesDatum r.bindings) today
  let b ← (Builder.new auth).callAll
    [.filter (filterDatum filter), .includes (includeDatum r.includes), .take (.int r.take),
     .orderBy r.orderByDatum]
  Traced.ofExcept b.params

end SearchRequest

/-! ### Get -/

/-- A request to get one item. -/
structure GetRequest where
  /-- The entity type. -/
  type : Text
  /-- The number of the item. -/
  id : Nat
  /-- The include entries. -/
  includes : Option (List Text)
  deriving DecidableEq, Repr

namespace GetRequest

/-- The get request that a payload describes. -/
def ofPayload (payload : List (Datum × Datum)) : Except Fault GetRequest :=
  let checked :=
    (Request.required payload "type" Request.typeName).both <|
    (Request.required payload "id" Request.positive).both
    (Request.withDefault payload "include" none
      (Request.optional (Request.listOf Request.text)))
  Checked.report (checked.map fun (type, id, includes) => ⟨type, id, includes⟩)

/-- The parameters of a get. -/
def compile [Limits] (r : GetRequest) (auth : Auth) : Traced (List Param) := do
  let b ← (Builder.new auth).call (.includes (SearchRequest.includeDatum r.includes))
  Traced.ofExcept b.params

end GetRequest

end TrackerQuery
