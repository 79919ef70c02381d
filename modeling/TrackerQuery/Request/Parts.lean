import TrackerQuery.Auth.Descriptor
import TrackerQuery.Datum.Display
import TrackerQuery.Request.Rules

/-!
# TrackerQuery.Request.Parts

The **structured parts** of requests and how they are checked: sort keys, values
of preset variables, and descriptors of the sender.

A sort key of a request is a text or a structured key, a variable a text or a
whole number. A value that fits neither alternative is reported once for each.
-/

namespace TrackerQuery

/-! ### Structured sort keys -/

namespace SortItem

/-- The direction that a value names. -/
def direction? (d : Datum) : Checked Direction :=
  match d.asText? with
  | some t =>
    if t = Direction.asc.name then .ok .asc
    else if t = Direction.desc.name then .ok .desc
    else if t.isEncodable then Checked.flawed .notDirection
    else Checked.flawed .notUnicode
  | none => Checked.flawed .notDirection

/-- The structured sort key with the given attributes. -/
def ofEntries (entries : List (Datum × Datum)) : Checked SortItem :=
  ((Request.required entries "field" Request.nonEmptyText).both
    (Request.withDefault entries "direction" .asc direction?)).map fun p => ⟨p.1, p.2⟩

end SortItem

namespace Request

/-- A sort key of a request. -/
inductive OrderKey where
  /-- A field, perhaps with direction words. -/
  | text (t : Text)
  /-- A structured key. -/
  | item (i : SortItem)
  deriving DecidableEq, Repr

/-- A sort key as a loosely typed value. -/
def OrderKey.toDatum : OrderKey → Datum
  | .text t => .text t
  | .item i => .sortItem i

/-- A structured sort key, built already or given by its attributes. -/
def sortItem : Datum → Checked SortItem
  | .sortItem i => .ok i
  | .dict entries => SortItem.ofEntries entries
  | _ => Checked.flawed .notSortItem

/-- A sort key of a request. -/
def orderKey (d : Datum) : Checked OrderKey :=
  match text d with
  | .ok t => .ok (.text t)
  | .error xs =>
    match sortItem d with
    | .ok i => .ok (.item i)
    | .error ys =>
      .error (xs.map (Issue.within (.name "str".toText)) ++
        ys.map (Issue.within (.name "OrderByItem".toText)))

/-! ### Preset variables -/

/-- The value of a preset variable. -/
inductive VariableValue where
  /-- A text. -/
  | text (t : Text)
  /-- A whole number. -/
  | number (n : Int)
  deriving DecidableEq, Repr

/-- The value of a variable as a loosely typed value. -/
def VariableValue.toDatum : VariableValue → Datum
  | .text t => .text t
  | .number n => .int n

/-- The value of a preset variable. -/
def variableValue (d : Datum) : Checked VariableValue :=
  match text d with
  | .ok t => .ok (.text t)
  | .error xs =>
    match integer d with
    | .ok n => .ok (.number n)
    | .error ys =>
      .error (xs.map (Issue.within (.name "str".toText)) ++
        ys.map (Issue.within (.name "int".toText)))

/-- The place of a key. -/
def keyPlace : Datum → Place
  | .int n => .index n
  | d =>
    match d.asText? with
    | some t => .name t
    | none => .name d.inspect

/-- Preset variables in order. A key that is no text and an unfit value are both reported. -/
def bindings : List (Datum × Datum) → Checked (List (Text × VariableValue))
  | [] => .ok []
  | (key, value) :: rest =>
    let checkedKey := Checked.within (.name "[key]".toText) (text key)
    let entry := Checked.within (keyPlace key) (checkedKey.both (variableValue value))
    (entry.both (bindings rest)).map fun p => p.1 :: p.2

/-- A dictionary of preset variables. -/
def variableDict : Datum → Checked (List (Text × VariableValue))
  | .dict entries => bindings entries
  | _ => Checked.flawed .notDict

/-- Preset variables as a loosely typed value. -/
def variablesDatum (vs : List (Text × VariableValue)) : Datum :=
  .dict (vs.map fun p => (.text p.1, p.2.toDatum))

end Request

/-! ### Senders -/

namespace Auth

/-- The scheme that a value names exactly. -/
def scheme? (d : Datum) : Checked AuthScheme :=
  match d with
  | .scheme s => .ok s
  | .text t =>
    match AuthScheme.ofName? t with
    | some s => .ok s
    | none => if t.isEncodable then Checked.flawed .notScheme else Checked.flawed .notUnicode
  | _ => Checked.flawed .notScheme

/-- The descriptor with the given attributes. -/
def ofEntries (entries : List (Datum × Datum)) : Checked Auth :=
  ((Request.withDefault entries "scheme" .basic scheme?).both
    (Request.withDefault entries "token" [] Request.text)).map fun p => ⟨p.1, p.2⟩

/-- The descriptor after an attribute is assigned to: no descriptor allows that. -/
def assign (_ : Auth) (name : Text) : Except Fault Auth :=
  .error (.invalid [⟨.frozen, [.name name]⟩])

end Auth

end TrackerQuery
