import TrackerQuery.Document.Yaml.Node
import TrackerQuery.Document.Yaml.Resolve

/-!
# TrackerQuery.Document.Yaml.Value

From the node of a document to its **value**.

A mapping becomes a dictionary in which a repeated key takes its last value.
Entries under the merge mark are put in front of the others, so that a mapping
overrides what it merges. Keys cannot be lists or dictionaries.

Collections are filled outermost first. Of several faults the one that is the
least deep counts therefore, and of those the leftmost (`first`).
-/

namespace TrackerQuery.Yaml

/-- A value, or why there is none and how deep in the document. -/
abbrev Ranked (α : Type) := Except (Nat × Fault) α

/-- Two values, or the fault that is met first. -/
def Ranked.first {α β : Type} : Ranked α → Ranked β → Ranked (α × β)
  | .ok a, .ok b => .ok (a, b)
  | .error e, .ok _ => .error e
  | .ok _, .error e => .error e
  | .error e, .error e' => if e'.1 < e.1 then .error e' else .error e

namespace Node

variable [Limits]

/-- What a node that is a plain scalar stands for. -/
def mark? : Node → Option Resolved
  | scalar true t =>
    match resolve t with
    | .ok r => some r
    | .error _ => none
  | _ => none

/-- Whether a node is the merge mark. -/
def isMerge (n : Node) : Bool :=
  match n.mark? with
  | some .merge => true
  | _ => false

mutual

/-- The entries of a mapping that its merge marks bring in, and its own. -/
def flatten : List (Node × Node) → Option (List (Node × Node) × List (Node × Node))
  | [] => some ([], [])
  | (k, v) :: rest =>
    if isMerge k then
      match merged v, flatten rest with
      | some more, some (brought, own) => some (more ++ brought, own)
      | _, _ => none
    else (flatten rest).map fun p => (p.1, (k, v) :: p.2)

/-- The entries that a merge mark brings in from its value: a mapping, or a list of mappings of
which earlier ones override later ones. -/
def merged : Node → Option (List (Node × Node))
  | mapping entries => (flatten entries).map fun p => p.1 ++ p.2
  | sequence items => mergedAll items
  | scalar _ _ => none

/-- The entries of a list of mappings, the last mapping first. -/
def mergedAll : List Node → Option (List (Node × Node))
  | [] => some []
  | mapping entries :: rest =>
    match flatten entries, mergedAll rest with
    | some p, some more => some (more ++ (p.1 ++ p.2))
    | _, _ => none
  | _ :: _ => none

end

/-- The value of a scalar. -/
def scalarValue (plain : Bool) (t : Text) : Except Fault Datum :=
  if plain then
    match resolve t with
    | .ok (.datum d) => .ok d
    | .ok _ => .error (.document .value)
    | .error e => .error (.badValue e)
  else .ok (.text t)

/-- The value of a key, which is a scalar. The mark of a default value is a text here. -/
def keyValue (rank : Nat) : Node → Ranked Datum
  | scalar plain t =>
    if plain && t == "=".toText then .ok (.text t)
    else
      match scalarValue plain t with
      | .ok d => .ok d
      | .error f => .error (rank, f)
  | _ => .error (rank, .document .value)

/-- The number of nodes that a node consists of, which bounds the depth of its values. -/
def depthBound (t : Text) : Nat :=
  t.length + 2

/-- The value of a node at a depth. `fuel` bounds the depth below. -/
def valueAt : Nat → Nat → Node → Ranked Datum
  | _, rank, scalar plain t =>
    match scalarValue plain t with
    | .ok d => .ok d
    | .error f => .error (rank, f)
  | 0, rank, _ => .error (rank, .document .value)
  | fuel + 1, rank, sequence items =>
    match items.foldr (fun n r => Ranked.first (valueAt fuel (rank + 1) n) r |>.map
        fun p => p.1 :: p.2) (.ok []) with
    | .ok ds => .ok (.list ds)
    | .error e => .error e
  | fuel + 1, rank, mapping entries =>
    match flatten entries with
    | none => .error (rank + 1, .document .value)
    | some (brought, own) =>
      match (brought ++ own).foldr (fun e r =>
          Ranked.first
            (Ranked.first (keyValue (rank + 1) e.1) (valueAt fuel (rank + 1) e.2)) r |>.map
          fun p => p.1 :: p.2) (.ok []) with
      | .ok pairs => .ok (.dict (Datum.ofPairs pairs))
      | .error e => .error e

end Node

/-! ### Documents -/

/-- Whether a character may stand in a document. -/
def isAllowed (c : CodePoint) : Bool :=
  let n := c.toNat
  n == 9 || n == 10 || n == 13 || (0x20 ≤ n && n ≤ 0x7E) || n == 0x85 ||
    (0xA0 ≤ n && n ≤ 0xFFFD) || 0x10000 ≤ n

/-- The value of a YAML document; `null` if there is no document. -/
def read [Limits] (t : Text) : Except Fault Datum :=
  if t.all isAllowed then
    match Node.ofText t with
    | .error e => .error e
    | .ok none => .ok .null
    | .ok (some n) =>
      match n.valueAt (Node.depthBound t) 0 with
      | .ok d => .ok d
      | .error (_, f) => .error f
  else .error (.document .character)

end TrackerQuery.Yaml
