import TrackerQuery.Document.Yaml.Token

/-!
# TrackerQuery.Document.Yaml.Node

From tokens to the **node** of a document.

A node is a scalar, a sequence or a mapping. What is left out (a key without a
value, an item without content) reads as an empty plain scalar. The tokens are
those of one text, so they end with the end of the text, unless the text could not
be read to its end; running out of tokens then fails for that reason.

Every function takes the tokens from where it stands and returns those that are
left. `fuel` bounds the depth of calls by the number of tokens.
-/

namespace TrackerQuery.Yaml

/-- A node of a document. -/
inductive Node where
  /-- A scalar, and whether it is a plain one. -/
  | scalar (plain : Bool) (text : Text)
  /-- A sequence. -/
  | sequence (items : List Node)
  /-- A mapping. -/
  | mapping (entries : List (Node × Node))
  deriving Inhabited, Repr

namespace Node

/-- What is left out. -/
def empty : Node := scalar true []

/-- Why there is no node. -/
inductive Stop where
  /-- The tokens ran out. -/
  | noToken
  /-- The tokens follow no rule. -/
  | grammar
  deriving DecidableEq, Repr

/-- A part of a document and the tokens that are left. -/
abbrev Reading (α : Type) := Except Stop (α × List Token)

/-- Whether the next token is one of some. -/
def nextIn (kinds : List Token) : List Token → Bool
  | [] => false
  | t :: _ => kinds.contains t

mutual

/-- A node. `block` says that indented collections may start here, and `indentless` that the
items of a sequence may stand here without indentation of their own. -/
def read : Nat → Bool → Bool → List Token → Reading Node
  | 0, _, _, _ => .error .grammar
  | fuel + 1, block, indentless, ts =>
    match ts with
    | [] => .error .noToken
    | .blockEntry :: _ => if indentless then indentlessItems fuel [] ts else .error .grammar
    | .scalar plain text :: rest => .ok (scalar plain text, rest)
    | .flowSequenceStart :: rest => flowItems fuel true [] rest
    | .flowMappingStart :: rest => flowEntries fuel true [] rest
    | .blockSequenceStart :: rest => if block then blockItems fuel [] rest else .error .grammar
    | .blockMappingStart :: rest => if block then blockEntries fuel [] rest else .error .grammar
    | _ => .error .grammar

/-- A node, or what is left out if one of the given tokens comes next. -/
def readUnless : Nat → Bool → Bool → List Token → List Token → Reading Node
  | 0, _, _, _, _ => .error .grammar
  | fuel + 1, block, indentless, ends, ts =>
    if ts.isEmpty then .error .noToken
    else if nextIn ends ts then .ok (empty, ts)
    else read fuel block indentless ts

/-- The items of an indented sequence, those read so far given last one first. -/
def blockItems : Nat → List Node → List Token → Reading Node
  | 0, _, _ => .error .grammar
  | fuel + 1, items, ts =>
    match ts with
    | [] => .error .noToken
    | .blockEnd :: rest => .ok (sequence items.reverse, rest)
    | .blockEntry :: rest =>
      match readUnless fuel true false [.blockEntry, .blockEnd] rest with
      | .error e => .error e
      | .ok (x, rest) => blockItems fuel (x :: items) rest
    | _ => .error .grammar

/-- The items of a sequence without indentation of its own. -/
def indentlessItems : Nat → List Node → List Token → Reading Node
  | 0, _, _ => .error .grammar
  | fuel + 1, items, ts =>
    match ts with
    | [] => .error .noToken
    | .blockEntry :: rest =>
      match readUnless fuel true false [.blockEntry, .key, .value, .blockEnd] rest with
      | .error e => .error e
      | .ok (x, rest) => indentlessItems fuel (x :: items) rest
    | _ => .ok (sequence items.reverse, ts)

/-- The entries of an indented mapping. -/
def blockEntries : Nat → List (Node × Node) → List Token → Reading Node
  | 0, _, _ => .error .grammar
  | fuel + 1, entries, ts =>
    match ts with
    | [] => .error .noToken
    | .blockEnd :: rest => .ok (mapping entries.reverse, rest)
    | .key :: rest =>
      match readUnless fuel true true [.key, .value, .blockEnd] rest with
      | .error e => .error e
      | .ok (k, rest) =>
        match valueAfter fuel true true [.key, .value, .blockEnd] rest with
        | .error e => .error e
        | .ok (v, rest) => blockEntries fuel ((k, v) :: entries) rest
    | _ => .error .grammar

/-- The value of a key, or what is left out if no colon comes next. -/
def valueAfter : Nat → Bool → Bool → List Token → List Token → Reading Node
  | 0, _, _, _, _ => .error .grammar
  | fuel + 1, block, indentless, ends, ts =>
    match ts with
    | [] => .error .noToken
    | .value :: rest => readUnless fuel block indentless ends rest
    | _ => .ok (empty, ts)

/-- The items of a sequence in brackets. An item may be a single entry of a mapping. `first` says
that no comma has to come next. -/
def flowItems : Nat → Bool → List Node → List Token → Reading Node
  | 0, _, _, _ => .error .grammar
  | fuel + 1, first, items, ts =>
    match ts, first with
    | [], _ => .error .noToken
    | .flowSequenceEnd :: rest, _ => .ok (sequence items.reverse, rest)
    | .flowEntry :: rest, false => flowItem fuel items rest
    | ts, true => flowItem fuel items ts
    | _, false => .error .grammar

/-- One item of a sequence in brackets and those behind it. -/
def flowItem : Nat → List Node → List Token → Reading Node
  | 0, _, _ => .error .grammar
  | fuel + 1, items, ts =>
    match ts with
    | [] => .error .noToken
    | .flowSequenceEnd :: rest => .ok (sequence items.reverse, rest)
    | .key :: rest =>
      match readUnless fuel false false [.value, .flowEntry, .flowSequenceEnd] rest with
      | .error e => .error e
      | .ok (k, rest) =>
        match valueAfter fuel false false [.flowEntry, .flowSequenceEnd] rest with
        | .error e => .error e
        | .ok (v, rest) => flowItems fuel false (mapping [(k, v)] :: items) rest
    | _ =>
      match read fuel false false ts with
      | .error e => .error e
      | .ok (x, rest) => flowItems fuel false (x :: items) rest

/-- The entries of a mapping in braces. -/
def flowEntries : Nat → Bool → List (Node × Node) → List Token → Reading Node
  | 0, _, _, _ => .error .grammar
  | fuel + 1, first, entries, ts =>
    match ts, first with
    | [], _ => .error .noToken
    | .flowMappingEnd :: rest, _ => .ok (mapping entries.reverse, rest)
    | .flowEntry :: rest, false => flowMember fuel entries rest
    | ts, true => flowMember fuel entries ts
    | _, false => .error .grammar

/-- One entry of a mapping in braces and those behind it. -/
def flowMember : Nat → List (Node × Node) → List Token → Reading Node
  | 0, _, _ => .error .grammar
  | fuel + 1, entries, ts =>
    match ts with
    | [] => .error .noToken
    | .flowMappingEnd :: rest => .ok (mapping entries.reverse, rest)
    | .key :: rest =>
      match readUnless fuel false false [.value, .flowEntry, .flowMappingEnd] rest with
      | .error e => .error e
      | .ok (k, rest) =>
        match valueAfter fuel false false [.flowEntry, .flowMappingEnd] rest with
        | .error e => .error e
        | .ok (v, rest) => flowEntries fuel false ((k, v) :: entries) rest
    | _ =>
      match read fuel false false ts with
      | .error e => .error e
      | .ok (k, rest) => flowEntries fuel false ((k, empty) :: entries) rest

end

/-! ### Documents -/

/-- The tokens behind directives. At most one may state a version, and its first number is 1. -/
def dropDirectives (versions : Nat) : List Token → Except Stop (List Token)
  | .directive none :: rest => dropDirectives versions rest
  | .directive (some major) :: rest =>
    if versions = 0 && major = 1 then dropDirectives (versions + 1) rest else .error .grammar
  | ts => .ok ts

/-- The tokens behind the mark of an explicit document. -/
def openDocument (ts : List Token) : Except Stop (List Token) :=
  match dropDirectives 0 ts with
  | .error e => .error e
  | .ok [] => .error .noToken
  | .ok (.documentStart :: rest) => .ok rest
  | .ok _ => .error .grammar

/-- The node of the first document, if there is one, and the tokens behind it. -/
def firstDocument (ts : List Token) : Reading (Option Node) :=
  let fuel := 4 * ts.length + 4
  match ts with
  | [] => .error .noToken
  | .streamEnd :: _ => .ok (none, ts)
  | .directive _ :: _ | .documentStart :: _ =>
    match openDocument ts with
    | .error e => .error e
    | .ok [] => .error .noToken
    | .ok (t :: rest) =>
      let absent : Bool :=
        match t with
        | .directive _ | .documentStart | .documentEnd | .streamEnd => true
        | _ => false
      if absent then .ok (some empty, t :: rest)
      else
        match read fuel true false (t :: rest) with
        | .ok (n, rest) => .ok (some n, rest)
        | .error e => .error e
  | _ =>
    match read fuel true false ts with
    | .ok (n, rest) => .ok (some n, rest)
    | .error e => .error e

/-- Whether another document starts behind the first one. -/
def anotherDocument (ts : List Token) : Except Stop Bool :=
  match ts.dropWhile (· == .documentEnd) with
  | [] => .error .noToken
  | .streamEnd :: _ => .ok false
  | ts =>
    match openDocument ts with
    | .error e => .error e
    | .ok _ => .ok true

end Node

/-- Why a text has no node. -/
def Node.fault (lexed : Option LexFault) : Node.Stop → Fault
  | .grammar => .document .grammar
  | .noToken =>
    match lexed with
    | some .outsideCodeSpace => .badValue .outsideCodeSpace
    | some (.malformed d) => .document d
    | none => .document .token

/-- The node of a text of at most one document. -/
def Node.ofText (t : Text) : Except Fault (Option Node) :=
  let (ts, lexed) := tokens t
  match Node.firstDocument ts with
  | .error e => .error (Node.fault lexed e)
  | .ok (node, rest) =>
    match Node.anotherDocument rest with
    | .error e => .error (Node.fault lexed e)
    | .ok true => .error (.document .extraDocument)
    | .ok false => .ok node

end TrackerQuery.Yaml
