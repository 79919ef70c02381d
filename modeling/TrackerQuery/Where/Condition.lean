import TrackerQuery.Field
import TrackerQuery.Literal.Quoted
import TrackerQuery.Where.Operator

/-!
# TrackerQuery.Where.Condition

One **condition**: its forms, its compiled text, and the reading of a clause.

A clause is a null check if it ends in the words of one and something stands in
front of them; then everything in front is the field. Otherwise its first word is
the field, one of the comparisons follows, and the rest of the clause is the
value. A line feed is allowed only in the blanks around the words.

Design points:

* The forms are tried in this order, so a clause that ends in *is null* is a null
  check even if a comparison stands in it.
* `Condition` keeps the literal of a comparison as compiled text. What a caller
  wrote cannot be recovered from it, and nothing needs it.
-/

namespace TrackerQuery

/-- One parsed clause. -/
inductive Condition where
  /-- A field compared with a literal. -/
  | compare (field : Text) (op : Comparison) (literal : Text)
  /-- A field tested for having a value. -/
  | check (field : Text) (op : NullCheck)
  deriving DecidableEq, Repr, Inhabited

namespace Condition

/-- The field of a condition. -/
def field : Condition → Text
  | compare f _ _ => f
  | check f _ => f

/-- The operator of a condition. -/
def operator : Condition → Operator
  | compare _ op _ => .comparison op
  | check _ op => .nullCheck op

/-- The literal of a condition, if it has one. -/
def literal? : Condition → Option Text
  | compare _ _ literal => some literal
  | check _ _ => none

/-- A condition as compiled text. -/
def render : Condition → Text
  | compare f op literal => f ++ .char ' ' :: op.toText ++ .char ' ' :: literal
  | check f op => f ++ .char ' ' :: op.toText

/-! ### Null checks -/

/-- What stands in front of the words of a null check that end a text, and the blanks between.
Words and text are given reversed, and so is the answer. -/
def beforeWords? : List Text → Text → Text → Option (Text × Text)
  | [], blanks, reversed => some (blanks, reversed)
  | word :: more, _, reversed =>
    match Text.beforeKeyword? word reversed with
    | none => none
    | some (blanks, rest) => beforeWords? more blanks rest

/-- The field that stands in front of a null check. When nothing but blanks stand there, the
first of at least two blanks serves as the field. -/
def checkedField? (n : NullCheck) (clause : Text) : Option Text :=
  match beforeWords? n.words.reverse [] clause.reverse with
  | none => none
  | some (blanks, front) =>
    let field :=
      if front.isEmpty then (if 2 ≤ blanks.length then clause.take 1 else [])
      else front.reverse
    if field.isEmpty || field.contains '\n' then none else some field

/-! ### Comparisons -/

/-- What follows the words of a comparison that start a text, the first blank behind them
included. -/
def afterWords? : List Text → Text → Option Text
  | [], t => some t
  | [word], t => Text.afterKeyword? word t
  | word :: more, t =>
    match Text.afterKeyword? word t with
    | none => none
    | some rest =>
      if (Text.leadingBlank rest).isEmpty then none else afterWords? more (Text.dropBlank rest)

/-- The value that follows a comparison at the start of a text. Blanks separate the two; if
nothing else follows, the last of at least two blanks serves as the value. -/
def comparedValue? (op : Comparison) (t : Text) : Option Text :=
  match afterWords? op.words t with
  | none => none
  | some rest =>
    let blanks := Text.leadingBlank rest
    let value := Text.dropBlank rest
    if blanks.isEmpty then none
    else if !value.isEmpty then some value
    else if 2 ≤ blanks.length then some (blanks.drop (blanks.length - 1))
    else none

/-- The first of some comparisons that starts a text, and the value that follows it. -/
def matchComparison? (t : Text) : List Comparison → Option (Comparison × Text)
  | [] => none
  | op :: more =>
    match comparedValue? op t with
    | some value => some (op, value)
    | none => matchComparison? t more

/-- The first word of a clause and what follows the blanks behind it. There must be such blanks
and something behind them, and no line feed in it. -/
def cutField? (clause : Text) : Option (Text × Text) :=
  let field := Text.firstWord clause
  let behind := Text.afterWord clause
  let rest := Text.dropBlank behind
  if field.isEmpty || behind.isEmpty || rest.isEmpty || rest.contains '\n' then none
  else some (field, rest)

/-- The comparison that a clause is, if it is one. -/
def comparison? (clause : Text) : Option Condition :=
  match cutField? clause with
  | none => none
  | some (field, rest) =>
    match matchComparison? rest Comparison.matchOrder with
    | none => none
    | some (op, value) =>
      some (compare (Field.sanitize field) op (Literal.quote (Text.strip value)))

/-! ### Clauses -/

/-- The condition that a clause is, if it has one of the forms. -/
def ofClause? (clause : Text) : Option Condition :=
  match checkedField? .isNull clause with
  | some field => some (check (Field.sanitize (Text.strip field)) .isNull)
  | none =>
    match checkedField? .isNotNull clause with
    | some field => some (check (Field.sanitize (Text.strip field)) .isNotNull)
    | none => comparison? clause

end Condition

end TrackerQuery
