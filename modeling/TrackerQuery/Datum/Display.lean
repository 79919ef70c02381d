import TrackerQuery.Binary64.Shortest
import TrackerQuery.Datum.Basic
import TrackerQuery.Fault.Basic
import TrackerQuery.Text.Numeral
import TrackerQuery.Text.Printable

/-!
# TrackerQuery.Datum.Display

The two **texts of a value**: `inspect` shows it so that its shape can be told,
with quotes around texts and the name of its type where brackets do not say it,
and `toText` is the text that a query sends for it.

The two differ for texts, days, moments, schemes and sort keys. Inside a list, a
tuple or a dictionary every value is inspected, also by `toText`.

A platform gives neither of them if a whole number in the value has too many digits to
be written (`exceeded?`); `shown` and `written` are the two texts with that failure.
-/

namespace TrackerQuery.Datum

/-- Parts in order with a comma and a space between neighbours. -/
def commaJoin (parts : List Text) : Text :=
  Text.join ", ".toText parts

/-- A name followed by arguments in parentheses. -/
def applied (name : String) (arguments : List Text) : Text :=
  name.toText ++ .char '(' :: commaJoin arguments ++ [.char ')']

/-- A named argument. -/
def argument (name : String) (value : Text) : Text :=
  name.toText ++ .char '=' :: value

/-! ### Parts of a moment -/

/-- A length of time of less than a day either way, as whole days and a rest that is not
negative, leaving out what is zero. -/
def inspectMicros (micros : Int) : Text :=
  let days := Int.fdiv micros dayMicros
  let rest := Int.fmod micros dayMicros
  let parts := [("days", days), ("seconds", Int.fdiv rest 1000000),
    ("microseconds", Int.fmod rest 1000000)].filter fun p => p.2 != 0
  applied "datetime.timedelta"
    (if parts.isEmpty then ["0".toText] else parts.map fun p => argument p.1 (Text.ofInt p.2))

/-- The offset of a clock, universal time by its name. -/
def inspectOffset (o : Offset) : Text :=
  if o.micros = 0 then "datetime.timezone.utc".toText
  else applied "datetime.timezone" [inspectMicros o.micros]

/-- The display of a day. -/
def inspectDay (d : Day) : Text :=
  applied "datetime.date" [Text.ofNat d.year, Text.ofNat d.month, Text.ofNat d.day]

/-- The display of a moment; seconds and microseconds only as far as they are not zero. -/
def inspectMoment (m : Moment) : Text :=
  let c := m.clock
  let small :=
    if c.micro ≠ 0 then [c.second, c.micro] else if c.second ≠ 0 then [c.second] else []
  applied "datetime.datetime"
    (([m.day.year, m.day.month, m.day.day, c.hour, c.minute] ++ small).map Text.ofNat ++
      match m.offset with
      | none => []
      | some o => [argument "tzinfo" (inspectOffset o)])

/-! ### Inspection -/

/-- The display of a truth value. -/
def inspectBool (b : Bool) : Text :=
  if b then "True".toText else "False".toText

/-- The attributes of a sort key with their values. -/
def sortItemParts (item : SortItem) : List Text :=
  [argument "field" (Text.inspect item.field),
   argument "direction" (Text.inspect item.direction.name)]

/-- Items between brackets that mark a sequence of fixed length: one item alone is followed by a
comma. -/
def tupleOf : List Text → Text
  | [x] => .char '(' :: x ++ ",)".toText
  | parts => .char '(' :: commaJoin parts ++ [.char ')']

mutual

/-- The display of a value that tells its shape. -/
def inspect : Datum → Text
  | null => "None".toText
  | bool b => inspectBool b
  | int n => Text.ofInt n
  | float x => x.toText
  | text t => Text.inspect t
  | list items => .char '[' :: commaJoin (inspectAll items) ++ [.char ']']
  | tuple items => tupleOf (inspectAll items)
  | dict entries => .char '\x7b' :: commaJoin (inspectEntries entries) ++ [.char '\x7d']
  | day d => inspectDay d
  | moment m => inspectMoment m
  | sortItem item => applied "OrderByItem" (sortItemParts item)
  | scheme s => "<AuthScheme.".toText ++ s.member ++ ": ".toText ++
    Text.inspect s.name ++ [.char '>']
  | nullLiteral => applied "NullValue" []
  | boolLiteral b => applied "BoolValue" [argument "value" (inspectBool b)]
  | dateLiteral value => applied "DateValue" [argument "value" (inspect value)]
  | arrayLiteral items => applied "ArrayValue" [argument "items" (tupleOf (inspectAll items))]
  | textLiteral t => applied "TextValue" [argument "value" (Text.inspect t)]

/-- The displays of values in order. -/
def inspectAll : List Datum → List Text
  | [] => []
  | x :: rest => inspect x :: inspectAll rest

/-- The displays of entries in order, a colon and a space between key and value. -/
def inspectEntries : List (Datum × Datum) → List Text
  | [] => []
  | (k, v) :: rest => (inspect k ++ ": ".toText ++ inspect v) :: inspectEntries rest

end

/-! ### Text -/

/-- The text of a value. -/
def toText : Datum → Text
  | text t => t
  | day d => d.iso
  | moment m => m.isoWith ' '
  | scheme s => "AuthScheme.".toText ++ s.member
  | sortItem item => Text.join " ".toText (sortItemParts item)
  | d => inspect d

/-! ### The limit on numerals -/

section Limits

variable [Limits]

mutual

/-- The limit on numerals, if a whole number in a value exceeds it. -/
def exceeded? : Datum → Option Nat
  | int n => Text.exceeded? (Text.ofNat n.natAbs).length
  | list items => exceededIn? items
  | tuple items => exceededIn? items
  | dict entries => exceededInEntries? entries
  | dateLiteral value => exceeded? value
  | arrayLiteral items => exceededIn? items
  | _ => none

/-- The limit on numerals, if a whole number in some values exceeds it. -/
def exceededIn? : List Datum → Option Nat
  | [] => none
  | x :: rest => (exceeded? x).or (exceededIn? rest)

/-- The limit on numerals, if a whole number in some entries exceeds it. -/
def exceededInEntries? : List (Datum × Datum) → Option Nat
  | [] => none
  | (k, v) :: rest => ((exceeded? k).or (exceeded? v)).or (exceededInEntries? rest)

end

/-- A text of a value, unless a whole number in the value exceeds the limit. -/
def unlessExceeded (d : Datum) (t : Text) : Except Fault Text :=
  match d.exceeded? with
  | some most => .error (.badValue (.longNumber most))
  | none => .ok t

/-- The display of a value, if the platform gives one. -/
def shown (d : Datum) : Except Fault Text :=
  d.unlessExceeded d.inspect

/-- The text of a value, if the platform gives one. -/
def written (d : Datum) : Except Fault Text :=
  d.unlessExceeded d.toText

end Limits

end TrackerQuery.Datum
