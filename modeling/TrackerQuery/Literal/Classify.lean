import TrackerQuery.Datum.Display
import TrackerQuery.Fault.Basic
import TrackerQuery.Literal.Quoted

/-!
# TrackerQuery.Literal.Classify

From a loosely typed value to **literal text**, in two steps.

`classify` brings a value into one of the five literal shapes: absence, truth
values, days and sequences have shapes of their own, and everything else becomes
the text of the value. `format` renders a classified value. A sequence is
classified item by item, while a value that is classified already passes through
as it is, so an array that a caller built may still hold values that `format`
refuses. Writing a number, be it as the text of a value or in a message, fails beyond
the limit on numerals.

A moment with an offset stands for its day in universal time when it is
classified, and a date literal that was built from a moment keeps the day that the
local calendar shows.
-/

namespace TrackerQuery.Datum

variable [Limits]

/-! ### Classification -/

/-- The day of a moment as a date literal. -/
def classifyMoment (m : Moment) : Except Fault Datum :=
  match m.utcDay? with
  | some d => .ok (dateLiteral (day d))
  | none => .error .dateOutOfRange

mutual

/-- The literal shape of a value. -/
def classify : Datum → Except Fault Datum
  | null => .ok nullLiteral
  | bool b => .ok (boolLiteral b)
  | moment m => classifyMoment m
  | day d => .ok (dateLiteral (day d))
  | list items =>
    match classifyAll items with
    | .ok literals => .ok (arrayLiteral literals)
    | .error e => .error e
  | tuple items =>
    match classifyAll items with
    | .ok literals => .ok (arrayLiteral literals)
    | .error e => .error e
  | nullLiteral => .ok nullLiteral
  | boolLiteral b => .ok (boolLiteral b)
  | dateLiteral value => .ok (dateLiteral value)
  | arrayLiteral items => .ok (arrayLiteral items)
  | textLiteral t => .ok (textLiteral t)
  | d =>
    match d.written with
    | .ok t => .ok (textLiteral t)
    | .error e => .error e

/-- The literal shapes of values in order; the first value that has none decides. -/
def classifyAll : List Datum → Except Fault (List Datum)
  | [] => .ok []
  | x :: rest =>
    match classify x with
    | .error e => .error e
    | .ok literal =>
      match classifyAll rest with
      | .error e => .error e
      | .ok literals => .ok (literal :: literals)

end

/-! ### Rendering -/

/-- The literal text of a day. -/
def formatDay (d : Day) : Text :=
  .char '\'' :: d.iso ++ [.char '\'']

/-- The day that a date literal shows. -/
def literalDay : Datum → Except Fault Day
  | day d => .ok d
  | moment m => .ok m.day
  | _ => .error .lacksOperation

mutual

/-- The literal text of a classified value. -/
def format : Datum → Except Fault Text
  | nullLiteral => .ok "null".toText
  | boolLiteral b => .ok (if b then "true".toText else "false".toText)
  | dateLiteral value =>
    match literalDay value with
    | .ok d => .ok (formatDay d)
    | .error e => .error e
  | arrayLiteral items =>
    match formatAll items with
    | .ok texts => .ok (.char '[' :: Text.join [','] texts ++ [.char ']'])
    | .error e => .error e
  | textLiteral t => .ok (Literal.quote t)
  | d =>
    match d.shown with
    | .ok t => .error (.unclassified t)
    | .error e => .error e

/-- The literal texts of classified values in order; the first value that has none decides. -/
def formatAll : List Datum → Except Fault (List Text)
  | [] => .ok []
  | x :: rest =>
    match format x with
    | .error e => .error e
    | .ok t =>
      match formatAll rest with
      | .error e => .error e
      | .ok ts => .ok (t :: ts)

end

/-- The literal text of any value. -/
def formatRaw (d : Datum) : Except Fault Text :=
  match classify d with
  | .ok literal => format literal
  | .error e => .error e

end TrackerQuery.Datum
