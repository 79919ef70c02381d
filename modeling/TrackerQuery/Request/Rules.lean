import TrackerQuery.Datum.Basic
import TrackerQuery.Fault.Basic
import TrackerQuery.Text.Numeral

/-!
# TrackerQuery.Request.Rules

**Checking loosely typed values** against the types of fields.

A check yields what the value stands for, or every issue it finds. Checks of
several fields run side by side (`Checked.both`), so a report lists the issues of
all fields in the order in which the fields are checked.

A whole number may come as a number, as a truth value, as a floating point number
without a fractional part that fits 64 bits, or as a text that spells it.
-/

namespace TrackerQuery

/-- What a value stands for, or what is wrong with it. -/
abbrev Checked (α : Type) := Except (List Issue) α

namespace Checked

variable {α β : Type}

/-- A value with one thing wrong about it as a whole. -/
def flawed (p : Problem) : Checked α :=
  .error [⟨p, []⟩]

/-- Two checks side by side; the issues of both are kept. -/
def both : Checked α → Checked β → Checked (α × β)
  | .ok a, .ok b => .ok (a, b)
  | .error xs, .ok _ => .error xs
  | .ok _, .error ys => .error ys
  | .error xs, .error ys => .error (xs ++ ys)

/-- A check with what it yields converted. -/
def map (f : α → β) : Checked α → Checked β
  | .ok a => .ok (f a)
  | .error xs => .error xs

/-- A check of a part, its issues placed as those of the whole. -/
def within (place : Place) : Checked α → Checked α
  | .ok a => .ok a
  | .error xs => .error (xs.map (Issue.within place))

/-- The result of a check, or the report as a fault. -/
def report : Checked α → Except Fault α
  | .ok a => .ok a
  | .error xs => .error (.invalid xs)

/-- The checks of items in order, each placed at its index. -/
def items (check : Datum → Checked α) (index : Nat) : List Datum → Checked (List α)
  | [] => .ok []
  | d :: rest =>
    ((within (.index index) (check d)).both (items check (index + 1) rest)).map fun p =>
      p.1 :: p.2

end Checked

namespace Request

/-! ### Texts -/

/-- A text. -/
def text (d : Datum) : Checked Text :=
  match d.asText? with
  | some t => .ok t
  | none => Checked.flawed .notText

/-- A text whose characters matter, so that no surrogate may stand alone in it. -/
def unicodeText (d : Datum) : Checked Text :=
  match text d with
  | .ok t => if t.isEncodable then .ok t else Checked.flawed .notUnicode
  | r => r

/-- A text that is not empty. -/
def nonEmptyText (d : Datum) : Checked Text :=
  match unicodeText d with
  | .ok [] => Checked.flawed .emptyText
  | r => r

/-- Whether a text is the name of an entity type: a letter, then letters and digits. -/
def isTypeName : Text → Bool
  | [] => false
  | c :: rest => c.isAlpha && rest.all CodePoint.isAlphanum

/-- The name of an entity type. -/
def typeName (d : Datum) : Checked Text :=
  match unicodeText d with
  | .ok t => if isTypeName t then .ok t else Checked.flawed .notTypeName
  | r => r

/-! ### Whole numbers -/

/-- The blanks that may surround a numeral. The four separators U+001C to U+001F are not among
them. -/
def isNumeralBlank (c : CodePoint) : Bool :=
  Text.isBlank c && !(28 ≤ c.toNat && c.toNat ≤ 31)

/-- A numeral without the blanks around it. -/
def trimNumeral (t : Text) : Text :=
  ((t.dropWhile isNumeralBlank).reverse.dropWhile isNumeralBlank).reverse

/-- A numeral without a point and zeros at its end. The point needs at least one zero. -/
def dropZeroFraction (t : Text) : Text :=
  let tail := t.reverse.dropWhile (· == .char '0')
  match tail with
  | '.' :: rest => if tail.length < t.length then rest.reverse else t
  | _ => t

/-- The most digits of a numeral in a payload. -/
def maxNumeralDigits : Nat := 4300

/-- The whole number that a text spells: a sign, ASCII digits with single underscores between
them, and optionally a fraction of zeros. -/
def numeral (t : Text) : Checked Int :=
  let (negative, body) := Text.cutSign (trimNumeral t)
  match Text.dropUnderscores? CodePoint.isDigit false (dropZeroFraction body) with
  | none => Checked.flawed .notNumeral
  | some digits =>
    if maxNumeralDigits < digits.length then Checked.flawed .tooLarge
    else .ok (Text.signed negative (Text.natOfDigits digits))

/-- The whole number that a floating point number is. -/
def wholeFloat (x : Binary64) : Checked Int :=
  match x with
  | .finite _ _ _ =>
    match x.toInt? with
    | none => Checked.flawed .fractional
    | some n =>
      if -(Int.pow 2 63) < n && n < Int.pow 2 63 then .ok n else Checked.flawed .tooLarge
  | _ => Checked.flawed .notFinite

/-- A whole number. -/
def integer : Datum → Checked Int
  | .int n => .ok n
  | .bool b => .ok (if b then 1 else 0)
  | .float x => wholeFloat x
  | d =>
    match d.asText? with
    | some t => if t.isEncodable then numeral t else Checked.flawed .notUnicode
    | none => Checked.flawed .notInteger

/-- A whole number of at least 1. -/
def positive (d : Datum) : Checked Nat :=
  match integer d with
  | .ok n => if n < 1 then Checked.flawed .belowOne else .ok n.toNat
  | .error xs => .error xs

/-- A whole number from 1 to 1000. -/
def pageSize (d : Datum) : Checked Nat :=
  match positive d with
  | .ok n => if 1000 < n then Checked.flawed .aboveThousand else .ok n
  | .error xs => .error xs

/-! ### Absence and lists -/

/-- A value that may be absent. -/
def optional {α : Type} (check : Datum → Checked α) : Datum → Checked (Option α)
  | .null => .ok none
  | d => (check d).map some

/-- A list with every item checked. -/
def listOf {α : Type} (check : Datum → Checked α) : Datum → Checked (List α)
  | .list xs => Checked.items check 0 xs
  | .tuple xs => Checked.items check 0 xs
  | _ => Checked.flawed .notList

/-! ### Fields -/

/-- A field that has to be there. -/
def required {α : Type} (entries : List (Datum × Datum)) (name : String)
    (check : Datum → Checked α) : Checked α :=
  Checked.within (.name name.toText)
    (match Datum.lookupText name.toText entries with
    | some d => check d
    | none => Checked.flawed .missing)

/-- A field with a value for its absence. -/
def withDefault {α : Type} (entries : List (Datum × Datum)) (name : String) (absent : α)
    (check : Datum → Checked α) : Checked α :=
  match Datum.lookupText name.toText entries with
  | some d => Checked.within (.name name.toText) (check d)
  | none => .ok absent

end Request

end TrackerQuery
