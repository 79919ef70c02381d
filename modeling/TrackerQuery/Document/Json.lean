import TrackerQuery.Datum.Basic
import TrackerQuery.Fault.Basic
import TrackerQuery.Text.CodeUnit

/-!
# TrackerQuery.Document.Json

Reading **JSON documents**.

The reader follows the standard grammar and adds the three numbers that have no
digits (`NaN`, `Infinity`, `-Infinity`). A numeral without fraction and exponent
is a whole number, of any size up to the limit on numerals; any other is a floating
point number. Collections may be nested up to the limit on nesting. A member that
occurs twice keeps its first place and takes its last value.

Every function takes the text from where it stands and returns what is left. A
flaw is reported with the number of characters that were left, from which the
place in the document follows.
-/

namespace TrackerQuery.Json

/-- Why reading stopped. -/
inductive Stop where
  /-- The text has a flaw with this many characters left. -/
  | flaw (f : JsonFlaw) (left : Nat)
  /-- A whole number has more digits than the platform reads. -/
  | longNumeral (most digits : Nat)
  /-- Collections are nested deeper than the platform follows. -/
  | tooDeep
  deriving DecidableEq, Repr

/-- A value and what is left of the text. -/
abbrev Reading (α : Type) := Except Stop (α × Text)

/-- White space between tokens. -/
def isSpace (c : CodePoint) : Bool :=
  c == ' ' || c == '\t' || c == '\n' || c == '\r'

/-- The text without white space in front. -/
def skipSpace (t : Text) : Text :=
  t.dropWhile isSpace

/-- A flaw where a text stands. -/
def flawAt {α : Type} (f : JsonFlaw) (t : Text) : Except Stop α :=
  .error (.flaw f t.length)

/-! ### Strings -/

/-- The code that a one-letter escape names. -/
def escapeCode? : CodePoint → Option Nat
  | '"' => some 34
  | '\\' => some 92
  | '/' => some 47
  | 'b' => some 8
  | 'f' => some 12
  | 'n' => some 10
  | 'r' => some 13
  | 't' => some 9
  | _ => none

/-- The code that four hexadecimal digits name. -/
def code4? (a b c d : CodePoint) : Option Nat :=
  Text.readDigits? Text.hexDigit? 16 0 [a, b, c, d]

/-- The codes of a string from behind its opening quote. `start` is the number of characters that
were left in front of the string, and `codes` those read so far, last one first. -/
def stringFrom (start : Nat) (codes : List Nat) : Text → Except Stop (List Nat × Text)
  | [] => .error (.flaw .unterminatedString start)
  | '"' :: rest => .ok (codes.reverse, rest)
  | ['\\'] => .error (.flaw .unterminatedString start)
  | '\\' :: 'u' :: a :: b :: c :: d :: rest =>
    match code4? a b c d with
    | some n => stringFrom start (n :: codes) rest
    | none => .error (.flaw .badCodeEscape (rest.length + 5))
  | '\\' :: e :: rest =>
    match escapeCode? e with
    | some n => stringFrom start (n :: codes) rest
    | none =>
      if e = 'u' then .error (.flaw .badCodeEscape (rest.length + 1))
      else .error (.flaw .badEscape (rest.length + 2))
  | c :: rest =>
    if c.toNat < 32 then .error (.flaw .controlCharacter (rest.length + 1))
    else stringFrom start (c.toNat :: codes) rest

/-- A string from behind its opening quote. -/
def string (t : Text) : Reading Text :=
  match stringFrom (t.length + 1) [] t with
  | .ok (codes, rest) => .ok (Text.ofCodes codes, rest)
  | .error e => .error e

/-! ### Numbers and words -/

/-- The digits of a whole part: a zero alone, or digits that start with another one. -/
def wholeDigits (t : Text) : Text × Text :=
  match t with
  | '0' :: rest => (['0'], rest)
  | _ => (t.takeWhile CodePoint.isDigit, t.dropWhile CodePoint.isDigit)

/-- The digits behind a point, if there are any, and what is left. -/
def fractionDigits (t : Text) : Text × Text :=
  match t with
  | '.' :: rest =>
    if (rest.takeWhile CodePoint.isDigit).isEmpty then ([], t)
    else (rest.takeWhile CodePoint.isDigit, rest.dropWhile CodePoint.isDigit)
  | _ => ([], t)

/-- A number at the start of a text. -/
def number [Limits] (t : Text) : Reading Datum :=
  let (negative, body) : Bool × Text :=
    match t with
    | '-' :: rest => (true, rest)
    | _ => (false, t)
  let (whole, afterWhole) := wholeDigits body
  if whole.isEmpty then flawAt .expectedValue t
  else
    let (fraction, afterFraction) := fractionDigits afterWhole
    let (exponent, rest) := Binary64.cutExponent afterFraction
    if fraction.isEmpty && rest.length == afterWhole.length then
      match Text.exceeded? whole.length with
      | some most => .error (.longNumeral most whole.length)
      | none => .ok (.int (Text.signed negative (Text.natOfDigits whole)), rest)
    else .ok (.float (Binary64.ofNumeral negative ⟨whole, fraction, exponent⟩), rest)

/-- The words that are values. -/
def namedValues : List (Text × Datum) :=
  [("null".toText, .null), ("true".toText, .bool true), ("false".toText, .bool false),
   ("NaN".toText, .float .nan), ("Infinity".toText, .float (.infinite false)),
   ("-Infinity".toText, .float (.infinite true))]

/-- The value of the first of some words that starts a text, and what is left. -/
def namedValue? (t : Text) : List (Text × Datum) → Option (Datum × Text)
  | [] => none
  | (word, d) :: more =>
    match Text.after? word t with
    | some rest => some (d, rest)
    | none => namedValue? t more

/-- A value that is no string, list or dictionary. -/
def scalar [Limits] (t : Text) : Reading Datum :=
  match namedValue? t namedValues with
  | some r => .ok r
  | none => number t

/-! ### Values -/

mutual

/-- A value at the start of a text, in which collections may be nested to a depth. -/
def value [Limits] : Nat → Nat → Text → Reading Datum
  | 0, _, t => flawAt .expectedValue t
  | fuel + 1, depth, t =>
    match t with
    | '"' :: rest =>
      match string rest with
      | .ok (s, rest) => .ok (.text s, rest)
      | .error e => .error e
    | '[' :: rest =>
      match depth with
      | 0 => .error .tooDeep
      | depth + 1 =>
        match skipSpace rest with
        | ']' :: rest => .ok (.list [], rest)
        | rest =>
          match items fuel depth rest with
          | .ok (xs, rest) => .ok (.list xs, rest)
          | .error e => .error e
    | '\x7b' :: rest =>
      match depth with
      | 0 => .error .tooDeep
      | depth + 1 =>
        match skipSpace rest with
        | '\x7d' :: rest => .ok (.dict [], rest)
        | rest =>
          match members fuel depth rest with
          | .ok (pairs, rest) => .ok (.dict (Datum.ofPairs pairs), rest)
          | .error e => .error e
    | _ => scalar t

/-- The items of a list, from the first one to behind the closing bracket. -/
def items [Limits] : Nat → Nat → Text → Reading (List Datum)
  | 0, _, t => flawAt .expectedValue t
  | fuel + 1, depth, t =>
    match value fuel depth t with
    | .error e => .error e
    | .ok (x, rest) =>
      match skipSpace rest with
      | ']' :: rest => .ok ([x], rest)
      | ',' :: rest =>
        match items fuel depth (skipSpace rest) with
        | .ok (xs, rest) => .ok (x :: xs, rest)
        | .error e => .error e
      | rest => flawAt .expectedComma rest

/-- The members of a dictionary, from the first one to behind the closing brace. -/
def members [Limits] : Nat → Nat → Text → Reading (List (Datum × Datum))
  | 0, _, t => flawAt .expectedName t
  | fuel + 1, depth, t =>
    match t with
    | '"' :: rest =>
      match string rest with
      | .error e => .error e
      | .ok (name, rest) =>
        match skipSpace rest with
        | ':' :: rest =>
          match value fuel depth (skipSpace rest) with
          | .error e => .error e
          | .ok (x, rest) =>
            match skipSpace rest with
            | '\x7d' :: rest => .ok ([(.text name, x)], rest)
            | ',' :: rest =>
              match members fuel depth (skipSpace rest) with
              | .ok (pairs, rest) => .ok ((.text name, x) :: pairs, rest)
              | .error e => .error e
            | rest => flawAt .expectedComma rest
        | rest => flawAt .expectedColon rest
    | _ => flawAt .expectedName t

end

/-! ### Documents -/

/-- The value that a whole text is. -/
def document [Limits] (t : Text) : Except Stop Datum :=
  match t with
  | '\uFEFF' :: _ => flawAt .byteOrderMark t
  | _ =>
    match value (2 * t.length + 2) Limits.nesting (skipSpace t) with
    | .error e => .error e
    | .ok (d, rest) =>
      let rest := skipSpace rest
      if rest.isEmpty then .ok d else flawAt .extraData rest

/-- The number of lines of a text and the length of its last one, both counted from 1. -/
def lineAndColumn (t : Text) : Nat × Nat :=
  t.foldl (fun (line, column) c => if c = .char '\n' then (line + 1, 1) else (line, column + 1))
    (1, 1)

/-- The value of a JSON document. -/
def read [Limits] (t : Text) : Except Fault Datum :=
  match document t with
  | .ok d => .ok d
  | .error (.longNumeral most digits) => .error (.badValue (.longNumeral most digits))
  | .error .tooDeep => .error .tooDeep
  | .error (.flaw f left) =>
    let position := t.length - left
    let (line, column) := lineAndColumn (t.take position)
    .error (.document (.json f line column position))

end TrackerQuery.Json
