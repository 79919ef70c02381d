import TrackerQuery.Datum.Display
import TrackerQuery.Fault.Basic
import TrackerQuery.Text.Numeral

/-!
# TrackerQuery.Document.Yaml.Resolve

What a **plain scalar** stands for.

A plain scalar is a truth value, a number, a date, a moment or nothing at all if
it is written like one, and a text otherwise. Whole numbers come in five spellings
(decimal, binary, octal, hexadecimal, sexagesimal) and may have underscores among
their digits; floating point numbers need a point; a date is written with hyphens.
Two spellings are reserved: `<<` for merging mappings, and `=`.

A spelling can have the form of a number or a date without being one, such as the
31st of February; that is an error, not a text.
-/

namespace TrackerQuery.Yaml

/-- What a plain scalar stands for. -/
inductive Resolved where
  /-- A value. -/
  | datum (d : Datum)
  /-- The mark of mappings to be merged. -/
  | merge
  /-- The mark of a default value. -/
  | defaultMark
  deriving Repr

/-! ### Words -/

/-- The words that are truth values or nothing. -/
def words : List (List String × Datum) :=
  [(["yes", "Yes", "YES", "true", "True", "TRUE", "on", "On", "ON"], .bool true),
   (["no", "No", "NO", "false", "False", "FALSE", "off", "Off", "OFF"], .bool false),
   (["", "~", "null", "Null", "NULL"], .null)]

/-- The value of a word. -/
def word? (t : Text) : Option Datum :=
  (words.find? fun w => w.1.any fun s => s.toText == t).map Prod.snd

/-! ### Whole numbers -/

/-- Whether a text is not empty and has only characters of a kind and underscores. -/
def isRun (kind : CodePoint → Bool) (t : Text) : Bool :=
  !t.isEmpty && t.all fun c => kind c || c == '_'

/-- Whether a text is a digit and then digits and underscores. -/
def isDigitRun : Text → Bool
  | [] => false
  | c :: rest => c.isDigit && rest.all fun d => d.isDigit || d == '_'

/-- Whether a text is a sexagesimal digit: a number below 60 of one or two digits. -/
def isSixtieth : Text → Bool
  | [c] => c.isDigit
  | [c, d] => '0' ≤ c && c ≤ '5' && d.isDigit
  | _ => false

/-- The text without underscores. -/
def bare (t : Text) : Text :=
  t.filter (· != '_')

/-- A number from its digits in a base; no digits are an error. -/
def inBase (base : Nat) (digits : Text) : Except BadValue Nat :=
  if digits.isEmpty then .error (.noDigits base)
  else .ok ((Text.readDigits? Text.hexDigit? base 0 digits).getD 0)

/-- A number from its decimal digits, if the platform reads that many. -/
def inTen [Limits] (digits : Text) : Except BadValue Nat :=
  match Text.exceeded? digits.length with
  | some most => .error (.longNumeral most digits.length)
  | none => .ok (Text.natOfDigits digits)

/-- A number from its sexagesimal digits, the first of them any decimal number. -/
def inSixty [Limits] (value : Nat) : List Text → Except BadValue Nat
  | [] => .ok value
  | part :: rest =>
    match inTen part with
    | .error e => .error e
    | .ok n => inSixty (value * 60 + n) rest

/-- Whether a text is a plain decimal number: a zero alone, or one that starts with no zero. -/
def isDecimal : Text → Bool
  | ['0'] => true
  | t => isDigitRun t && t.head? != some (.char '0')

/-- Whether a text is a sexagesimal number. -/
def isSexagesimal (t : Text) : Bool :=
  match Text.pieces ':' t with
  | first :: part :: rest =>
    isDigitRun first && first.head? != some (.char '0') && (part :: rest).all isSixtieth
  | _ => false

/-- The magnitude of a whole number, if a text without its sign has the form of one. -/
def magnitude? [Limits] (t : Text) : Option (Except BadValue Nat) :=
  match t with
  | '0' :: 'b' :: digits =>
    if isRun (fun c => c == '0' || c == '1') digits then some (inBase 2 (bare digits)) else none
  | '0' :: 'x' :: digits =>
    if isRun (fun c => (Text.hexDigit? c).isSome) digits then some (inBase 16 (bare digits))
    else none
  | '0' :: d :: digits =>
    if isRun (fun c => '0' ≤ c && c ≤ '7') (d :: digits) then
      some (inBase 8 (bare ('0' :: d :: digits)))
    else none
  | _ =>
    if isDecimal t then some (inTen (bare t))
    else if isSexagesimal t then some (inSixty 0 (Text.pieces ':' (bare t)))
    else none

/-- The whole number that a text spells, if it has the form of one. -/
def int? [Limits] (t : Text) : Option (Except BadValue Int) :=
  let (negative, body) := Text.cutSign t
  (magnitude? body).map fun r =>
    match r with
    | .ok n => .ok (Text.signed negative n)
    | .error e => .error e

/-! ### Floating point numbers -/

/-- Whether a text is empty or an exponent with its sign. -/
def isExponent : Text → Bool
  | [] => true
  | e :: sign :: digits =>
    (e == 'e' || e == 'E') && (sign == '+' || sign == '-') && !digits.isEmpty &&
      digits.all CodePoint.isDigit
  | _ => false

/-- A digit or an underscore. -/
def isDigitMark (c : CodePoint) : Bool :=
  c.isDigit || c == '_'

/-- Whether a text has a point among digits, and perhaps an exponent. Only a number without a
sign may start with the point, and a digit has to follow it then. -/
def isPointed (signed : Bool) (t : Text) : Bool :=
  match t.takeWhile isDigitMark, t.dropWhile isDigitMark with
  | [], '.' :: rest =>
    !signed && isDigitRun (rest.takeWhile isDigitMark) && isExponent (rest.dropWhile isDigitMark)
  | whole, '.' :: rest => isDigitRun whole && isExponent (rest.dropWhile isDigitMark)
  | _, _ => false

/-- Whether a text is a sexagesimal number with a fraction. -/
def isPointedSexagesimal (t : Text) : Bool :=
  match Text.cutAt '.' t with
  | none => false
  | some (whole, fraction) =>
    fraction.all isDigitMark &&
      match Text.pieces ':' whole with
      | first :: part :: rest => isDigitRun first && (part :: rest).all isSixtieth
      | _ => false

/-- The sum of sexagesimal digits, least significant first, each times its power of sixty. -/
def sexagesimalSum (base : Nat) (sum : Binary64) : List Text → Binary64
  | [] => sum
  | part :: rest =>
    let digit := Binary64.ofNumeral false (Binary64.cutNumeral part).1
    let product := Binary64.mulMagnitudes digit (Binary64.ofInt base)
    sexagesimalSum (base * 60) (Binary64.addMagnitudes sum product) rest

/-- The magnitude of a floating point number, if a text without its sign has the form of one. -/
def floatMagnitude? (signed : Bool) (t : Text) : Option Binary64 :=
  if isPointed signed t then some (Binary64.ofNumeral false (Binary64.cutNumeral (bare t)).1)
  else if isPointedSexagesimal t then
    some (sexagesimalSum 1 (.finite false 0 Binary64.minExponent)
      (Text.pieces ':' (bare t)).reverse)
  else if t == ".inf".toText || t == ".Inf".toText || t == ".INF".toText then
    some (.infinite false)
  else if !signed && (t == ".nan".toText || t == ".NaN".toText || t == ".NAN".toText) then some .nan
  else none

/-- The floating point number that a text spells, if it has the form of one. -/
def float? (t : Text) : Option Binary64 :=
  let (negative, body) := Text.cutSign t
  (floatMagnitude? (body.length != t.length) body).map fun x => if negative then x.negate else x

/-! ### Dates and moments -/

/-- A number of one or two digits at the start of a text, and what is left. -/
def oneOrTwo? (t : Text) : Option (Nat × Text) :=
  match Day.readFixed? 2 t with
  | some r => some r
  | none => Day.readFixed? 1 t

/-- The year, month and day of a date with a given reader for the month and the day. -/
def dateParts? (two? : Text → Option (Nat × Text)) (t : Text) : Option (Nat × Nat × Nat × Text) :=
  match Day.readFixed? 4 t with
  | some (year, '-' :: rest) =>
    match two? rest with
    | some (month, '-' :: rest) =>
      match two? rest with
      | some (day, rest) => some (year, month, day, rest)
      | none => none
    | _ => none
  | _ => none

/-- The day of a year, a month and a day of the month. -/
def dayOf (year month day : Nat) : Except BadValue Day :=
  match Day.ofParts? year month day with
  | some d => .ok d
  | none =>
    .error (.outsideRange
      (if year = 0 then "year 0 is out of range"
      else if month < 1 || 12 < month then "month must be in 1..12"
      else "day is out of range for month").toText)

/-- The separator of date and time, dropped: a letter, or spaces and tabs. -/
def afterSeparator? : Text → Option Text
  | 'T' :: rest => some rest
  | 't' :: rest => some rest
  | t =>
    let rest := t.dropWhile fun c => c == .char ' ' || c == .char '\t'
    if rest.length < t.length then some rest else none

/-- The hour, minute and second of a time, and what is left. -/
def timeParts? (t : Text) : Option (Nat × Nat × Nat × Text) :=
  match oneOrTwo? t with
  | some (hour, ':' :: rest) =>
    match Day.readFixed? 2 rest with
    | some (minute, ':' :: rest) =>
      match Day.readFixed? 2 rest with
      | some (second, rest) => some (hour, minute, second, rest)
      | none => none
    | _ => none
  | _ => none

/-- A fraction of a second in microseconds, cut off behind six digits, and what is left. -/
def fraction (t : Text) : Nat × Text :=
  match t with
  | '.' :: rest =>
    let digits := (rest.takeWhile CodePoint.isDigit).take 6
    (Text.natOfDigits (digits ++ List.replicate (6 - digits.length) (.char '0')),
      rest.dropWhile CodePoint.isDigit)
  | _ => (0, t)

/-- The seconds of an offset that ends a text, if there is one; `none` if the text ends in
something else. -/
def offset? (t : Text) : Option (Option Int) :=
  match t.dropWhile fun c => c == .char ' ' || c == .char '\t' with
  | [] => if t.isEmpty then some none else none
  | ['Z'] => some (some 0)
  | sign :: rest =>
    if sign == '+' || sign == '-' then
      match oneOrTwo? rest with
      | some (hours, []) => some (some (Text.signed (sign == '-') (hours * 3600)))
      | some (hours, ':' :: rest) =>
        match Day.readFixed? 2 rest with
        | some (minutes, []) =>
          some (some (Text.signed (sign == '-') (hours * 3600 + minutes * 60)))
        | _ => none
      | _ => none
    else none

/-- The offset of a number of seconds. -/
def offsetOf (seconds : Int) : Except BadValue Offset :=
  match Offset.ofSeconds? seconds with
  | some o => .ok o
  | none =>
    .error (.outsideRange
      ("offset must be a timedelta strictly between -timedelta(hours=24) and ".toText ++
        "timedelta(hours=24), not ".toText ++
          Datum.inspectMicros (seconds * 1000000) ++ [.char '.']))

/-- The time of an hour, a minute, a second and a fraction. -/
def clockOf (hour minute second micro : Nat) : Except BadValue Clock :=
  match Clock.ofParts? hour minute second micro with
  | some c => .ok c
  | none =>
    .error (.outsideRange
      (if 23 < hour then "hour must be in 0..23"
      else if 59 < minute then "minute must be in 0..59"
      else "second must be in 0..59").toText)

/-- The moment of the given parts. The offset is judged first, then the day, then the time. -/
def momentOf (year month day hour minute second micro : Nat) (offset : Option Int) :
    Except BadValue Datum := do
  let offset ←
    match offset with
    | none => pure none
    | some s =>
      let o ← offsetOf s
      pure (some o)
  let d ← dayOf year month day
  let c ← clockOf hour minute second micro
  return .moment ⟨d, c, offset⟩

/-- The date or the moment that a text spells, if it has the form of one. -/
def timestamp? (t : Text) : Option (Except BadValue Datum) :=
  match dateParts? (Day.readFixed? 2) t with
  | some (year, month, day, []) =>
    some (match dayOf year month day with
      | .ok d => .ok (.day d)
      | .error e => .error e)
  | _ =>
    match dateParts? oneOrTwo? t with
    | none => none
    | some (year, month, day, rest) =>
      match afterSeparator? rest with
      | none => none
      | some rest =>
        match timeParts? rest with
        | none => none
        | some (hour, minute, second, rest) =>
          let (micro, rest) := fraction rest
          (offset? rest).map fun o => momentOf year month day hour minute second micro o

/-! ### All together -/

/-- What a plain scalar stands for. -/
def resolve [Limits] (t : Text) : Except BadValue Resolved :=
  if t = "<<".toText then .ok .merge
  else if t = "=".toText then .ok .defaultMark
  else
    match word? t with
    | some d => .ok (.datum d)
    | none =>
      match float? t with
      | some x => .ok (.datum (.float x))
      | none =>
        match int? t with
        | some (.ok n) => .ok (.datum (.int n))
        | some (.error e) => .error e
        | none =>
          match timestamp? t with
          | some (.ok d) => .ok (.datum d)
          | some (.error e) => .error e
          | none => .ok (.datum (.text t))

end TrackerQuery.Yaml
