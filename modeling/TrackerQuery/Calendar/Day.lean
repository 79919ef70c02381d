import TrackerQuery.Text.Numeral

/-!
# TrackerQuery.Calendar.Day

**Calendar days** of the years 1 to 9999, in the Gregorian calendar extended
backwards.

A day is its year, month and day of the month, and a value of the type is always
a day that exists. Moving by one day follows the rules of the calendar; the
running count `ordinal` goes up by one with each such step, and the day of the
week is read off that count. No operation here moves by more than a week, so none
needs the way back from a count to a day.
-/

namespace TrackerQuery

/-- Whether a year has a 29th of February. -/
def isLeapYear (year : Nat) : Bool :=
  year % 4 == 0 && (year % 100 != 0 || year % 400 == 0)

/-- The number of days of a month. -/
def monthLength (year : Nat) : Nat → Nat
  | 2 => if isLeapYear year then 29 else 28
  | 4 | 6 | 9 | 11 => 30
  | _ => 31

/-- A day of the calendar. -/
structure Day where
  /-- Year, from 1 to 9999. -/
  year : Nat
  /-- Month, from 1 to 12. -/
  month : Nat
  /-- Day of the month, from 1. -/
  day : Nat
  /-- The day exists. -/
  valid : 1 ≤ year ∧ year ≤ 9999 ∧ 1 ≤ month ∧ month ≤ 12 ∧ 1 ≤ day ∧
    day ≤ monthLength year month
  deriving DecidableEq, Repr

namespace Day

/-- The day with the given parts, if there is one. -/
def ofParts? (year month day : Nat) : Option Day :=
  if h : 1 ≤ year ∧ year ≤ 9999 ∧ 1 ≤ month ∧ month ≤ 12 ∧ 1 ≤ day ∧
      day ≤ monthLength year month then
    some ⟨year, month, day, h⟩
  else none

/-- The first day of the range. -/
def first : Day := ⟨1, 1, 1, by decide⟩

/-- The last day of the range. -/
def last : Day := ⟨9999, 12, 31, by decide⟩

instance : Inhabited Day := ⟨first⟩

/-! ### One day forward and back -/

/-- The following day; `none` after the last one. -/
def next? (d : Day) : Option Day :=
  if d.day < monthLength d.year d.month then ofParts? d.year d.month (d.day + 1)
  else if d.month < 12 then ofParts? d.year (d.month + 1) 1
  else ofParts? (d.year + 1) 1 1

/-- The preceding day; `none` before the first one. -/
def prev? (d : Day) : Option Day :=
  if 1 < d.day then ofParts? d.year d.month (d.day - 1)
  else if 1 < d.month then ofParts? d.year (d.month - 1) (monthLength d.year (d.month - 1))
  else ofParts? (d.year - 1) 12 31

/-- The day a number of days before. -/
def back? (d : Day) : Nat → Option Day
  | 0 => some d
  | n + 1 =>
    match d.prev? with
    | none => none
    | some p => p.back? n

/-! ### Counting days -/

/-- The days before the first day of a year. -/
def daysBeforeYear (year : Nat) : Nat :=
  let y := year - 1
  365 * y + y / 4 - y / 100 + y / 400

/-- The days of a year before the first day of a month. -/
def daysBeforeMonth (year : Nat) : Nat → Nat
  | 0 => 0
  | 1 => 0
  | m + 1 => daysBeforeMonth year m + monthLength year m

/-- The running count of a day; the first day of the range has count 1. -/
def ordinal (d : Day) : Nat :=
  daysBeforeYear d.year + daysBeforeMonth d.year d.month + d.day

/-- The day of the week: 0 for Monday, 6 for Sunday. -/
def weekday (d : Day) : Nat :=
  (d.ordinal + 6) % 7

/-- The Monday of the week that a day belongs to. -/
def weekStart? (d : Day) : Option Day :=
  d.back? d.weekday

/-! ### Text -/

/-- The day as year, month and day of the month, four digits and twice two, with hyphens. -/
def iso (d : Day) : Text :=
  Text.padded 4 d.year ++ .char '-' :: Text.padded 2 d.month ++ .char '-' :: Text.padded 2 d.day

/-- The number that exactly `width` ASCII digits spell at the start of a text, and the rest. -/
def readFixed? (width : Nat) (t : Text) : Option (Nat × Text) :=
  let digits := t.take width
  if digits.length = width && digits.all CodePoint.isDigit then
    some (Text.natOfDigits digits, t.drop width)
  else none

/-- The day at the start of a text in the form of `iso`, and the rest. -/
def cutIso? (t : Text) : Option (Day × Text) :=
  match readFixed? 4 t with
  | some (year, '-' :: rest) =>
    match readFixed? 2 rest with
    | some (month, '-' :: rest) =>
      match readFixed? 2 rest with
      | some (day, rest) => (ofParts? year month day).map (·, rest)
      | none => none
    | _ => none
  | _ => none

/-- The day that a text in the form of `iso` names. -/
def ofIso? (t : Text) : Option Day :=
  match cutIso? t with
  | some (d, []) => some d
  | _ => none

end Day

end TrackerQuery
