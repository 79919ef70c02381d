import TrackerQuery.Calendar.Day

/-!
# TrackerQuery.Calendar.Moment

A **moment**: a day, a time of that day, and possibly the distance of the local
clock from universal time.

A moment without an offset belongs to no place and keeps its own day. One with an
offset is an instant, and its day in universal time is found by taking the offset
off the time of day: since an offset is less than a day, the result lies on the
same day or on a neighbour, and it does not exist when that neighbour lies outside
the range of days.
-/

namespace TrackerQuery

/-- A time of day, to the microsecond. -/
structure Clock where
  /-- Hour, below 24. -/
  hour : Nat
  /-- Minute, below 60. -/
  minute : Nat
  /-- Second, below 60. -/
  second : Nat
  /-- Microsecond, below a million. -/
  micro : Nat
  /-- The time exists. -/
  valid : hour < 24 ∧ minute < 60 ∧ second < 60 ∧ micro < 1000000
  deriving DecidableEq, Repr

/-- The microseconds of a day. -/
def dayMicros : Nat := 86400000000

/-- How far a local clock is ahead of universal time, less than a day either way. -/
structure Offset where
  /-- Microseconds ahead; negative if behind. -/
  micros : Int
  /-- The offset is less than a day. -/
  bounded : -(dayMicros : Int) < micros ∧ micros < dayMicros
  deriving DecidableEq, Repr

/-- A day with a time of day, and the offset of its clock if that is known. -/
structure Moment where
  /-- The day that the local calendar shows. -/
  day : Day
  /-- The time that the local clock shows. -/
  clock : Clock
  /-- How far the local clock is ahead of universal time. -/
  offset : Option Offset
  deriving DecidableEq, Repr

namespace Clock

/-- The time with the given parts, if there is one. -/
def ofParts? (hour minute second micro : Nat) : Option Clock :=
  if h : hour < 24 ∧ minute < 60 ∧ second < 60 ∧ micro < 1000000 then
    some ⟨hour, minute, second, micro, h⟩
  else none

/-- The microseconds since the start of the day. -/
def micros (c : Clock) : Nat :=
  (c.hour * 3600 + c.minute * 60 + c.second) * 1000000 + c.micro

/-- The time as hours, minutes and seconds with colons; microseconds follow a point unless they
are zero. -/
def iso (c : Clock) : Text :=
  Text.padded 2 c.hour ++ .char ':' :: Text.padded 2 c.minute ++
    .char ':' :: Text.padded 2 c.second ++
    if c.micro = 0 then [] else .char '.' :: Text.padded 6 c.micro

end Clock

namespace Offset

/-- The offset of the given microseconds, if they are less than a day. -/
def ofMicros? (micros : Int) : Option Offset :=
  if h : -(dayMicros : Int) < micros ∧ micros < dayMicros then some ⟨micros, h⟩ else none

/-- The offset of the given seconds, if they are less than a day. -/
def ofSeconds? (seconds : Int) : Option Offset :=
  ofMicros? (seconds * 1000000)

/-- The offset as a sign, hours and minutes; seconds follow unless they and all below are zero,
and microseconds follow a point unless they are zero. -/
def iso (o : Offset) : Text :=
  let n := o.micros.natAbs / 1000000
  let micro := o.micros.natAbs % 1000000
  (if o.micros < 0 then .char '-' else .char '+') :: Text.padded 2 (n / 3600) ++
    .char ':' :: Text.padded 2 (n / 60 % 60) ++
    (if n % 60 = 0 ∧ micro = 0 then [] else .char ':' :: Text.padded 2 (n % 60)) ++
    if micro = 0 then [] else .char '.' :: Text.padded 6 micro

end Offset

namespace Moment

/-- The day in universal time, or the local day of a moment without an offset. There is none when
it would lie outside the range of days. -/
def utcDay? (m : Moment) : Option Day :=
  match m.offset with
  | none => some m.day
  | some o =>
    let micros := (m.clock.micros : Int) - o.micros
    if micros < 0 then m.day.prev?
    else if dayMicros ≤ micros then m.day.next?
    else some m.day

/-- The instant of a moment with an offset, in microseconds since the start of the day before the
first one. -/
def instant (m : Moment) (o : Offset) : Int :=
  (m.day.ordinal : Int) * dayMicros + m.clock.micros - o.micros

/-- Whether two moments are the same: the same instant, or the same day and time if neither has an
offset. -/
def isSame (m m' : Moment) : Bool :=
  match m.offset, m'.offset with
  | none, none => m.day == m'.day && m.clock == m'.clock
  | some o, some o' => m.instant o == m'.instant o'
  | _, _ => false

/-- The moment as day and time with `separator` between them, and the offset if there is one. -/
def isoWith (separator : CodePoint) (m : Moment) : Text :=
  m.day.iso ++ separator :: m.clock.iso ++
    match m.offset with
    | none => []
    | some o => o.iso

/-! ### Reading -/

/-- A fraction of a second as six digits: `.` and exactly six digits, or nothing. -/
def cutMicro? : Text → Option (Nat × Text)
  | '.' :: rest => Day.readFixed? 6 rest
  | t => some (0, t)

/-- An offset that ends a text, in the form of `Offset.iso`, or nothing. -/
def readOffset? : Text → Option (Option Offset)
  | [] => some none
  | sign :: rest =>
    if sign == '+' || sign == '-' then
      let total : Option Nat :=
        match Day.readFixed? 2 rest with
        | some (h, ':' :: rest) =>
          match Day.readFixed? 2 rest with
          | some (m, []) => some ((h * 3600 + m * 60) * 1000000)
          | some (m, ':' :: rest) =>
            match Day.readFixed? 2 rest with
            | some (s, rest) =>
              match cutMicro? rest with
              | some (micro, []) => some ((h * 3600 + m * 60 + s) * 1000000 + micro)
              | _ => none
            | _ => none
          | _ => none
        | _ => none
      match total with
      | none => none
      | some n => (Offset.ofMicros? (Text.signed (sign == '-') n)).map some
    else none

/-- The moment that a text in the form of `isoWith 'T'` names. -/
def ofIso? (t : Text) : Option Moment :=
  match Day.cutIso? t with
  | some (day, 'T' :: rest) =>
    match Day.readFixed? 2 rest with
    | some (hour, ':' :: rest) =>
      match Day.readFixed? 2 rest with
      | some (minute, ':' :: rest) =>
        match Day.readFixed? 2 rest with
        | some (second, rest) =>
          match cutMicro? rest with
          | some (micro, rest) =>
            match Clock.ofParts? hour minute second micro, readOffset? rest with
            | some clock, some offset => some ⟨day, clock, offset⟩
            | _, _ => none
          | none => none
        | none => none
      | _ => none
    | _ => none
  | _ => none

end Moment

end TrackerQuery
