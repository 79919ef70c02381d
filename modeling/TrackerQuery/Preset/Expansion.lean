import TrackerQuery.Datum.Display
import TrackerQuery.Preset.Template
import TrackerQuery.Traced

/-!
# TrackerQuery.Preset.Expansion

**Expanding a preset** into a where expression.

Placeholders take their values from the caller, and the three date placeholders
have defaults that follow from a reference day. The defaults are computed first,
also when no placeholder asks for them, so a reference day without a following day
is an error of every preset. In the same way all variables of the caller are written
as texts, whether or not a placeholder asks for them.
-/

namespace TrackerQuery.Preset

/-! ### Date defaults -/

/-- The values of the date placeholders: the reference day, the day after it, and the Monday of
its week. -/
structure DateVariables where
  /-- The reference day. -/
  today : Text
  /-- The day after it. -/
  tomorrow : Text
  /-- The Monday on or before it. -/
  weekStart : Text
  deriving DecidableEq, Repr

/-- The date placeholders for a reference day. -/
def dateVariables (today : Day) : Except Fault DateVariables :=
  match today.next?, today.weekStart? with
  | some tomorrow, some weekStart => .ok ⟨today.iso, tomorrow.iso, weekStart.iso⟩
  | _, _ => .error .dateOutOfRange

/-- The date placeholders by name. -/
def DateVariables.entries (v : DateVariables) : List (Text × Text) :=
  [("todayDate".toText, v.today), ("tomorrowDate".toText, v.tomorrow),
   ("weekStartDate".toText, v.weekStart)]

/-! ### Values of placeholders -/

/-- The entries of what a caller gives as variables. What does not count as given has none. -/
def callerEntries (bindings : Datum) : Except Fault (List (Datum × Datum)) :=
  if bindings.isGiven then
    match bindings with
    | .dict entries => .ok entries
    | _ => .error .lacksOperation
  else .ok []

/-- Entries with their values written as texts, the first one that cannot be written deciding. -/
def writtenEntries [Limits] : List (Datum × Datum) → Except Fault (List (Datum × Text))
  | [] => .ok []
  | (key, value) :: rest =>
    match value.written with
    | .error f => .error f
    | .ok t =>
      match writtenEntries rest with
      | .error f => .error f
      | .ok texts => .ok ((key, t) :: texts)

/-- The value of a placeholder: what the caller gives for it, else the date default. -/
def value? (texts : List (Datum × Text)) (dates : DateVariables) (name : Text) : Option Text :=
  match Datum.lookupText name texts with
  | some t => some t
  | none => dates.entries.lookup name

/-! ### Expansion -/

/-- The where expression of a preset. -/
def expand [Limits] (name : Text) (bindings : Datum) (today : Day) : Traced Text :=
  match Template.ofPreset? name with
  | none => Traced.ofChecked (.error (.unknownPreset name Template.presetNames))
  | some template => do
    let dates ← Traced.ofExcept (dateVariables today)
    let given ← Traced.ofExcept (callerEntries bindings)
    let texts ← Traced.ofExcept (writtenEntries given)
    let text ← Traced.ofChecked (template.expand name (value? texts dates))
    Traced.log .debug .presets
      ("Expanded preset ".toText ++ name ++ " to ".toText ++ Text.inspect text)
    return text

/-! ### References -/

/-- What a where expression starts with, blanks aside, if it refers to a preset. -/
def referenceStart : Text := "searchPresets.".toText

/-- The name of the preset that a where expression refers to, if it does. -/
def reference? (expression : Text) : Option Text :=
  Text.after? referenceStart (Text.strip expression)

/-- A where expression with a reference to a preset expanded. Any other passes through. -/
def resolve [Limits] (expression : Option Text) (bindings : Datum) (today : Day) :
    Traced (Option Text) :=
  match expression with
  | none => Traced.ok none
  | some t =>
    match reference? t with
    | none => Traced.ok (some t)
    | some name => do
      let expanded ← expand name bindings today
      return some expanded

end TrackerQuery.Preset
