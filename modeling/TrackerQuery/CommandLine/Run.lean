import TrackerQuery.CommandLine.Arguments
import TrackerQuery.Compilation
import TrackerQuery.Config

/-!
# TrackerQuery.CommandLine.Run

**Running a command**: what is printed, and the exit code.

A compilation prints the query string, or else one line that says what is wrong.
That line is for faults of what the caller supplied: rejected options, values that
are unusable, and configurations that are missing or malformed. A fault of another
kind is not answered here and ends the program as it is. The log goes to standard
error in front of that line, records of the lowest level left out.
-/

namespace TrackerQuery.CommandLine

/-- What running a command leaves behind. -/
structure Printed where
  /-- The exit code. -/
  exit : Nat
  /-- The text on standard output. -/
  out : Text
  /-- The text on standard error. -/
  err : Text
  deriving DecidableEq, Repr

/-- How a run of the program ends. -/
inductive Ending where
  /-- The command ran. -/
  | printed (p : Printed)
  /-- No command ran, because of the arguments. -/
  | usage (u : Usage)
  /-- A fault that is not answered. -/
  | escaped (f : Fault)

/-! ### Preset variables -/

/-- Preset variables from texts of the form `key=value`. A repeated key takes the last value, and
the first text of another form decides. -/
def variablesFrom (entries : List (Datum × Datum)) :
    List Text → Except Fault (List (Datum × Datum))
  | [] => .ok entries
  | pair :: rest =>
    let fault : Except Fault (List (Datum × Datum)) :=
      .error (.badValue (.notAssignment pair))
    match Text.cutAt '=' pair with
    | none => fault
    | some (key, value) =>
      if Text.isAllBlank key then fault
      else variablesFrom (Datum.insert (.text (Text.strip key)) (.text value) entries) rest

/-- Preset variables from texts of the form `key=value`. -/
def bindings (pairs : List Text) : Except Fault Datum :=
  match variablesFrom [] pairs with
  | .ok entries => .ok (.dict entries)
  | .error f => .error f

/-! ### Compiling -/

/-- An optional list of texts as a loosely typed value. -/
def textsDatum : Option (List Text) → Datum
  | some ts => .list (ts.map Datum.text)
  | none => .null

/-- The page size as a loosely typed value. -/
def takeDatum : Option Int → Datum
  | some n => .int n
  | none => .null

/-- The compilation that settings ask for. -/
def compilation (s : Settings) (bindings : Datum) : Compilation where
  filter := s.filter
  preset := s.preset
  bindings := bindings
  includes := textsDatum s.includes
  take := takeDatum s.take
  orderBy := textsDatum s.orderBy
  format := s.format

/-- What the outside world supplies. -/
structure World where
  /-- What documents of configuration are read with. -/
  documents : Documents
  /-- The environment variables. -/
  environment : Auth.Environment
  /-- The reference day. -/
  today : Day

/-- The query string that settings ask for: the sender is found first, then the variables are
read, then the options are compiled. -/
def queryString [Limits] (w : World) (s : Settings) : Traced Text := do
  let auth ← Auth.resolve w.documents (Compilation.textDatum s.config) w.environment
  let vars ← Traced.ofExcept (bindings s.vars)
  (compilation s vars).run auth w.today

/-! ### Printing -/

/-- Whether a fault is answered by a line that says what is wrong. -/
def isAnswered : Fault → Bool
  | .rejected _ | .badValue _ | .fileNotFound _ | .unencodable _ => true
  | .document (.encoding _) | .document (.json _ _ _ _) => true
  | _ => false

/-- The line that answers a fault; `none` if the fault is not answered. -/
def answer? (f : Fault) : Option Text :=
  if isAnswered f then f.message? else none

/-- Lines of the log, each ended. -/
def logText (time : Text) (records : List LogRecord) : Text :=
  (records.filter LogRecord.isShown).flatMap fun r => r.line time ++ [.char '\n']

/-- One preset of the list, its line ended. -/
def presetLine (p : Text × Template) : Text :=
  p.1 ++ ": ".toText ++ p.2.source ++ [.char '\n']

/-- How a compilation ends. `time` is the time that the lines of the log carry. -/
def finish (time : Text) (t : Traced Text) : Ending :=
  match t.outcome with
  | .ok query => .printed ⟨0, query ++ [.char '\n'], logText time t.records⟩
  | .error f =>
    match answer? f with
    | some message =>
      .printed ⟨2, [], logText time t.records ++ "error: ".toText ++ message ++ [.char '\n']⟩
    | none => .escaped f

/-- How the program ends for its arguments. -/
def run [Limits] (w : World) (time : Text) (arguments : List Text) : Ending :=
  match command arguments with
  | .error u => .usage u
  | .ok .presets => .printed ⟨0, Template.presets.flatMap presetLine, []⟩
  | .ok (.compile s) => finish time (queryString w s)

end TrackerQuery.CommandLine
