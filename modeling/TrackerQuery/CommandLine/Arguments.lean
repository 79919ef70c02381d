import TrackerQuery.Text.Keyword
import TrackerQuery.Text.Numeral

/-!
# TrackerQuery.CommandLine.Arguments

Reading the **arguments** of the command line.

There are two commands. `compile` takes options, each with one value; an option
may be shortened to any beginning that no other option shares, and its value may
follow it as the next argument or behind an equals sign. An argument that looks
like an option is never taken as a value, negative numbers and texts with a space
excepted.

Reading stops at a request for help and at the first error. Arguments that have no
meaning are noticed only when everything else was read, so help asked for behind
them is still given.
-/

namespace TrackerQuery.CommandLine

/-! ### What is read -/

/-- An option of the `compile` command that takes a value. -/
inductive Opt where
  /-- The where expression. -/
  | filter
  /-- The name of a preset. -/
  | preset
  /-- A preset variable; may be repeated. -/
  | var
  /-- An include entry; may be repeated. -/
  | includes
  /-- The page size. -/
  | take
  /-- A sort key; may be repeated. -/
  | orderBy
  /-- The response format. -/
  | format
  /-- The path of a configuration. -/
  | config
  deriving DecidableEq, Repr

/-- What an argument that starts an option stands for. -/
inductive Switch where
  /-- An option that takes a value. -/
  | opt (o : Opt)
  /-- A request for help. -/
  | help
  deriving DecidableEq, Repr

/-- The values of the options of a `compile` command. -/
structure Settings where
  /-- The where expression. -/
  filter : Option Text := none
  /-- The name of a preset. -/
  preset : Option Text := none
  /-- Preset variables in order. -/
  vars : List Text := []
  /-- Include entries in order, if there are any. -/
  includes : Option (List Text) := none
  /-- The page size. -/
  take : Option Int := none
  /-- Sort keys in order, if there are any. -/
  orderBy : Option (List Text) := none
  /-- The response format. -/
  format : Option Text := none
  /-- The path of a configuration. -/
  config : Option Text := none
  deriving DecidableEq, Repr

/-- A command. -/
inductive Command where
  /-- Compile options into a query string. -/
  | compile (settings : Settings)
  /-- List the presets. -/
  | presets
  deriving DecidableEq, Repr

/-- Why there is no command to run. -/
inductive Usage where
  /-- The arguments are wrong. -/
  | wrong
  /-- Help was asked for. -/
  | help
  deriving DecidableEq, Repr

/-! ### Recognising options -/

/-- The names of the switches of every command. -/
def helpNames : List (Text × Switch) :=
  [("-h".toText, .help), ("--help".toText, .help)]

/-- The names of the switches of the `compile` command. -/
def compileNames : List (Text × Switch) :=
  helpNames ++
    [("--where".toText, .opt .filter), ("--preset".toText, .opt .preset),
     ("--var".toText, .opt .var), ("--include".toText, .opt .includes),
     ("--take".toText, .opt .take), ("--order-by".toText, .opt .orderBy),
     ("--format".toText, .opt .format), ("--config".toText, .opt .config)]

/-- What an argument is. -/
inductive Kind where
  /-- No option. -/
  | plain
  /-- A known option, and the value behind its equals sign if it has one. -/
  | known (s : Switch) (value : Option Text)
  /-- An option that is not known. -/
  | unknown
  /-- A beginning that several options share. -/
  | ambiguous
  deriving DecidableEq, Repr

/-- Whether a text is a negative number, perhaps with a fraction. A line feed may end it. -/
def isNegativeNumber : Text → Bool
  | '-' :: body =>
    let body := if body.getLast? == some (.char '\n') then body.dropLast else body
    let isDigit := fun c => (Text.digitValue? c).isSome
    let tail := body.dropWhile isDigit
    match tail with
    | [] => !body.isEmpty
    | '.' :: digits => !digits.isEmpty && digits.all isDigit
    | _ => false
  | _ => false

/-- The switches whose name an argument with two hyphens begins. -/
def shortened (names : List (Text × Switch)) (t : Text) : List Switch :=
  (names.filter fun n => t.isPrefixOf n.1).map Prod.snd

/-- An argument that starts with a hyphen and is no name of a switch. -/
def kindOfOther (names : List (Text × Switch)) (t : Text) : Kind :=
  let other := if isNegativeNumber t || t.contains ' ' then Kind.plain else Kind.unknown
  match t with
  | '-' :: '-' :: _ =>
    let (name, value) :=
      match Text.cutAt '=' t with
      | some (name, value) => (name, some value)
      | none => (t, none)
    match names.lookup name with
    | some s => .known s value
    | none =>
      match shortened names name with
      | [] => other
      | [s] => .known s value
      | _ => .ambiguous
  | '-' :: 'h' :: value => .known .help (some value)
  | _ => other

/-- What an argument is, given the names of the switches. -/
def kind (names : List (Text × Switch)) (t : Text) : Kind :=
  match t with
  | [] => .plain
  | ['-'] => .plain
  | '-' :: _ =>
    match names.lookup t with
    | some s => .known s none
    | none => kindOfOther names t
  | _ => .plain

/-! ### Values of options -/

/-- A list with a value added at its end, starting one if there is none. -/
def appended (xs : Option (List Text)) (x : Text) : Option (List Text) :=
  some (xs.getD [] ++ [x])

/-- The settings with an option given a value. A where expression and a preset exclude each
other, and a page size has to be a whole number. -/
def Settings.give [Limits] (s : Settings) (o : Opt) (value : Text) : Option Settings :=
  match o with
  | .filter => if s.preset.isSome then none else some { s with filter := some value }
  | .preset => if s.filter.isSome then none else some { s with preset := some value }
  | .var => some { s with vars := s.vars ++ [value] }
  | .includes => some { s with includes := appended s.includes value }
  | .take => (Text.readInt? value).map fun n => { s with take := some n }
  | .orderBy => some { s with orderBy := appended s.orderBy value }
  | .format => some { s with format := some value }
  | .config => some { s with config := some value }

/-- What text behind the one letter that asks for help leads to. Letters there are further
requests, known or not; a hyphen or an equals sign is an error. -/
def helpBehind : Text → Usage
  | [] => .help
  | c :: rest =>
    if c = '-' ∨ c = '=' then .wrong else if c = 'h' then helpBehind rest else .help

/-- What an argument that asks for help leads to, given the text behind its name if there is
any. Behind the long name nothing may stand. -/
def helpWith (argument : Text) (value : Option Text) : Usage :=
  match value, argument with
  | none, _ => .help
  | some _, '-' :: '-' :: _ => .wrong
  | some v, _ => helpBehind v

/-- The value that follows an option as the next argument, and the arguments behind it. -/
def nextValue? : List Text → Option (Text × List Text)
  | [] => none
  | t :: rest =>
    if t = "--".toText then none
    else
      match kind compileNames t with
      | .plain => some (t, rest)
      | _ => none

/-! ### Commands -/

/-- The settings that arguments give, from those given so far. `strays` says that an argument
without a meaning was met. Every round takes an argument, which bounds the rounds. -/
def settingsFrom [Limits] : Nat → Bool → Settings → List Text → Except Usage Settings
  | 0, _, _, _ => .error .wrong
  | _ + 1, strays, s, [] => if strays then .error .wrong else .ok s
  | rounds + 1, strays, s, t :: rest =>
    if t = "--".toText then .error .wrong
    else
      match kind compileNames t with
      | .plain | .unknown => settingsFrom rounds true s rest
      | .ambiguous => .error .wrong
      | .known .help value => .error (helpWith t value)
      | .known (.opt o) (some value) =>
        match s.give o value with
        | some s => settingsFrom rounds strays s rest
        | none => .error .wrong
      | .known (.opt o) none =>
        match nextValue? rest with
        | none => .error .wrong
        | some (value, rest) =>
          match s.give o value with
          | some s => settingsFrom rounds strays s rest
          | none => .error .wrong

/-- The settings that the arguments of a `compile` command give. A beginning that several options
share is an error before anything else is read. -/
def settings [Limits] (strays : Bool) (arguments : List Text) : Except Usage Settings :=
  if (arguments.takeWhile (· != "--".toText)).any fun t => kind compileNames t == .ambiguous then
    .error .wrong
  else settingsFrom (arguments.length + 1) strays {} arguments

/-- Arguments of a command without options. -/
def noArguments (strays : Bool) : List Text → Except Usage Unit
  | [] => if strays then .error .wrong else .ok ()
  | t :: rest =>
    if t = "--".toText then .error .wrong
    else
      match kind helpNames t with
      | .known .help value => .error (helpWith t value)
      | _ => noArguments true rest

/-- The command that arguments ask for. `strays` says that an option without a meaning was met
in front of the command. -/
def commandFrom [Limits] (strays : Bool) : List Text → Except Usage Command
  | [] => .error .wrong
  | t :: rest =>
    if t = "--".toText then .error .wrong
    else
      match kind helpNames t with
      | .known .help value => .error (helpWith t value)
      | .known _ _ | .ambiguous => .error .wrong
      | .unknown => commandFrom true rest
      | .plain =>
        if t = "compile".toText then
          match settings strays rest with
          | .ok s => .ok (.compile s)
          | .error u => .error u
        else if t = "presets".toText then
          match noArguments strays rest with
          | .ok _ => .ok .presets
          | .error u => .error u
        else .error .wrong

/-- The command that the arguments of the command line ask for. -/
def command [Limits] (arguments : List Text) : Except Usage Command :=
  commandFrom false arguments

end TrackerQuery.CommandLine
