import Std.Time.Format
import TrackerQuery.CommandLine.Run
import TrackerQuery.Document.Yaml.Value

/-!
# TrackerQuery.Main

The program: it asks the outside world for what a command needs, runs the command,
and prints what is left behind.
-/

namespace TrackerQuery.Main

/-- The day that the local calendar shows. -/
def dayOf (now : Std.Time.PlainDateTime) : Day :=
  (Day.ofParts? now.date.year.toInt.toNat now.date.month.val.toNat now.date.day.val.toNat).getD
    default

/-- The time that log lines carry: date and time with a space between them, then milliseconds
behind a comma. -/
def stamp (now : Std.Time.PlainDateTime) : Text :=
  let two := fun (n : Int) => Text.padded 2 n.toNat
  (dayOf now).iso ++ .char ' ' :: two now.time.hour.val ++ .char ':' :: two now.time.minute.val ++
    .char ':' :: two now.time.second.val ++
    .char ',' :: Text.padded 3 (now.time.nanosecond.val.toNat / 1000000)

/-- The path of the configuration that the arguments name, if they name one. -/
def configPath? (arguments : List Text) : Option Path :=
  match CommandLine.command arguments with
  | .ok (.compile s) => s.config.map Path.ofText
  | _ => none

/-- A text as it is printed, surrogates that stand alone as escapes. -/
def printed (t : Text) : String :=
  String.ofList (t.flatMap fun
    | .char c => [c]
    | .lone half => '\\' :: 'u' :: Nat.toDigits 16 (0xD800 + half))

/-- The bytes of the file at a path, if it can be read. -/
def readFile? (p : Path) : IO (Option (List UInt8)) := do
  match p.toText.chars? with
  | none => return none
  | some name =>
    try
      let bytes ← IO.FS.readBinFile (String.ofList name)
      return some bytes.toList
    catch _ => return none

/-- The variables of the environment that are asked for. -/
def environment : IO Auth.Environment := do
  let mut found : Auth.Environment := []
  for name in ["TP_API_KEY", "TP_AUTH_TYPE", "TP_TOKEN"] do
    match ← IO.getEnv name with
    | some value => found := (name.toText, value.toText) :: found
    | none => pure ()
  return found

/-- Lines that show how the program is called. -/
def usageText : String :=
  "usage: compile [--where WHERE | --preset PRESET] [--var KEY=VALUE] [--include PATH]\n" ++
  "               [--take N] [--order-by KEY] [--format FORMAT] [--config FILE]\n" ++
  "       presets\n"

end TrackerQuery.Main

open TrackerQuery in
/-- Runs the command that the arguments ask for. A fault that no command answers ends the program
with exit code 1. -/
def main (arguments : List String) : IO UInt32 := do
  let arguments := arguments.map String.toText
  let config := Main.configPath? arguments
  let bytes ←
    match config with
    | some p => Main.readFile? p
    | none => pure none
  let now ← Std.Time.PlainDateTime.now
  let environment ← Main.environment
  let documents : Documents :=
    { isFile := fun p => .ok (some p = config ∧ bytes.isSome)
      bytes := fun _ => bytes.elim (.error .system) .ok
      yaml := Yaml.read }
  match CommandLine.run ⟨documents, environment, Main.dayOf now⟩ (Main.stamp now) arguments with
  | .printed p =>
    IO.eprint (Main.printed p.err)
    IO.print (Main.printed p.out)
    return UInt32.ofNat p.exit
  | .usage .help =>
    IO.print Main.usageText
    return 0
  | .usage .wrong =>
    IO.eprint Main.usageText
    return 2
  | .escaped f =>
    IO.eprintln (Main.printed ((f.message?).getD "a value has an unexpected shape".toText))
    return 1
