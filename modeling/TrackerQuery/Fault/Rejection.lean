import TrackerQuery.Text.Basic

/-!
# TrackerQuery.Fault.Rejection

Why query options are **rejected**: one constructor for each check, with what the
message names. A rejection determines its message.
-/

namespace TrackerQuery

/-- Why query options are rejected. -/
inductive Rejection where
  /-- A where expression is empty or blank. -/
  | emptyWhere
  /-- A clause has the form of no condition. -/
  | badCondition (clause : Text)
  /-- An include entry has a character that no path has. -/
  | badInclude (entry : Text)
  /-- No preset has the name. -/
  | unknownPreset (preset : Text) (available : List Text)
  /-- Placeholders of a preset have no value. -/
  | missingVariables (preset : Text) (names : List Text)
  /-- The value of a placeholder could leave its place in the template. -/
  | unsafeVariable (preset placeholder : Text)
  /-- A sort key that is a dictionary names no field. The key is given as it is shown. -/
  | sortKeyWithoutField (shown : Text)
  /-- A sort key has no field. The key is given as it is shown. -/
  | badSortKey (shown : Text)
  deriving DecidableEq, Repr

namespace Rejection

/-- Texts in order with a comma and a space between neighbours. -/
def listing (names : List Text) : Text :=
  Text.join ", ".toText names

/-- The wording of a rejection. -/
def message : Rejection → Text
  | emptyWhere => "Empty where clause".toText
  | badCondition clause => "Invalid condition format: ".toText ++ clause
  | badInclude entry => "Invalid include parameter: ".toText ++ entry
  | unknownPreset preset available =>
    "Unknown search preset: ".toText ++ preset ++ ". Available presets: ".toText ++
      listing available
  | missingVariables preset names =>
    "Search preset ".toText ++ preset ++ " requires variables: ".toText ++ listing names
  | unsafeVariable _ placeholder =>
    "Search preset variable ".toText ++ placeholder ++
      " may not contain whitespace, quotes or backslashes".toText
  | sortKeyWithoutField shown =>
    "Invalid orderBy entry: ".toText ++ shown ++ " has no field".toText
  | badSortKey shown => "Invalid orderBy entry: ".toText ++ shown

end Rejection

end TrackerQuery
