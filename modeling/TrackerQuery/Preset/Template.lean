import TrackerQuery.Fault.Rejection

/-!
# TrackerQuery.Preset.Template

**Templates**: text with placeholders, and the named templates that come with the
library.

A template is its pieces in order, so a placeholder is never searched for in text
and a value is never mistaken for one: filling replaces every placeholder at once
and looks at no value twice. `source` writes a template with each placeholder as
its name between braces behind a dollar sign.
-/

namespace TrackerQuery

/-- A part of a template. -/
inductive Piece where
  /-- Text that stands for itself. -/
  | text (t : Text)
  /-- A placeholder for the value of a name. -/
  | placeholder (name : Text)
  deriving DecidableEq, Repr

/-- Text with placeholders. -/
abbrev Template := List Piece

namespace Template

/-- The written form of a template. -/
def source (template : Template) : Text :=
  template.flatMap fun
    | .text t => t
    | .placeholder name => .char '$' :: .char '\x7b' :: name ++ [.char '\x7d']

/-- The text of a template whose placeholders have the given values. -/
def fill (template : Template) (value : Text → Text) : Text :=
  template.flatMap fun
    | .text t => t
    | .placeholder name => value name

/-! ### Names of placeholders -/

/-- The order of texts by their code points. -/
def precedes : Text → Text → Bool
  | [], _ => true
  | _ :: _, [] => false
  | a :: as, b :: bs => if a = b then precedes as bs else a.toNat < b.toNat

/-- A name put into an ascending list of names, once. -/
def insertName (name : Text) : List Text → List Text
  | [] => [name]
  | n :: rest =>
    if name = n then n :: rest
    else if precedes name n then name :: n :: rest
    else n :: insertName name rest

/-- The names of the placeholders of a template, ascending and each once. -/
def names : Template → List Text
  | [] => []
  | .text _ :: rest => names rest
  | .placeholder name :: rest => insertName name (names rest)

/-! ### Values -/

/-- A character that could end the literal or the word that a value stands in. -/
def isUnsafe (c : CodePoint) : Bool :=
  Text.isBlank c || c == '"' || c == '\\'

/-- The text of the template of a preset with values for its placeholders. Every placeholder
needs a value, and no value may have an unsafe character. -/
def expand (preset : Text) (template : Template) (value? : Text → Option Text) :
    Except Rejection Text :=
  match template.names.filter fun n => (value? n).isNone with
  | [] =>
    match template.names.find? fun n => ((value? n).getD []).any isUnsafe with
    | some bad => .error (.unsafeVariable preset bad)
    | none => .ok (template.fill fun n => (value? n).getD [])
  | missing => .error (.missingVariables preset missing)

/-! ### The templates of the library -/

/-- Text that stands for itself. -/
def verbatim (t : String) : Piece :=
  .text t.toText

/-- A placeholder by its name. -/
def slot (name : String) : Piece :=
  .placeholder name.toText

/-- Whether a day field lies on the reference day. -/
def onReferenceDay (field : String) : Template :=
  [verbatim field, verbatim " gte ", slot "todayDate", verbatim " and ", verbatim field,
   verbatim " lt ", slot "tomorrowDate"]

/-- Whether a day field lies in the week of the reference day, or later. -/
def sinceWeekStart (field : String) : Template :=
  [verbatim field, verbatim " gte ", slot "weekStartDate"]

/-- Whether an item is assigned to the current user. -/
def assignedToUser : Template :=
  [verbatim "AssignedUser.Email eq \"", slot "currentUser", verbatim "\""]

/-- The presets by name, in the order in which they are listed. -/
def presets : List (Text × Template) :=
  [("open".toText, [verbatim "EntityState.Name eq \"Open\""]),
   ("inProgress".toText, [verbatim "EntityState.Name eq \"In Progress\""]),
   ("done".toText, [verbatim "EntityState.Name eq \"Done\""]),
   ("notDone".toText, [verbatim "EntityState.Name ne \"Done\""]),
   ("notClosed".toText, [verbatim "EntityState.Name ne \"Closed\""]),
   ("myTasks".toText, assignedToUser),
   ("unassigned".toText, [verbatim "AssignedUser is null"]),
   ("projectItems".toText, [verbatim "Project.Id eq ", slot "projectId"]),
   ("highPriority".toText, [verbatim "Priority.Name eq \"High\""]),
   ("createdToday".toText, onReferenceDay "CreateDate"),
   ("modifiedToday".toText, onReferenceDay "ModifyDate"),
   ("createdThisWeek".toText, sinceWeekStart "CreateDate"),
   ("modifiedThisWeek".toText, sinceWeekStart "ModifyDate"),
   ("myOpenTasks".toText,
    assignedToUser ++ [verbatim " and EntityState.Name eq \"Open\""]),
   ("highPriorityUnassigned".toText,
    [verbatim "Priority.Name eq \"High\" and AssignedUser is null"]),
   ("myRecentTasks".toText, assignedToUser ++ [verbatim " and ModifyDate gt @Today"]),
   ("activeItems".toText,
    [verbatim "EntityState.Name ne \"Done\" and EntityState.Name ne \"Closed\""])]

/-- The names of the presets, in the order in which they are listed. -/
def presetNames : List Text :=
  presets.map Prod.fst

/-- The template of a preset. -/
def ofPreset? (name : Text) : Option Template :=
  presets.lookup name

end Template

end TrackerQuery
