import TrackerQuery.Auth.Descriptor
import TrackerQuery.Datum.Display
import TrackerQuery.Document.Json
import TrackerQuery.Document.Path
import TrackerQuery.Text.Utf8
import TrackerQuery.Traced

/-!
# TrackerQuery.Config

**Where the sender comes from**: a configuration, or the environment.

A configuration is a dictionary, given as such or as the path of a document; the
suffix of the path tells YAML from JSON. How files are found and read, and how YAML is
read, is up to the surroundings (`Documents`), and can fail in ways that are not known
here. Its section on authentication names the
scheme and the token. Without a configuration the environment is asked, for an API
key first and then for a scheme. A configuration that is given decides alone, even
if it says nothing about authentication.
-/

namespace TrackerQuery

/-- What documents of configuration are read with. -/
structure Documents where
  /-- Whether a path leads to a file. -/
  isFile : Path → Except Fault Bool
  /-- The bytes of the file at a path. -/
  bytes : Path → Except Fault (List UInt8)
  /-- The value of a YAML document. -/
  yaml : Text → Except Fault Datum

namespace Config

/-! ### Documents -/

/-- Whether a path has a suffix of YAML documents, in any case. -/
def isYaml (p : Path) : Bool :=
  let suffix := p.suffix.map CodePoint.toLower
  suffix == ".yml".toText || suffix == ".yaml".toText

/-- The text in the bytes of a file, every end of a line as a line feed. -/
def decode (bytes : List UInt8) : Except Fault Text :=
  match Text.utf8Flaw? bytes with
  | some flaw => .error (.document (.encoding flaw))
  | none => .ok (Text.unifyLineEnds ((Text.ofUtf8? bytes).getD []))

/-- The text of the file at a path. -/
def readText (documents : Documents) (p : Path) : Except Fault Text :=
  match documents.isFile p with
  | .error f => .error f
  | .ok false => .error (.fileNotFound p.toText)
  | .ok true =>
    match documents.bytes p with
    | .error f => .error f
    | .ok bytes => decode bytes

/-- The value of the document with a text, of the kind that the path tells. A YAML document whose
value does not count as given is an empty dictionary. -/
def readDocument [Limits] (documents : Documents) (p : Path) (t : Text) : Except Fault Datum :=
  if isYaml p then
    match documents.yaml t with
    | .ok d => .ok (if d.isGiven then d else .dict [])
    | .error f => .error f
  else Json.read t

/-- The path that a value names, if it is one that can name a path. -/
def path? : Datum → Option Path
  | .text t => some (Path.ofText t)
  | .scheme s => some (Path.ofText (Datum.scheme s).toText)
  | _ => none

/-- The configuration that a value is or names. -/
def load [Limits] (documents : Documents) (config : Datum) : Except Fault Datum :=
  match config with
  | .dict entries => .ok (.dict entries)
  | _ =>
    match path? config with
    | none => .error .wrongShape
    | some p =>
      match readText documents p with
      | .error f => .error f
      | .ok t => readDocument documents p t

end Config

namespace Auth

/-! ### From a configuration -/

/-- The fault of a value that names no scheme, which shows the value. -/
def unknownScheme [Limits] (raw : Datum) : Except Fault AuthScheme :=
  match raw.shown with
  | .ok t => .error (.badValue (.unknownScheme t))
  | .error f => .error f

/-- The scheme that a value is or names. -/
def parseScheme [Limits] (raw : Datum) : Except Fault AuthScheme :=
  match raw with
  | .scheme s => .ok s
  | .text t =>
    match AuthScheme.read? t with
    | some s => .ok s
    | none => unknownScheme raw
  | _ => unknownScheme raw

/-- The value of a name, unless it does not count as given. -/
def given? (entries : List (Datum × Datum)) (name : String) : Option Datum :=
  match Datum.lookupText name.toText entries with
  | some d => if d.isGiven then some d else none
  | none => none

/-- The token of a section: under one name, or else under the other. -/
def sectionToken (entries : List (Datum × Datum)) : Datum :=
  match given? entries "token" with
  | some d => d
  | none => (given? entries "apiKey").getD (.text [])

/-- The type of a section, which an API key implies if none is stated. -/
def sectionType (entries : List (Datum × Datum)) : Datum :=
  match given? entries "type" with
  | some d => d
  | none =>
    match given? entries "apiKey" with
    | some _ => .text AuthScheme.apiKey.name
    | none => .text AuthScheme.basic.name

/-- The sender that a section names. -/
def ofSection [Limits] (entries : List (Datum × Datum)) : Except Fault Auth :=
  match parseScheme (sectionType entries) with
  | .error f => .error f
  | .ok scheme =>
    if scheme = .apiKey ∧ (sectionToken entries).isGiven = false then
      .error (.badValue .missingToken)
    else
      match (sectionToken entries).written with
      | .ok token => .ok ⟨scheme, token⟩
      | .error f => .error f

/-- The sender that a configuration names. -/
def ofConfig [Limits] (config : Datum) : Except Fault Auth :=
  match config with
  | .dict entries =>
    match given? entries "auth" with
    | none => ofSection []
    | some (.dict named) => ofSection named
    | some _ => .error (.badValue .sectionNotMapping)
  | _ => .error .lacksOperation

/-! ### From the environment -/

/-- The variables of an environment, the first one of a name counting. -/
abbrev Environment := List (Text × Text)

/-- The value of a variable; empty if it is not set. -/
def variableText (environment : Environment) (name : String) : Text :=
  (environment.lookup name.toText).getD []

/-- The sender that an environment names. -/
def ofEnvironment [Limits] (environment : Environment) : Traced Auth :=
  let apiKey := Text.strip (variableText environment "TP_API_KEY")
  if apiKey.isEmpty then
    let type := Text.strip (variableText environment "TP_AUTH_TYPE")
    if type.isEmpty then Traced.ok Auth.basic
    else
      Traced.ofExcept (ofConfig (.dict [(.text "auth".toText, .dict
        [(.text "type".toText, .text type),
         (.text "token".toText, .text (variableText environment "TP_TOKEN"))])]))
  else do
    Traced.log .debug .config "Using API key auth from TP_API_KEY".toText
    return ⟨.apiKey, apiKey⟩

/-! ### Either -/

/-- The sender: from the configuration if one is given, else from the environment. -/
def resolve [Limits] (documents : Documents) (config : Datum) (environment : Environment) :
    Traced Auth :=
  match config with
  | .null => ofEnvironment environment
  | _ => do
    let loaded ← Traced.ofExcept (Config.load documents config)
    Traced.ofExcept (ofConfig loaded)

end Auth

end TrackerQuery
