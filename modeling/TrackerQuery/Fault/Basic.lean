import TrackerQuery.Auth.Scheme
import TrackerQuery.Fault.Issue
import TrackerQuery.Fault.Rejection
import TrackerQuery.Text.Printable
import TrackerQuery.Text.Utf8

/-!
# TrackerQuery.Fault.Basic

Every way in which a computation of this library **fails**, by cause.

The kinds differ in who can do something about them. A rejection and a validation
report concern the options of a query, an unusable value concerns configuration
and the command line, a document fault a configuration file. The remaining ones
say that a value has a shape for which an operation has no meaning.
-/

namespace TrackerQuery

/-- Why a value of configuration or of the command line is unusable. -/
inductive BadValue where
  /-- The section on authentication is no dictionary. -/
  | sectionNotMapping
  /-- No scheme goes by a name. The name is given as it is shown. -/
  | unknownScheme (shown : Text)
  /-- The scheme needs a token and there is none. -/
  | missingToken
  /-- A preset variable is not of the form `key=value`. -/
  | notAssignment (pair : Text)
  /-- A numeral that is to be read has more digits than the platform handles. -/
  | longNumeral (most digits : Nat)
  /-- A number that is to be written has more digits than the platform handles. -/
  | longNumber (most : Nat)
  /-- A numeral of a base has no digits. -/
  | noDigits (base : Nat)
  /-- A part of a date or a time is outside its range, which the message states. -/
  | outsideRange (statement : Text)
  /-- An escape names a character beyond the code space. -/
  | outsideCodeSpace
  deriving DecidableEq, Repr

/-- That a numeral is beyond the limit of the platform. -/
def beyondLimit (most : Nat) : Text :=
  "Exceeds the limit (".toText ++ Text.ofNat most ++
    " digits) for integer string conversion".toText

/-- What can be done about the limit of the platform. -/
def limitAdvice : Text :=
  "; use sys.set_int_max_str_digits() to increase the limit".toText

/-- The wording of an unusable value. -/
def BadValue.message : BadValue → Text
  | sectionNotMapping => "auth section must be a mapping".toText
  | unknownScheme shown =>
    "auth type must be one of ".toText ++ Rejection.listing (AuthScheme.all.map AuthScheme.name) ++
      "; got ".toText ++ shown
  | missingToken => "apikey auth requires a token".toText
  | notAssignment pair => "Expected key=value, got ".toText ++ Text.inspect pair
  | longNumeral most digits =>
    beyondLimit most ++ ": value has ".toText ++ Text.ofNat digits ++ " digits".toText ++
      limitAdvice
  | longNumber most => beyondLimit most ++ limitAdvice
  | noDigits base =>
    "invalid literal for int() with base ".toText ++ Text.ofNat base ++ ": ''".toText
  | outsideRange statement => statement
  | outsideCodeSpace => "chr() arg not in range(0x110000)".toText

/-- What a JSON text has in place of what the grammar asks for. -/
inductive JsonFlaw where
  /-- No value where one is needed. -/
  | expectedValue
  /-- No member name where one is needed. -/
  | expectedName
  /-- No colon after a member name. -/
  | expectedColon
  /-- No comma between two items or members. -/
  | expectedComma
  /-- Something follows the value. -/
  | extraData
  /-- A string does not end. -/
  | unterminatedString
  /-- A control character stands in a string. -/
  | controlCharacter
  /-- A backslash is followed by no escape. -/
  | badEscape
  /-- An escape by code has no four hexadecimal digits. -/
  | badCodeEscape
  /-- The text begins with a byte order mark. -/
  | byteOrderMark
  deriving DecidableEq, Repr

/-- The wording of a flaw. -/
def JsonFlaw.message : JsonFlaw → String
  | expectedValue => "Expecting value"
  | expectedName => "Expecting property name enclosed in double quotes"
  | expectedColon => "Expecting ':' delimiter"
  | expectedComma => "Expecting ',' delimiter"
  | extraData => "Extra data"
  | unterminatedString => "Unterminated string starting at"
  | controlCharacter => "Invalid control character at"
  | badEscape => "Invalid \\escape"
  | badCodeEscape => "Invalid \\uXXXX escape"
  | byteOrderMark => "Unexpected UTF-8 BOM (decode using utf-8-sig)"

/-- At which stage a document turned out to be malformed. -/
inductive DocumentFault where
  /-- The bytes are not UTF-8. -/
  | encoding (flaw : Text.Utf8Flaw)
  /-- The text is not JSON. The place is given as a line and a column, from 1, and as the number
  of characters in front of it. -/
  | json (flaw : JsonFlaw) (line column position : Nat)
  /-- The text has a character that no YAML document has. -/
  | character
  /-- No YAML token starts where one should. -/
  | token
  /-- The YAML tokens follow no rule of the grammar. -/
  | grammar
  /-- There is more than one YAML document. -/
  | extraDocument
  /-- A YAML node has no value. -/
  | value
  deriving DecidableEq, Repr

/-- The wording of bytes that are not UTF-8. -/
def encodingMessage (flaw : Text.Utf8Flaw) : Text :=
  let place :=
    if flaw.length = 1 then
      "byte 0x".toText ++ Text.hexPadded 2 flaw.byte.toNat ++ " in position ".toText ++
        Text.ofNat flaw.position
    else
      "bytes in position ".toText ++ Text.ofNat flaw.position ++ .char '-' ::
        Text.ofNat (flaw.position + flaw.length - 1)
  let reason :=
    match flaw.problem with
    | .badStart => "invalid start byte"
    | .badContinuation => "invalid continuation byte"
    | .endOfData => "unexpected end of data"
  "'utf-8' codec can't decode ".toText ++ place ++ ": ".toText ++ reason.toText

/-- The wording of a malformed document. -/
def DocumentFault.message : DocumentFault → Text
  | encoding flaw => encodingMessage flaw
  | json flaw line column position =>
    flaw.message.toText ++ ": line ".toText ++ Text.ofNat line ++ " column ".toText ++
      Text.ofNat column ++ " (char ".toText ++ Text.ofNat position ++ [.char ')']
  | character => "unacceptable character".toText
  | token => "no token starts here".toText
  | grammar => "unexpected token".toText
  | extraDocument => "expected a single document in the stream".toText
  | value => "could not construct a value".toText

/-- The wording of a text that cannot be encoded: it names the first surrogate that stands alone, or
the place of the first ones if there are several in a row. -/
def unencodableMessage (object : Text) : Text :=
  let position := (object.takeWhile CodePoint.isChar).length
  let place :=
    match Text.surrogates object with
    | [c] =>
      "character '\\u".toText ++ Text.hexPadded 4 c.toNat ++ "' in position ".toText ++
        Text.ofNat position
    | cs =>
      "characters in position ".toText ++ Text.ofNat position ++ .char '-' ::
        Text.ofNat (position + cs.length - 1)
  "'utf-8' codec can't encode ".toText ++ place ++ ": surrogates not allowed".toText

/-- Why a computation failed. -/
inductive Fault where
  /-- Query options are rejected. -/
  | rejected (r : Rejection)
  /-- A payload does not fit its model. -/
  | invalid (issues : List Issue)
  /-- A value is unusable. -/
  | badValue (v : BadValue)
  /-- There is no such configuration file. -/
  | fileNotFound (path : Text)
  /-- A day lies outside the range of the calendar. -/
  | dateOutOfRange
  /-- A value inside a literal is not classified. The value is given as it is shown. -/
  | unclassified (shown : Text)
  /-- A value is neither iterable nor a path where one of these is needed. -/
  | wrongShape
  /-- A value lacks the operations of a text, a dictionary or a day. -/
  | lacksOperation
  /-- A configuration document is malformed. -/
  | document (d : DocumentFault)
  /-- A document nests its collections deeper than the platform follows. -/
  | tooDeep
  /-- A text cannot be encoded, since a surrogate stands alone in it. -/
  | unencodable (object : Text)
  /-- The system refuses an operation on a file, though the file may be there. -/
  | system
  deriving DecidableEq, Repr

/-- The wording of a fault, for the faults that have one of their own. -/
def Fault.message? : Fault → Option Text
  | rejected r => some r.message
  | badValue v => some v.message
  | fileNotFound path => some ("Config file not found: ".toText ++ path)
  | dateOutOfRange => some "date value out of range".toText
  | unclassified shown =>
    some ("Unclassified value ".toText ++ shown ++ "; use classify_value() first".toText)
  | document d => some d.message
  | unencodable object => some (unencodableMessage object)
  | invalid _ | wrongShape | lacksOperation | tooDeep | system => none

end TrackerQuery
