import TrackerQuery.Text.Basic

/-!
# TrackerQuery.Log

**Log records** as values. A computation that logs returns its records; printing
them is left to the outermost layer.
-/

namespace TrackerQuery

/-- How important a record is. -/
inductive Level where
  /-- What a call did with its argument. -/
  | debug
  /-- A completed compilation. -/
  | info
  /-- A rejected input. -/
  | warning
  deriving DecidableEq, Repr, Inhabited

/-- The name of a level. -/
def Level.name : Level → Text
  | .debug => "DEBUG".toText
  | .info => "INFO".toText
  | .warning => "WARNING".toText

/-- Which part of the compiler a record comes from. -/
inductive Channel where
  /-- The setters of the builder. -/
  | builder
  /-- The condition parser. -/
  | conditions
  /-- The check of include paths. -/
  | includes
  /-- Preset expansion. -/
  | presets
  /-- The choice of credentials. -/
  | config
  /-- Compilation from the command line. -/
  | compile
  deriving DecidableEq, Repr, Inhabited

/-- The name under which a channel logs. -/
def Channel.name : Channel → Text
  | .builder => "tpbridge.lib.query.builder".toText
  | .conditions => "tpbridge.lib.query.conditions".toText
  | .includes => "tpbridge.lib.query.includes".toText
  | .presets => "tpbridge.lib.query.presets".toText
  | .config => "tpbridge.lib.common.config".toText
  | .compile => "tpbridge.lib.devtools.compile".toText

/-- One log record. -/
structure LogRecord where
  /-- Importance. -/
  level : Level
  /-- Origin. -/
  channel : Channel
  /-- Wording. -/
  message : Text
  deriving DecidableEq, Repr, Inhabited

namespace LogRecord

/-- Whether a record is shown on the command line. -/
def isShown (r : LogRecord) : Bool :=
  r.level != .debug

/-- The record as one line, without its end: time, level, channel and message between bars. -/
def line (time : Text) (r : LogRecord) : Text :=
  Text.join " | ".toText [time, r.level.name, r.channel.name, r.message]

end LogRecord

end TrackerQuery
