import TrackerQuery.Text.Basic

/-!
# TrackerQuery.Fault.Issue

What a **validation report** lists: for each value that does not fit its field,
what is wrong with it and where it stands.
-/

namespace TrackerQuery

/-- One step of the way to a value: a field or key by its name, or an item by its index. -/
inductive Place where
  /-- A field, a key or an alternative of a choice. -/
  | name (t : Text)
  /-- An item of a list, or a key that is a number. -/
  | index (n : Int)
  deriving DecidableEq, Repr

/-- What is wrong with a value. -/
inductive Problem where
  /-- A required field is not there. -/
  | missing
  /-- Not a text. -/
  | notText
  /-- A text with a surrogate that stands alone where its characters matter. -/
  | notUnicode
  /-- An empty text where none is allowed. -/
  | emptyText
  /-- Not the name of an entity type. -/
  | notTypeName
  /-- Of no shape that stands for a whole number. -/
  | notInteger
  /-- A text that spells no whole number. -/
  | notNumeral
  /-- A number that is not finite. -/
  | notFinite
  /-- A number with a fractional part. -/
  | fractional
  /-- A number of too many digits. -/
  | tooLarge
  /-- Below 1. -/
  | belowOne
  /-- Above 1000. -/
  | aboveThousand
  /-- Not a list. -/
  | notList
  /-- Not a dictionary. -/
  | notDict
  /-- Neither a dictionary nor a structured sort key. -/
  | notSortItem
  /-- Not a direction. -/
  | notDirection
  /-- Not an authentication scheme. -/
  | notScheme
  /-- An attempt to change what is fixed. -/
  | frozen
  deriving DecidableEq, Repr

namespace Problem

/-- The short name of a problem. -/
def code : Problem → String
  | missing => "missing"
  | notText => "string_type"
  | notUnicode => "string_unicode"
  | emptyText => "string_too_short"
  | notTypeName => "string_pattern_mismatch"
  | notInteger => "int_type"
  | notNumeral => "int_parsing"
  | notFinite => "finite_number"
  | fractional => "int_from_float"
  | tooLarge => "int_parsing_size"
  | belowOne => "greater_than_equal"
  | aboveThousand => "less_than_equal"
  | notList => "list_type"
  | notDict => "dict_type"
  | notSortItem => "model_type"
  | notDirection => "literal_error"
  | notScheme => "enum"
  | frozen => "frozen_instance"

/-- The wording of a problem. -/
def message : Problem → String
  | missing => "Field required"
  | notText => "Input should be a valid string"
  | notUnicode => "Input should be a valid string, unable to parse raw data as a unicode string"
  | emptyText => "String should have at least 1 character"
  | notTypeName => "String should match pattern '^[A-Za-z][A-Za-z0-9]*$'"
  | notInteger => "Input should be a valid integer"
  | notNumeral => "Input should be a valid integer, unable to parse string as an integer"
  | notFinite => "Input should be a finite number"
  | fractional => "Input should be a valid integer, got a number with a fractional part"
  | tooLarge => "Unable to parse input string as an integer, exceeded maximum size"
  | belowOne => "Input should be greater than or equal to 1"
  | aboveThousand => "Input should be less than or equal to 1000"
  | notList => "Input should be a valid list"
  | notDict => "Input should be a valid dictionary"
  | notSortItem => "Input should be a valid dictionary or instance of OrderByItem"
  | notDirection => "Input should be 'asc' or 'desc'"
  | notScheme => "Input should be 'basic' or 'apikey'"
  | frozen => "Instance is frozen"

end Problem

/-- One entry of a validation report. -/
structure Issue where
  /-- What is wrong. -/
  problem : Problem
  /-- Where, from the outside in. -/
  location : List Place
  deriving DecidableEq, Repr

/-- The issue seen from one level further out. -/
def Issue.within (place : Place) (issue : Issue) : Issue :=
  { issue with location := place :: issue.location }

end TrackerQuery
