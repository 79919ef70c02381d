import TrackerQuery.Limits
import TrackerQuery.Text.Basic

/-!
# TrackerQuery.Text.Numeral

**Decimal digits** of every script, the reading of numerals, and which numerals a
platform handles at all.

A digit zero starts ten consecutive code points in each script that has decimal
digits, so the table lists the zeros (version 14 of the character database). An
integer as a caller types it is an optional sign and digits, with single
underscores allowed between digits and blanks around the whole.
-/

namespace TrackerQuery.Text

/-- The code points of the digit zero, one for each script. -/
def zeroDigits : List Nat := [
  0x30, 0x660, 0x6F0, 0x7C0, 0x966, 0x9E6, 0xA66, 0xAE6, 0xB66, 0xBE6, 0xC66, 0xCE6, 0xD66,
   0xDE6, 0xE50, 0xED0, 0xF20, 0x1040, 0x1090, 0x17E0, 0x1810, 0x1946, 0x19D0, 0x1A80, 0x1A90,
   0x1B50, 0x1BB0, 0x1C40, 0x1C50, 0xA620, 0xA8D0, 0xA900, 0xA9D0, 0xA9F0, 0xAA50, 0xABF0,
   0xFF10, 0x104A0, 0x10D30, 0x11066, 0x110F0, 0x11136, 0x111D0, 0x112F0, 0x11450, 0x114D0,
   0x11650, 0x116C0, 0x11730, 0x118E0, 0x11950, 0x11C50, 0x11D50, 0x11DA0, 0x16A60, 0x16AC0,
   0x16B50, 0x1D7CE, 0x1D7D8, 0x1D7E2, 0x1D7EC, 0x1D7F6, 0x1E140, 0x1E2F0, 0x1E950, 0x1FBF0]

/-- The value of a decimal digit of any script. -/
def digitValue? (c : CodePoint) : Option Nat :=
  if c.toNat < 0x80 then
    if c.isDigit then some (c.toNat - 48) else none
  else (zeroDigits.find? fun z => z ≤ c.toNat && c.toNat ≤ z + 9).map (c.toNat - ·)

/-- The value of a hexadecimal digit. -/
def hexDigit? (c : CodePoint) : Option Nat :=
  if c.isDigit then some (c.toNat - 48)
  else if 97 ≤ c.toNat && c.toNat ≤ 102 then some (c.toNat - 87)
  else if 65 ≤ c.toNat && c.toNat ≤ 70 then some (c.toNat - 55)
  else none

/-- The number that digits spell in a base, most significant first; `none` if a character is no
digit. The empty text spells the start value. -/
def readDigits? (digit? : CodePoint → Option Nat) (base : Nat) (value : Nat) : Text → Option Nat
  | [] => some value
  | c :: rest =>
    match digit? c with
    | none => none
    | some d => readDigits? digit? base (value * base + d) rest

/-- The number that ASCII decimal digits spell. Characters that are no digits count as zero, so
callers check them first. -/
def natOfDigits (t : Text) : Nat :=
  t.foldl (fun value c => value * 10 + (c.toNat - 48)) 0

/-- Digits with single underscores between them, without the underscores. `afterDigit` says
that the character before was a digit, which is what an underscore needs on both sides. -/
def dropUnderscores? (isDigit : CodePoint → Bool) (afterDigit : Bool) : Text → Option Text
  | [] => if afterDigit then some [] else none
  | c :: rest =>
    if isDigit c then (dropUnderscores? isDigit true rest).map (c :: ·)
    else if c == '_' && afterDigit then dropUnderscores? isDigit false rest
    else none

/-- A sign, if there is one, and what follows it. -/
def cutSign : Text → Bool × Text
  | '-' :: rest => (true, rest)
  | '+' :: rest => (false, rest)
  | t => (false, t)

/-- The integer with a given sign and magnitude. -/
def signed (negative : Bool) (n : Nat) : Int :=
  if negative then -(n : Int) else n

/-- The limit on numerals, if one of a number of digits exceeds it. -/
def exceeded? [Limits] (digits : Nat) : Option Nat :=
  match Limits.digits with
  | some most => if most < digits then some most else none
  | none => none

/-- The integer that a caller typed: blanks around it, a sign, digits of any script. Numerals that
exceed the limit are refused. -/
def readInt? [Limits] (t : Text) : Option Int :=
  let (negative, body) := cutSign (strip t)
  match dropUnderscores? (fun c => (digitValue? c).isSome) false body with
  | none => none
  | some digits =>
    match exceeded? digits.length with
    | some _ => none
    | none => (readDigits? digitValue? 10 0 digits).map (signed negative)

end TrackerQuery.Text
