import TrackerQuery.Text.Basic

/-!
# TrackerQuery.Text.Utf8

Text as **bytes** in UTF-8, and back.

Encoding goes character by character, so the bytes of a concatenation are the
concatenation of the bytes. A surrogate that stands alone has no bytes. Decoding is
strict: it refuses stray and missing continuation bytes, overlong forms and surrogates.
-/

namespace TrackerQuery.Text

/-- The bytes of characters in order. -/
def utf8 (cs : List Char) : List UInt8 :=
  cs.flatMap String.utf8EncodeChar

/-- The bytes of a text; `none` if it has a surrogate that stands alone. -/
def toUtf8? (t : Text) : Option (List UInt8) :=
  t.chars?.map utf8

/-- The text that bytes encode, if they are well formed. -/
def ofUtf8? (bytes : List UInt8) : Option Text :=
  (bytes.toByteArray.utf8Decode?).map fun cs => ofChars cs.toList

/-- The first surrogates of a text that stand alone, as many as there are in a row. -/
def surrogates (t : Text) : Text :=
  (t.dropWhile CodePoint.isChar).takeWhile fun c => !c.isChar

/-! ### Malformed bytes -/

/-- Why bytes are not well formed. -/
inductive Utf8Problem where
  /-- No character starts with the byte. -/
  | badStart
  /-- A character is broken off by a byte that does not continue it. -/
  | badContinuation
  /-- The bytes end inside a character. -/
  | endOfData
  deriving DecidableEq, Repr

/-- The first place where bytes are not well formed. -/
structure Utf8Flaw where
  /-- What is wrong. -/
  problem : Utf8Problem
  /-- The number of bytes in front of the bad ones. -/
  position : Nat
  /-- The number of bad bytes. -/
  length : Nat
  /-- The first bad byte. -/
  byte : UInt8
  deriving DecidableEq, Repr

/-- The ranges that the bytes behind a first byte have to lie in; `none` if no character starts
with it. -/
def continuations (b : UInt8) : Option (List (UInt8 × UInt8)) :=
  let tail : UInt8 × UInt8 := (0x80, 0xBF)
  if b < 0x80 then some []
  else if b < 0xC2 then none
  else if b < 0xE0 then some [tail]
  else if b == 0xE0 then some [(0xA0, 0xBF), tail]
  else if b == 0xED then some [(0x80, 0x9F), tail]
  else if b < 0xF0 then some [tail, tail]
  else if b == 0xF0 then some [(0x90, 0xBF), tail, tail]
  else if b < 0xF4 then some [tail, tail, tail]
  else if b == 0xF4 then some [(0x80, 0x8F), tail, tail]
  else none

/-- How many bytes lie in the ranges they have to lie in, and what is wrong with the next one. -/
def checkTail (seen : Nat) : List (UInt8 × UInt8) → List UInt8 → Nat × Option Utf8Problem
  | [], _ => (seen, none)
  | _ :: _, [] => (seen, some .endOfData)
  | r :: ranges, b :: bytes =>
    if r.1 ≤ b && b ≤ r.2 then checkTail (seen + 1) ranges bytes else (seen, some .badContinuation)

/-- The first flaw of bytes of which a number has been checked; `skip` bytes belong to the character
that was checked last. -/
def flawFrom (position skip : Nat) : List UInt8 → Option Utf8Flaw
  | [] => none
  | b :: rest =>
    match skip with
    | n + 1 => flawFrom (position + 1) n rest
    | 0 =>
      match continuations b with
      | none => some ⟨.badStart, position, 1, b⟩
      | some ranges =>
        match checkTail 0 ranges rest with
        | (seen, some problem) => some ⟨problem, position, seen + 1, b⟩
        | (seen, none) => flawFrom (position + 1) seen rest

/-- The first flaw of bytes, if they have one. -/
def utf8Flaw? (bytes : List UInt8) : Option Utf8Flaw :=
  flawFrom 0 0 bytes

/-! ### Line ends -/

/-- Line ends read alike: a carriage return, alone or before a line feed, becomes a line feed. -/
def unifyLineEnds : Text → Text
  | [] => []
  | '\r' :: '\n' :: rest => '\n' :: unifyLineEnds rest
  | '\r' :: rest => '\n' :: unifyLineEnds rest
  | c :: rest => c :: unifyLineEnds rest

end TrackerQuery.Text
