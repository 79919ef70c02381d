import TrackerQuery.Text.Basic

/-!
# TrackerQuery.Document.Yaml.Cursor

Where a reader of YAML **stands in a text**: what is left of it, and the line and
column that indentation is measured by.

Four characters end a line. The line feed and U+0085 are line ends of one kind and
both read as a line feed, while U+2028 and U+2029 keep their character. A byte
order mark takes no column.
-/

namespace TrackerQuery.Yaml

/-- A character that ends a line. -/
def isBreak (c : CodePoint) : Bool :=
  c == '\n' || c.toNat == 0x85 || c.toNat == 0x2028 || c.toNat == 0x2029

/-- A character that ends a line, a space or a tab. -/
def isSpaceOrBreak (c : CodePoint) : Bool :=
  c == ' ' || c == '\t' || isBreak c

/-- Whether a text is at its end, or starts with a space, a tab or the end of a line. -/
def atGap : Text → Bool
  | [] => true
  | c :: _ => isSpaceOrBreak c

/-- Whether a text starts with three equal characters and a gap. -/
def startsWithTriple (mark : CodePoint) : Text → Bool
  | a :: b :: c :: rest => a == mark && b == mark && c == mark && atGap rest
  | _ => false

/-- Whether a text starts with one of the marks between documents. -/
def atDocumentMark (t : Text) : Bool :=
  startsWithTriple '-' t || startsWithTriple '.' t

/-- What the end of a line reads as. -/
def breakText (c : CodePoint) : Text :=
  if c.toNat == 0x2028 || c.toNat == 0x2029 then [c] else ['\n']

/-- A place in a text. -/
structure Cursor where
  /-- What is left of the text. -/
  rest : Text
  /-- The number of characters passed. -/
  index : Nat
  /-- The number of lines passed. -/
  line : Nat
  /-- The number of characters passed on the current line. -/
  column : Nat

namespace Cursor

/-- The start of a text. -/
def start (t : Text) : Cursor := ⟨t, 0, 0, 0⟩

/-- The place behind a character. -/
def pass (c : Cursor) (x : CodePoint) (rest : Text) : Cursor :=
  if isBreak x then ⟨rest, c.index + 1, c.line + 1, 0⟩
  else ⟨rest, c.index + 1, c.line, if x.toNat == 0xFEFF then c.column else c.column + 1⟩

/-- The place behind a number of characters. -/
def advance (c : Cursor) : Nat → Cursor
  | 0 => c
  | n + 1 =>
    match c.rest with
    | [] => c
    | x :: rest => (c.pass x rest).advance n

/-- The place behind a run of spaces. -/
def skipSpaces (c : Cursor) : Cursor :=
  c.advance (c.rest.takeWhile (· == .char ' ')).length

/-- The place behind a run of spaces and tabs. -/
def skipBlanks (c : Cursor) : Cursor :=
  c.advance (c.rest.takeWhile fun x => x == .char ' ' || x == .char '\t').length

/-- The place behind the rest of the line, in front of its end. -/
def skipLine (c : Cursor) : Cursor :=
  c.advance (c.rest.takeWhile fun x => !isBreak x).length

/-- Whether the next character is a given one. -/
def at? (c : Cursor) (x : CodePoint) : Bool :=
  c.rest.head? == some x

/-- The end of the line that comes next, as it reads, and the place behind it. -/
def lineEnd? (c : Cursor) : Option (Text × Cursor) :=
  match c.rest with
  | x :: _ => if isBreak x then some (breakText x, c.advance 1) else none
  | [] => none

end Cursor

end TrackerQuery.Yaml
