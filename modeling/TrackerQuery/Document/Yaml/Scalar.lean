import TrackerQuery.Document.Yaml.Cursor
import TrackerQuery.Fault.Basic
import TrackerQuery.Text.CodeUnit
import TrackerQuery.Text.Numeral

/-!
# TrackerQuery.Document.Yaml.Scalar

Reading the **scalars** of YAML: plain ones, and ones between quotes of either
kind.

A scalar may go on over several lines. The end of a line then reads as a space,
and an empty line in between as the end of a line. A plain scalar ends at a colon
in front of a gap, at a comment, at a line that is indented too little, and inside
brackets also at the characters that structure them.
-/

namespace TrackerQuery.Yaml

/-! ### Folding lines -/

/-- What the first of several line ends reads as: nothing of its own if others follow, a space
if none does. -/
def fold (first breaks : Text) : Text :=
  if first == "\n".toText then (if breaks.isEmpty then [' '] else breaks) else first ++ breaks

/-! ### Plain scalars -/

/-- A character that structures brackets. -/
def isFlowMark (c : CodePoint) : Bool :=
  c == ',' || c == '[' || c == ']' || c == '\x7b' || c == '\x7d'

/-- Whether a colon in front of a text ends a plain scalar. -/
def colonEnds (inFlow : Bool) (t : Text) : Bool :=
  atGap t || (inFlow && (t.head?.map isFlowMark).getD false)

/-- The part of a plain scalar up to a gap or its end. -/
def plainChunk (inFlow : Bool) : Text → Text
  | [] => []
  | c :: rest =>
    if isSpaceOrBreak c then []
    else if c == ':' && colonEnds inFlow rest then []
    else if inFlow && (isFlowMark c || c == '?') then []
    else c :: plainChunk inFlow rest

/-- The line ends among spaces and line ends, as they read, and the place behind them. The last
answer says that a mark between documents stands there. -/
def plainBreaks : Nat → Text → Cursor → Text × Cursor × Bool
  | 0, breaks, c => (breaks, c, false)
  | fuel + 1, breaks, c =>
    if c.at? ' ' then plainBreaks fuel breaks (c.advance 1)
    else
      match c.lineEnd? with
      | none => (breaks, c, false)
      | some (b, c) =>
        if atDocumentMark c.rest then (breaks ++ b, c, true)
        else plainBreaks fuel (breaks ++ b) c

/-- The gap behind a part of a plain scalar: what it reads as, the place behind it, and whether a
line ended in it. It reads as nothing if the scalar ends there. -/
def plainGap (c : Cursor) : Text × Cursor × Bool :=
  let behind := c.skipSpaces
  match behind.lineEnd? with
  | none => (c.rest.takeWhile (· == ' '), behind, false)
  | some (first, c) =>
    if atDocumentMark c.rest then ([], c, true)
    else
      let (breaks, c, marked) := plainBreaks (c.rest.length + 1) [] c
      (if marked then [] else fold first breaks, c, true)

/-- A plain scalar. -/
structure Plain where
  /-- What it reads as. -/
  text : Text
  /-- The place behind it. -/
  behind : Cursor
  /-- Whether a line ended behind it, so that a key can start there. -/
  lineEnded : Bool

/-- A plain scalar from where its next part starts. Lines behind the first one have to be indented
by at least `indent`. -/
def plainFrom (inFlow : Bool) (indent : Int) : Nat → Text → Text → Bool → Cursor → Plain
  | 0, text, _, ended, c => ⟨text, c, ended⟩
  | fuel + 1, text, gap, ended, c =>
    if c.at? '#' then ⟨text, c, ended⟩
    else
      let chunk := plainChunk inFlow c.rest
      if chunk.isEmpty then ⟨text, c, ended⟩
      else
        let text := text ++ gap ++ chunk
        let (gap, c, ended) := plainGap (c.advance chunk.length)
        if gap.isEmpty || c.at? '#' || (!inFlow && (c.column : Int) < indent) then
          ⟨text, c, ended⟩
        else plainFrom inFlow indent fuel text gap ended c

/-- The plain scalar at a place. -/
def plain (inFlow : Bool) (indent : Int) (c : Cursor) : Plain :=
  plainFrom inFlow indent (c.rest.length + 1) [] [] false c

/-! ### Quoted scalars -/

/-- Why a quoted scalar cannot be read. -/
inductive QuoteFault where
  /-- It is malformed. -/
  | malformed
  /-- An escape names a character beyond the code space. -/
  | outsideCodeSpace

/-- The code that a one-letter escape names. -/
def escapeCode? : CodePoint → Option Nat
  | '0' => some 0
  | 'a' => some 7
  | 'b' => some 8
  | 't' => some 9
  | '\t' => some 9
  | 'n' => some 10
  | 'v' => some 11
  | 'f' => some 12
  | 'r' => some 13
  | 'e' => some 27
  | ' ' => some 32
  | '"' => some 34
  | '\\' => some 92
  | '/' => some 47
  | 'N' => some 0x85
  | '_' => some 0xA0
  | 'L' => some 0x2028
  | 'P' => some 0x2029
  | _ => none

/-- The number of hexadecimal digits that an escape by code has. -/
def codeDigits? : CodePoint → Option Nat
  | 'x' => some 2
  | 'u' => some 4
  | 'U' => some 8
  | _ => none

/-- The line ends inside a quoted scalar among spaces, tabs and line ends, as they read, and the
place behind them. A mark between documents may not stand there. -/
def quotedBreaks : Nat → Text → Cursor → Option (Text × Cursor)
  | 0, breaks, c => some (breaks, c)
  | fuel + 1, breaks, c =>
    if atDocumentMark c.rest then none
    else
      let c := c.skipBlanks
      match c.lineEnd? with
      | none => some (breaks, c)
      | some (b, c) => quotedBreaks fuel (breaks ++ b) c

/-- The escape behind a backslash: the codes it reads as, and the place behind it. -/
def escape (c : Cursor) : Except QuoteFault (List Nat × Cursor) :=
  match c.rest with
  | [] => .error .malformed
  | x :: rest =>
    match escapeCode? x with
    | some n => .ok ([n], c.advance 1)
    | none =>
      match codeDigits? x with
      | some width =>
        let digits := rest.take width
        if digits.length = width then
          match Text.readDigits? Text.hexDigit? 16 0 digits with
          | none => .error .malformed
          | some n =>
            if n < 0x110000 then .ok ([n], c.advance (1 + width)) else .error .outsideCodeSpace
        else .error .malformed
      | none =>
        match c.lineEnd? with
        | none => .error .malformed
        | some (_, c) =>
          match quotedBreaks (c.rest.length + 1) [] c with
          | some (breaks, c) => .ok (Text.codes breaks, c)
          | none => .error .malformed

/-- A quoted scalar from behind its opening quote, its codes collected last one first. -/
def quotedFrom (double : Bool) : Nat → List Nat → Cursor → Except QuoteFault (Text × Cursor)
  | 0, _, _ => .error .malformed
  | fuel + 1, codes, c =>
    match c.rest with
    | [] => .error .malformed
    | x :: rest =>
      if x == (if double then '"' else '\'') then
        if !double && rest.head? == some (.char '\'') then
          quotedFrom double fuel (39 :: codes) (c.advance 2)
        else .ok (codes.reverse.map .ofNat, c.advance 1)
      else if double && x == '\\' then
        match escape (c.advance 1) with
        | .error e => .error e
        | .ok (more, c) => quotedFrom double fuel (more.reverse ++ codes) c
      else if isSpaceOrBreak x then
        let blanks := c.rest.takeWhile fun y => y == .char ' ' || y == .char '\t'
        let c := c.skipBlanks
        match c.rest, c.lineEnd? with
        | [], _ => .error .malformed
        | _, none => quotedFrom double fuel ((Text.codes blanks).reverse ++ codes) c
        | _, some (first, c) =>
          match quotedBreaks (c.rest.length + 1) [] c with
          | none => .error .malformed
          | some (breaks, c) =>
            quotedFrom double fuel ((Text.codes (fold first breaks)).reverse ++ codes) c
      else quotedFrom double fuel (x.toNat :: codes) (c.advance 1)

/-- The quoted scalar at a place, in front of its opening quote. -/
def quoted (double : Bool) (c : Cursor) : Except QuoteFault (Text × Cursor) :=
  quotedFrom double (c.rest.length + 1) [] (c.advance 1)

end TrackerQuery.Yaml
