import TrackerQuery.Document.Yaml.Scalar

/-!
# TrackerQuery.Document.Yaml.Token

From text to **tokens**.

The tokens of YAML say where collections start and end, so that the grammar over
them needs no indentation. Two things make them more than a cutting of the text:
deeper and shallower indentation yield tokens of their own, and a scalar turns out
to be a key only when the colon behind it is met, upon which the tokens for the
key are put in front of what was read since.

Design points:

* A `Candidate` is a place where a key may have started, one for each depth of
  brackets. A candidate lapses when its line ends or it is too far behind; if a
  key was required there, that is an error.
* Tokens behind the oldest candidate wait in `queue`, since a key may still be put
  in front of them; the others are `released`.
* Not all of YAML has tokens here: block scalars, anchors, aliases and tags are refused.
* When reading fails, the released tokens stay and the waiting ones are lost. What
  is wrong with the tokens in front of a bad character is then noticed first.
-/

namespace TrackerQuery.Yaml

/-- A token. -/
inductive Token where
  /-- A directive; one that states a version carries its first number. -/
  | directive (version : Option Nat)
  /-- The mark in front of a document. -/
  | documentStart
  /-- The mark behind a document. -/
  | documentEnd
  /-- An indented sequence starts. -/
  | blockSequenceStart
  /-- An indented mapping starts. -/
  | blockMappingStart
  /-- An indented collection ends. -/
  | blockEnd
  /-- A sequence in brackets starts. -/
  | flowSequenceStart
  /-- A sequence in brackets ends. -/
  | flowSequenceEnd
  /-- A mapping in braces starts. -/
  | flowMappingStart
  /-- A mapping in braces ends. -/
  | flowMappingEnd
  /-- An item of an indented sequence follows. -/
  | blockEntry
  /-- An item inside brackets or braces ends. -/
  | flowEntry
  /-- A key follows. -/
  | key
  /-- The value of a key follows. -/
  | value
  /-- A scalar, and whether it is a plain one. -/
  | scalar (plain : Bool) (text : Text)
  /-- The text ends. -/
  | streamEnd
  deriving DecidableEq, Repr

/-- A place where a key may have started. -/
structure Candidate where
  /-- The number of the token that would be the key. -/
  number : Nat
  /-- Whether there has to be a key. -/
  required : Bool
  /-- Where the candidate stands. -/
  place : Cursor

/-- The state of the lexer. -/
structure Lexer where
  /-- Where it stands. -/
  cursor : Cursor
  /-- How many brackets and braces are open. -/
  depth : Nat := 0
  /-- The candidates by the depth they stand at. -/
  candidates : List (Nat × Candidate) := []
  /-- Whether a key can start here. -/
  keysAllowed : Bool := true
  /-- The column of the innermost indented collection. -/
  indent : Int := -1
  /-- The columns of the collections around it. -/
  indents : List Int := []
  /-- The tokens that wait, in order. -/
  queue : List Token := []
  /-- The tokens released, last one first. -/
  released : List Token := []

namespace Lexer

/-! ### Candidates -/

/-- The number of the next token. -/
def nextNumber (s : Lexer) : Nat :=
  s.released.length + s.queue.length

/-- Whether a candidate can no longer be a key. -/
def isLapsed (s : Lexer) (k : Candidate) : Bool :=
  k.place.line != s.cursor.line || 1024 < s.cursor.index - k.place.index

/-- The state without the candidates that have lapsed. -/
def dropLapsed (s : Lexer) : Except DocumentFault Lexer :=
  if s.candidates.any fun k => s.isLapsed k.2 && k.2.required then .error .token
  else .ok { s with candidates := s.candidates.filter fun k => !s.isLapsed k.2 }

/-- The candidate at the current depth. -/
def candidate? (s : Lexer) : Option Candidate :=
  s.candidates.lookup s.depth

/-- The state without a candidate at the current depth. -/
def forget (s : Lexer) : Lexer :=
  { s with candidates := s.candidates.filter fun k => k.1 != s.depth }

/-- The state without a candidate at the current depth, none being required there. -/
def dropCandidate (s : Lexer) : Except DocumentFault Lexer :=
  match s.candidate? with
  | some k => if k.required then .error .token else .ok s.forget
  | none => .ok s

/-- The state with a candidate for the next token, if a key can start here. -/
def saveCandidate (s : Lexer) : Except DocumentFault Lexer :=
  if s.keysAllowed then
    match s.dropCandidate with
    | .error e => .error e
    | .ok s =>
      let required := s.depth == 0 && s.indent == (s.cursor.column : Int)
      let k : Candidate := ⟨s.nextNumber, required, s.cursor⟩
      .ok { s with candidates := (s.depth, k) :: s.candidates }
  else .ok s

/-! ### Tokens -/

/-- The state with a token at the end of the queue. -/
def push (t : Token) (s : Lexer) : Lexer :=
  { s with queue := s.queue ++ [t] }

/-- The state with a token put in front of the token of a number. -/
def putAt (number : Nat) (t : Token) (s : Lexer) : Lexer :=
  let i := number - s.released.length
  { s with queue := s.queue.take i ++ t :: s.queue.drop i }

/-- The state with the tokens released that no candidate can put a key in front of. -/
def release (s : Lexer) : Lexer :=
  let n := s.candidates.foldl (fun n k => min n (k.2.number - s.released.length)) s.queue.length
  { s with queue := s.queue.drop n, released := (s.queue.take n).reverse ++ s.released }

/-- The state behind a number of characters. -/
def pass (n : Nat) (s : Lexer) : Lexer :=
  { s with cursor := s.cursor.advance n }

/-- The state with keys allowed or not. -/
def allow (keys : Bool) (s : Lexer) : Lexer :=
  { s with keysAllowed := keys }

/-! ### Indentation -/

/-- The indented collections that end at a column, for a stack of columns. -/
def unwindFrom (column : Int) : List Int → Lexer → Lexer
  | [], s => s
  | outer :: rest, s =>
    if column < s.indent then
      unwindFrom column rest ({ s with indent := outer, indents := rest }.push .blockEnd)
    else s

/-- The state with the indented collections ended that the column of the next token ends. -/
def unwind (column : Int) (s : Lexer) : Lexer :=
  if s.depth != 0 then s else unwindFrom column s.indents s

/-- The state with an indented collection started at a column that is deeper than the innermost
one, and whether it was started. -/
def deepen (column : Int) (s : Lexer) : Bool × Lexer :=
  if s.indent < column then
    (true, { s with indent := column, indents := s.indent :: s.indents })
  else (false, s)

/-- The state with a collection started at the next token, if that is deeper. -/
def startBlock (t : Token) (s : Lexer) : Lexer :=
  let (deeper, s) := s.deepen s.cursor.column
  if deeper then s.push t else s

/-! ### Gaps -/

/-- The place of the next token, and whether a line ended before it. -/
def skipGap : Nat → Bool → Cursor → Cursor × Bool
  | 0, ended, c => (c, ended)
  | fuel + 1, ended, c =>
    let c := c.skipSpaces
    let c := if c.at? '#' then c.skipLine else c
    match c.lineEnd? with
    | some (_, c) => skipGap fuel true c
    | none => (c, ended)

/-- The state in front of the next token. -/
def toNextToken (s : Lexer) : Lexer :=
  let c :=
    if s.cursor.index == 0 && (s.cursor.rest.head?.map CodePoint.toNat) == some 0xFEFF then
      s.cursor.advance 1
    else s.cursor
  let (c, ended) := skipGap (c.rest.length + 1) false c
  { s with cursor := c, keysAllowed := s.keysAllowed || (ended && s.depth == 0) }

/-! ### Kinds of tokens -/

/-- Brings the state in front of a mark between documents or a directive: every indented
collection ends, and no key can start. -/
def endBlocks (s : Lexer) : Except DocumentFault Lexer :=
  match (s.unwind (-1)).dropCandidate with
  | .ok s => .ok (s.allow false)
  | .error e => .error e

/-- The end of the text. -/
def streamEnd (s : Lexer) : Except DocumentFault Lexer :=
  match s.endBlocks with
  | .ok s => .ok ({ s with candidates := [] }.push .streamEnd)
  | .error e => .error e

/-- A mark between documents. -/
def documentMark (t : Token) (s : Lexer) : Except DocumentFault Lexer :=
  match s.endBlocks with
  | .ok s => .ok ((s.pass 3).push t)
  | .error e => .error e

/-- A character of the name of a directive. -/
def isNameChar (c : CodePoint) : Bool :=
  c.isAlphanum || c == '-' || c == '_'

/-- The number at a place and the place behind it. -/
def versionNumber (c : Cursor) : Option (Nat × Cursor) :=
  let digits := c.rest.takeWhile CodePoint.isDigit
  if digits.isEmpty then none else some (Text.natOfDigits digits, c.advance digits.length)

/-- The first number of a version at a place, and the place behind the version. -/
def version (c : Cursor) : Option (Nat × Cursor) :=
  match versionNumber c.skipSpaces with
  | none => none
  | some (major, c) =>
    if c.at? '.' then
      match versionNumber (c.advance 1) with
      | none => none
      | some (_, c) =>
        if c.at? ' ' || c.rest.isEmpty || c.lineEnd?.isSome then some (major, c) else none
    else none

/-- A directive. Behind one that states a version only a comment may follow on its line. -/
def directive (s : Lexer) : Except DocumentFault Lexer :=
  match s.endBlocks with
  | .error e => .error e
  | .ok s =>
    let name := (s.cursor.advance 1).rest.takeWhile isNameChar
    let c := s.cursor.advance (1 + name.length)
    if name.isEmpty || !(c.at? ' ' || c.rest.isEmpty || c.lineEnd?.isSome) then .error .token
    else if name = "YAML".toText then
      match version c with
      | none => .error .token
      | some (major, c) =>
        let c := c.skipSpaces
        let c := if c.at? '#' then c.skipLine else c
        if c.rest.isEmpty || c.lineEnd?.isSome then
          .ok ({ s with cursor := c }.push (.directive (some major)))
        else .error .token
    else .ok ({ s with cursor := c.skipLine }.push (.directive none))

/-- An opening bracket or brace. -/
def flowStart (t : Token) (s : Lexer) : Except DocumentFault Lexer :=
  match s.saveCandidate with
  | .ok s => .ok (({ s with depth := s.depth + 1, keysAllowed := true }.pass 1).push t)
  | .error e => .error e

/-- A closing bracket or brace. -/
def flowEnd (t : Token) (s : Lexer) : Except DocumentFault Lexer :=
  match s.dropCandidate with
  | .ok s => .ok (({ s with depth := s.depth - 1, keysAllowed := false }.pass 1).push t)
  | .error e => .error e

/-- A comma inside brackets or braces. -/
def flowEntry (s : Lexer) : Except DocumentFault Lexer :=
  match (s.allow true).dropCandidate with
  | .ok s => .ok ((s.pass 1).push .flowEntry)
  | .error e => .error e

/-- A hyphen in front of an item. -/
def blockEntry (s : Lexer) : Except DocumentFault Lexer :=
  if s.depth == 0 && !s.keysAllowed then .error .token
  else
    let s := if s.depth == 0 then s.startBlock .blockSequenceStart else s
    match (s.allow true).dropCandidate with
    | .ok s => .ok ((s.pass 1).push .blockEntry)
    | .error e => .error e

/-- A question mark in front of a key. -/
def explicitKey (s : Lexer) : Except DocumentFault Lexer :=
  if s.depth == 0 && !s.keysAllowed then .error .token
  else
    let s := if s.depth == 0 then s.startBlock .blockMappingStart else s
    match (s.allow (s.depth == 0)).dropCandidate with
    | .ok s => .ok ((s.pass 1).push .key)
    | .error e => .error e

/-- A colon behind a candidate makes that a key. -/
def valueOf (k : Candidate) (s : Lexer) : Lexer :=
  let s := s.forget.putAt k.number .key
  let (deeper, s) := if s.depth == 0 then s.deepen k.place.column else (false, s)
  let s := if deeper then s.putAt k.number .blockMappingStart else s
  ((s.allow false).pass 1).push .value

/-- A colon in front of a value. -/
def value (s : Lexer) : Except DocumentFault Lexer :=
  match s.candidate? with
  | some k => .ok (s.valueOf k)
  | none =>
    if s.depth == 0 && !s.keysAllowed then .error .token
    else
      let s := if s.depth == 0 then s.startBlock .blockMappingStart else s
      match (s.allow (s.depth == 0)).dropCandidate with
      | .ok s => .ok ((s.pass 1).push .value)
      | .error e => .error e

/-- A plain scalar. -/
def plainScalar (s : Lexer) : Except DocumentFault Lexer :=
  match s.saveCandidate with
  | .error e => .error e
  | .ok s =>
    let p := plain (s.depth != 0) (s.indent + 1) s.cursor
    .ok ({ s with cursor := p.behind, keysAllowed := p.lineEnded }.push (.scalar true p.text))

/-- Whether a plain scalar can start with the first character of a text. -/
def startsPlain (s : Lexer) : Text → Bool
  | [] => false
  | c :: rest =>
    !(isSpaceOrBreak c || "-?:,[]\x7b\x7d#&*!|>'\"%@`".toText.contains c) ||
      (!atGap rest && (c == '-' || (s.depth == 0 && (c == '?' || c == ':'))))

end Lexer

/-! ### Reading tokens -/

/-- Why the tokens end. -/
inductive LexFault where
  /-- The text is malformed. -/
  | malformed (d : DocumentFault)
  /-- An escape names a character beyond the code space. -/
  | outsideCodeSpace
  deriving DecidableEq, Repr

namespace Lexer

/-- A step of the lexer as one that can fail in every way. -/
def lift (r : Except DocumentFault Lexer) : Except LexFault Lexer :=
  match r with
  | .ok s => .ok s
  | .error d => .error (.malformed d)

/-- A quoted scalar. -/
def quotedScalar (double : Bool) (s : Lexer) : Except LexFault Lexer :=
  match s.saveCandidate with
  | .error e => .error (.malformed e)
  | .ok s =>
    match quoted double s.cursor with
    | .error .malformed => .error (.malformed .token)
    | .error .outsideCodeSpace => .error .outsideCodeSpace
    | .ok (t, c) => .ok ({ s with cursor := c, keysAllowed := false }.push (.scalar false t))

/-- The token that starts with a character, in a state in front of it. -/
def dispatch (s : Lexer) (c : CodePoint) (rest : Text) : Except LexFault Lexer :=
  let lineStart := s.cursor.column == 0
  let inFlow := s.depth != 0
  if c == '%' && lineStart then lift s.directive
  else if lineStart && startsWithTriple '-' (c :: rest) then lift (s.documentMark .documentStart)
  else if lineStart && startsWithTriple '.' (c :: rest) then lift (s.documentMark .documentEnd)
  else if c == '[' then lift (s.flowStart .flowSequenceStart)
  else if c == '\x7b' then lift (s.flowStart .flowMappingStart)
  else if c == ']' then lift (s.flowEnd .flowSequenceEnd)
  else if c == '\x7d' then lift (s.flowEnd .flowMappingEnd)
  else if c == ',' then lift s.flowEntry
  else if c == '-' && atGap rest then lift s.blockEntry
  else if c == '?' && (inFlow || atGap rest) then lift s.explicitKey
  else if c == ':' && (inFlow || atGap rest) then lift s.value
  else if c == '\'' then s.quotedScalar false
  else if c == '"' then s.quotedScalar true
  else if s.startsPlain (c :: rest) then lift s.plainScalar
  else .error (.malformed .token)

/-- The state behind the next token, whether that ends the text, or why there is none. -/
def next (s : Lexer) : Except LexFault (Lexer × Bool) :=
  match s.toNextToken.dropLapsed with
  | .error e => .error (.malformed e)
  | .ok s =>
    let s := s.unwind s.cursor.column
    match s.cursor.rest with
    | [] =>
      match s.streamEnd with
      | .ok s => .ok (s.release, true)
      | .error e => .error (.malformed e)
    | c :: rest =>
      match s.dispatch c rest with
      | .error e => .error e
      | .ok s =>
        match s.dropLapsed with
        | .error e => .error (.malformed e)
        | .ok s => .ok (s.release, false)

/-- The tokens from a state on, and why they end early if they do. Each token takes a character at
least, which bounds their number. -/
def tokensFrom : Nat → Lexer → List Token × Option LexFault
  | 0, s => (s.released.reverse, some (.malformed .token))
  | fuel + 1, s =>
    match s.next with
    | .error e => (s.released.reverse, some e)
    | .ok (s, true) => (s.released.reverse, none)
    | .ok (s, false) => tokensFrom fuel s

end Lexer

/-- The tokens of a text, and why they end early if they do. -/
def tokens (t : Text) : List Token × Option LexFault :=
  Lexer.tokensFrom (t.length + 2) { cursor := Cursor.start t }

end TrackerQuery.Yaml
