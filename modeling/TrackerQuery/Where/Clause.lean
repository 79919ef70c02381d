import TrackerQuery.Text.Basic
import TrackerQuery.Literal.Quoted

/-!
# TrackerQuery.Where.Clause

Cutting a where expression into its **clauses** at the word *and*.

The cut is made in one pass. The scan keeps two facts about the text behind it,
which quote is open and which character came last, and a connective outside quotes
ends a clause. Unbalanced quotes are nobody's error here: what follows an unclosed
quote belongs to the last clause.

Design points:

* `Scan.step` is the whole effect of one character on the state, so the state
  after any part of a text is a fold (`Scan.after`).
* The connective is a space and the three letters of *and* in any case, followed
  by a blank or by the end of the text. It holds no quote and no backslash, so the
  scan goes on behind it without an open quote.
* `cut` gives the raw pieces and `clauses` trims them. There is always at least
  one piece.
-/

namespace TrackerQuery.Where

/-! ### Quote state -/

/-- What the scan remembers of the text behind it. -/
structure Scan where
  /-- The quote that is open, if one is. -/
  opened : Option CodePoint
  /-- The last character, if there is one. -/
  last : Option CodePoint
  deriving DecidableEq, Repr

namespace Scan

/-- The state in front of a text. -/
def start : Scan := ⟨none, none⟩

/-- The open quote after a character that is a quote and not escaped. -/
def toggle (opened : Option CodePoint) (c : CodePoint) : Option CodePoint :=
  match opened with
  | none => some c
  | some q => if c = q then none else some q

/-- The state after one more character. A quote behind a backslash is an ordinary character. -/
def step (s : Scan) (c : CodePoint) : Scan :=
  ⟨if Literal.isQuote c && s.last != some (.char '\\') then toggle s.opened c else s.opened, some c⟩

/-- The state after a text. -/
def after (s : Scan) (t : Text) : Scan :=
  t.foldl step s

end Scan

/-! ### The connective -/

/-- Whether a clause can end in front of what follows: the end of the text or a blank. -/
def atWordEnd : Text → Bool
  | [] => true
  | c :: _ => Text.isBlank c

/-- Whether a text starts with the connective. -/
def startsWithAnd : Text → Bool
  | ' ' :: a :: n :: d :: rest =>
    (a == 'a' || a == 'A') && (n == 'n' || n == 'N') && (d == 'd' || d == 'D') && atWordEnd rest
  | _ => false

/-! ### Cutting -/

/-- A character in front of the first piece. -/
def consFirst (c : CodePoint) : List Text → List Text
  | [] => [[c]]
  | p :: ps => (c :: p) :: ps

/-- The pieces of a text between connectives that stand outside quotes. `s` is the state in front
of the text, and `skip` is the number of characters of a connective that are still to be passed
over. -/
def cut (s : Scan) (skip : Nat) : Text → List Text
  | [] => [[]]
  | c :: rest =>
    match skip with
    | n + 1 => cut (s.step c) n rest
    | 0 =>
      if (s.step c).opened = none ∧ startsWithAnd (c :: rest) = true then
        [] :: cut (s.step c) 3 rest
      else consFirst c (cut (s.step c) 0 rest)

/-- The clauses of a where expression, in order and trimmed. -/
def clauses (expression : Text) : List Text :=
  (cut Scan.start 0 expression).map Text.strip

end TrackerQuery.Where
