import TrackerQuery.Text.Basic

/-!
# TrackerQuery.Literal.Quoted

**Text literals** of the query language: a text between apostrophes in which each
apostrophe is written twice.

`quote` makes a literal of whatever a caller supplied as the value of a
condition. Callers write values bare, between quotes of either kind, or already
as a literal, so one quote at each edge is taken off before the text is escaped.
A value that stands between apostrophes is taken as a literal, and its doubled
apostrophes are read as single ones first.

Design points:

* `denoted?` reads a literal back. It accepts exactly the texts of the form
  apostrophe, characters with every apostrophe doubled, apostrophe.
* `collapse` pairs apostrophes from the left, so of three in a row the last one
  stays alone.
-/

namespace TrackerQuery.Literal

/-- The quote of the query language. -/
def apostrophe : CodePoint := '\''

/-- The other character that callers quote with. -/
def quotationMark : CodePoint := '"'

/-- Whether a character is one of the two quotes. -/
def isQuote (c : CodePoint) : Bool :=
  c == apostrophe || c == quotationMark

/-! ### Escaping -/

/-- The text with each apostrophe written twice. -/
def double : Text → Text
  | [] => []
  | c :: rest =>
    if c = apostrophe then apostrophe :: apostrophe :: double rest else c :: double rest

/-- The text with each pair of apostrophes written once, pairs being taken from the left. -/
def collapse : Text → Text
  | [] => []
  | [c] => [c]
  | c :: d :: rest =>
    if c = apostrophe ∧ d = apostrophe then apostrophe :: collapse rest
    else c :: collapse (d :: rest)

/-- The literal that denotes a text. -/
def ofText (t : Text) : Text :=
  apostrophe :: double t ++ [apostrophe]

/-! ### Quotes that callers wrote -/

/-- Whether a text stands between two apostrophes. -/
def isWrapped : Text → Bool
  | c :: rest => c == apostrophe && rest.getLast? == some apostrophe
  | [] => false

/-- The text without a quote of either kind at its start. -/
def dropOpening : Text → Text
  | c :: rest => if isQuote c then rest else c :: rest
  | [] => []

/-- The text without a quote of either kind at its end. -/
def dropClosing (t : Text) : Text :=
  (dropOpening t.reverse).reverse

/-- The text that a caller means by what they wrote. -/
def meaning (raw : Text) : Text :=
  let bare := dropClosing (dropOpening raw)
  if isWrapped raw then collapse bare else bare

/-- The literal for what a caller wrote. -/
def quote (raw : Text) : Text :=
  ofText (meaning raw)

/-! ### Reading -/

/-- What a literal denotes, from behind its opening apostrophe to the apostrophe that closes it,
and the text that follows. `none` if the literal is not closed. -/
def closeFrom : Text → Option (Text × Text)
  | [] => none
  | [c] => if c = apostrophe then some ([], []) else none
  | c :: d :: rest =>
    if c = apostrophe then
      if d = apostrophe then (closeFrom rest).map fun p => (apostrophe :: p.1, p.2)
      else some ([], d :: rest)
    else (closeFrom (d :: rest)).map fun p => (c :: p.1, p.2)

/-- The literal at the start of a text: what it denotes, and the text that follows it. -/
def cut? : Text → Option (Text × Text)
  | c :: rest => if c = apostrophe then closeFrom rest else none
  | [] => none

/-- The text that a literal denotes; `none` if the text is no literal. -/
def denoted? (t : Text) : Option Text :=
  match cut? t with
  | some (inner, []) => some inner
  | _ => none

end TrackerQuery.Literal
