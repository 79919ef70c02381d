import TrackerQuery.Text.Basic

/-!
# TrackerQuery.Text.Keyword

**Keywords** are matched letter by letter without regard to case.

The comparison folds more than the ASCII pairs: a keyword's `i` also matches the
dotted capital U+0130 and the dotless small U+0131, an `s` also matches the long
small U+017F, and a `k` also matches the kelvin sign U+212A. Keywords themselves
are written in small ASCII letters.
-/

namespace TrackerQuery.Text

/-- Whether a character of a text stands for a letter of a keyword. -/
def foldsTo (letter c : CodePoint) : Bool :=
  c == letter || c == letter.toUpper ||
    (letter == 'i' && (c.toNat == 0x130 || c.toNat == 0x131)) ||
    (letter == 's' && c.toNat == 0x17F) ||
    (letter == 'k' && c.toNat == 0x212A)

/-- What follows a keyword, if the text starts with it in any case. -/
def afterKeyword? : Text → Text → Option Text
  | [], t => some t
  | _ :: _, [] => none
  | k :: ks, c :: cs => if foldsTo k c then afterKeyword? ks cs else none

/-- Whether a text is a keyword in any case. -/
def isKeyword (keyword t : Text) : Bool :=
  afterKeyword? keyword t == some []

/-- What stands before a keyword that ends the text and before the blanks in front of that
keyword, together with those blanks. There must be at least one blank.

The text is given **reversed**, and so are both answers: the end of a text is then its head. -/
def beforeKeyword? (keyword reversed : Text) : Option (Text × Text) :=
  match afterKeyword? keyword.reverse reversed with
  | none => none
  | some rest =>
    if (leadingBlank rest).isEmpty then none else some (leadingBlank rest, dropBlank rest)

end TrackerQuery.Text
