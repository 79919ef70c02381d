import TrackerQuery.Text.CodePoint

/-!
# TrackerQuery.Text.Basic

Text as a **list of code points**, the blank characters, and trimming.

Everything the compiler does to text it does one code point at a time: it scans
for quotes, drops blanks, doubles quotes, cuts at words. A list is the view in
which each of these is a recursion, so `Text` is that list, and a packed string
is made only at the outermost layer.

Design points:

* `isBlank` is the one notion of white space of the whole library. It has
  twenty-nine members and is larger than the ASCII class: the four separators
  U+001C to U+001F, U+0085 and the spaces of the wider code space belong to it,
  and the zero-width characters do not.
* `strip` is `dropBlank` from both ends, so it is a suffix of a prefix of the
  text, and what it removes is blank.
-/

namespace TrackerQuery

/-- A text: its code points in order. -/
abbrev Text := List CodePoint

namespace Text

/-! ### Blank characters -/

/-- The blank characters, by code point. -/
def isBlank (c : CodePoint) : Bool :=
  let n := c.toNat
  (9 ≤ n && n ≤ 13) || (28 ≤ n && n ≤ 32) || n == 0x85 || n == 0xA0 || n == 0x1680 ||
    (0x2000 ≤ n && n ≤ 0x200A) || n == 0x2028 || n == 0x2029 || n == 0x202F ||
    n == 0x205F || n == 0x3000

/-- The text without its leading blanks. -/
def dropBlank (t : Text) : Text :=
  t.dropWhile isBlank

/-- The text without its trailing blanks. -/
def dropBlankEnd (t : Text) : Text :=
  (dropBlank t.reverse).reverse

/-- The text without blanks at either end. -/
def strip (t : Text) : Text :=
  dropBlankEnd (dropBlank t)

/-- Holds of the empty text and of texts of blanks only. -/
def isAllBlank (t : Text) : Bool :=
  t.all isBlank

/-- The text with every blank removed, wherever it stands. -/
def compact (t : Text) : Text :=
  t.filter fun c => !isBlank c

/-! ### Words

A word is a maximal run of characters that are not blank. -/

/-- The first word of a text that starts with one; empty if it starts with a blank. -/
def firstWord (t : Text) : Text :=
  t.takeWhile fun c => !isBlank c

/-- What follows the first word, the separating blanks included. -/
def afterWord (t : Text) : Text :=
  t.dropWhile fun c => !isBlank c

/-- The blanks at the start of a text. -/
def leadingBlank (t : Text) : Text :=
  t.takeWhile isBlank

/-- The words of a text in order. `word` collects the word being read, last letter first. -/
def wordsFrom (word : Text) : Text → List Text
  | [] => if word.isEmpty then [] else [word.reverse]
  | c :: rest =>
    if isBlank c then
      if word.isEmpty then wordsFrom [] rest else word.reverse :: wordsFrom [] rest
    else wordsFrom (c :: word) rest

/-- The words of a text in order. -/
def words (t : Text) : List Text :=
  wordsFrom [] t

/-! ### Characters -/

/-- The text of characters in order. -/
def ofChars (cs : List Char) : Text :=
  cs.map .char

/-- The characters of a text; `none` if it has a surrogate that stands alone. -/
def chars? : Text → Option (List Char)
  | [] => some []
  | .char c :: rest => (chars? rest).map (c :: ·)
  | .lone _ :: _ => none

/-- Whether no surrogate stands alone in a text. -/
def isEncodable (t : Text) : Bool :=
  t.all CodePoint.isChar

/-! ### Numbers as text -/

/-- The decimal digits of a number, without leading zeros. -/
def ofNat (n : Nat) : Text :=
  ofChars (Nat.toDigits 10 n)

/-- The decimal digits of an integer, after a minus sign if it is negative. -/
def ofInt : Int → Text
  | .ofNat n => ofNat n
  | .negSucc n => '-' :: ofNat (n + 1)

/-- The decimal digits of a number, with zeros in front up to the given width. -/
def padded (width n : Nat) : Text :=
  List.replicate (width - (ofNat n).length) (.char '0') ++ ofNat n

/-! ### Joining and cutting -/

/-- The texts in order with a separator between neighbours. -/
def join (separator : Text) (parts : List Text) : Text :=
  List.intercalate separator parts

/-- The text before and after the first occurrence of a character, if there is one. -/
def cutAt (sep : CodePoint) : Text → Option (Text × Text)
  | [] => none
  | c :: rest =>
    if c = sep then some ([], rest)
    else (cutAt sep rest).map fun p => (c :: p.1, p.2)

/-- The pieces of a text between occurrences of a character; there is always at least one. -/
def pieces (sep : CodePoint) : Text → List Text
  | [] => [[]]
  | c :: rest =>
    if c = sep then [] :: pieces sep rest
    else
      match pieces sep rest with
      | [] => [[c]]
      | p :: ps => (c :: p) :: ps

/-- What follows a given beginning, if the text starts with it. -/
def after? : Text → Text → Option Text
  | [], t => some t
  | _ :: _, [] => none
  | p :: ps, c :: cs => if p = c then after? ps cs else none

end Text

end TrackerQuery

/-- The text of a string. -/
def String.toText (s : String) : TrackerQuery.Text :=
  TrackerQuery.Text.ofChars s.toList
