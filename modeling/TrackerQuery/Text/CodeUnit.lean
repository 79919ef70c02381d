import TrackerQuery.Text.Basic

/-!
# TrackerQuery.Text.CodeUnit

Texts from the **codes that escapes name**.

An escape can name half of a character beyond the first plane. Two such halves in
a row, high before low, are one character; a half that has no other one beside it stands
alone.
-/

namespace TrackerQuery.Text

/-- Whether a code is the first half of a pair. -/
def isHighHalf (n : Nat) : Bool :=
  0xD800 ≤ n && n ≤ 0xDBFF

/-- Whether a code is the second half of a pair. -/
def isLowHalf (n : Nat) : Bool :=
  0xDC00 ≤ n && n ≤ 0xDFFF

/-- The text of codes in order. -/
def ofCodes : List Nat → Text
  | [] => []
  | [n] => [.ofNat n]
  | n :: m :: rest =>
    if isHighHalf n && isLowHalf m then
      .ofNat (0x10000 + (n - 0xD800) * 0x400 + (m - 0xDC00)) :: ofCodes rest
    else .ofNat n :: ofCodes (m :: rest)

/-- The codes of a text in order. -/
def codes (t : Text) : List Nat :=
  t.map CodePoint.toNat

end TrackerQuery.Text
