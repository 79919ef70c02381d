import TrackerQuery.Binary64.Basic

/-!
# TrackerQuery.Binary64.Shortest

The **shortest decimal** that reads back as a number, and the layout of its
digits.

For one digit, two digits, and so on up to seventeen, the two neighbours of the
value on that decimal grid are tried; the first grid on which one of them reads
back wins, and of two hits the nearer, a tie going to the even one. Seventeen
digits always suffice. Digits are laid out positionally from `10 ^ -4` up to
`10 ^ 16`, with a point always written, and with an exponent of at least two
digits elsewhere.
-/

namespace TrackerQuery.Binary64

/-! ### Digits -/

/-- The number of decimal digits of a positive number. -/
def digitCount (n : Nat) : Nat :=
  (Text.ofNat n).length

/-- The power of ten at or below a positive ratio: the position of its leading digit. The search
walks down while the ratio is below the power. -/
def leadingPosition (num den : Nat) : Nat → Int → Int
  | 0, p => p
  | fuel + 1, p =>
    let reached := if 0 ≤ p then decide (den * Nat.pow 10 p.toNat ≤ num)
      else decide (den ≤ num * Nat.pow 10 (-p).toNat)
    if reached then p else leadingPosition num den fuel (p - 1)

/-- An upper bound on the leading position, from the lengths of the two numbers. -/
def positionBound (num den : Nat) : Int :=
  (digitCount num : Int) - (digitCount den : Int)

/-- The ratio divided by a power of ten. -/
def onGrid (num den : Nat) (p : Int) : Nat × Nat :=
  if 0 ≤ p then (num, den * Nat.pow 10 p.toNat) else (num * Nat.pow 10 (-p).toNat, den)

/-- The better neighbour of a ratio on the grid of multiples of `10 ^ p`, if one reads back. -/
def neighbour? (m : Nat) (e : Int) (num den : Nat) (p : Int) : Option Nat :=
  let (n, d) := onGrid num den p
  let low := n / d
  let high := low + 1
  let hit := fun k => ofDecimal false k p == finite false m e
  match hit low, hit high with
  | true, true =>
    let twice := 2 * (n % d)
    if twice < d then some low
    else if d < twice then some high
    else some (if low % 2 = 0 then low else high)
  | true, false => some low
  | false, true => some high
  | false, false => none

/-- The shortest decimal `digits * 10 ^ p` that reads back, trying grids from coarse to fine. -/
def shortestFrom (m : Nat) (e : Int) (num den : Nat) : Nat → Int → Nat × Int
  | 0, p => ((onGrid num den p).1 / (onGrid num den p).2, p)
  | fuel + 1, p =>
    match neighbour? m e num den p with
    | some k => (k, p)
    | none => shortestFrom m e num den fuel (p - 1)

/-- A decimal without trailing zeros of the same value. -/
def dropZeros : Nat → Nat × Int → Nat × Int
  | 0, x => x
  | fuel + 1, (k, p) =>
    if k ≠ 0 && k % 10 = 0 then dropZeros fuel (k / 10, p + 1) else (k, p)

/-- The digits of a finite number that is not zero, and the position of the first of them. -/
def shortest (m : Nat) (e : Int) : Text × Int :=
  let (num, den) := ratio m e
  let p := leadingPosition num den 800 (positionBound num den)
  let (k, q) := dropZeros 20 (shortestFrom m e num den 17 p)
  let digits := Text.ofNat k
  (digits, q + digits.length - 1)

/-! ### Layout -/

/-- Digits with the point where the position of the first digit puts it. -/
def positional (digits : Text) (position : Int) : Text :=
  if position < 0 then
    "0.".toText ++ List.replicate (-position - 1).toNat (.char '0') ++ digits
  else
    let before := position.toNat + 1
    if digits.length ≤ before then
      digits ++ List.replicate (before - digits.length) (.char '0') ++ ".0".toText
    else digits.take before ++ .char '.' :: digits.drop before

/-- Digits with one before the point, and an exponent. -/
def scientific (digits : Text) (position : Int) : Text :=
  let sign : CodePoint := if position < 0 then '-' else '+'
  let point : Text := if digits.length ≤ 1 then [] else '.' :: digits.drop 1
  digits.take 1 ++ point ++ .char 'e' :: sign :: Text.padded 2 position.natAbs

/-- The text of a number: the fewest digits that read back. -/
def toText : Binary64 → Text
  | nan => "nan".toText
  | infinite negative => if negative then "-inf".toText else "inf".toText
  | finite negative m e =>
    let body :=
      if m = 0 then "0.0".toText
      else
        let (digits, position) := shortest m e
        if -4 ≤ position && position < 16 then positional digits position
        else scientific digits position
    if negative then '-' :: body else body

end TrackerQuery.Binary64
