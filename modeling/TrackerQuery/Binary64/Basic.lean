import TrackerQuery.Text.Keyword
import TrackerQuery.Text.Numeral

/-!
# TrackerQuery.Binary64.Basic

**Binary floating point numbers** of 64 bits, as exact values.

A finite number is a significand times a power of two, so every operation here
is arithmetic on natural numbers followed by one rounding (`ofRatio`), to nearest
with ties to the even significand. Nothing depends on machine arithmetic, so each
result can be computed inside a proof.

Design points:

* `ofRatio` yields the canonical form: the significand is below `2 ^ 53`, and it
  is at least `2 ^ 52` unless the exponent is the least one, `-1074`. Equal
  values are then equal terms, the sign of zero apart.
* A decimal numeral is the ratio of its digits and a power of ten. Powers far
  outside the range are decided by counting digits, without being computed.
-/

namespace TrackerQuery

/-- A 64-bit binary floating point number. -/
inductive Binary64 where
  /-- Not a number. -/
  | nan
  /-- Beyond every finite number of its sign. -/
  | infinite (negative : Bool)
  /-- The number `significand * 2 ^ exponent`, negated if `negative`. -/
  | finite (negative : Bool) (significand : Nat) (exponent : Int)
  deriving DecidableEq, Repr, Inhabited

namespace Binary64

/-! ### Rounding -/

/-- The least exponent of a finite number. -/
def minExponent : Int := -1074

/-- The greatest exponent of a finite number. -/
def maxExponent : Int := 971

/-- The quotient rounded to the nearest whole number, a half going to the even neighbour. -/
def roundQuotient (num den : Nat) : Nat :=
  let q := num / den
  let twice := 2 * (num % den)
  if twice < den then q else if den < twice then q + 1 else q + q % 2

/-- The ratio divided by `2 ^ e`, as numerator and denominator. -/
def scaled (num den : Nat) (e : Int) : Nat × Nat :=
  if 0 ≤ e then (num, den * Nat.pow 2 e.toNat) else (num * Nat.pow 2 (-e).toNat, den)

/-- The number nearest to a positive ratio. -/
def ofRatio (negative : Bool) (num den : Nat) : Binary64 :=
  if num = 0 || den = 0 then finite negative 0 minExponent
  else
    let guess := max ((num.log2 : Int) - (den.log2 : Int) - 53) minExponent
    let (n, d) := scaled num den guess
    let e := if Nat.pow 2 53 ≤ n / d then guess + 1 else guess
    let (n, d) := scaled num den e
    let m := roundQuotient n d
    let (m, e) := if m = Nat.pow 2 53 then (Nat.pow 2 52, e + 1) else (m, e)
    if maxExponent < e then infinite negative else finite negative m e

/-- The number nearest to `digits * 10 ^ exponent`. A value of more than 400 digits before the
point, or of more than 400 zeros after it, is out of range on either side. -/
def ofDecimal (negative : Bool) (digits : Nat) (exponent : Int) : Binary64 :=
  if digits = 0 then finite negative 0 minExponent
  else
    let magnitude := (digits.log2 : Int) * 3 / 10 + exponent
    if 400 < magnitude then infinite negative
    else if magnitude < -400 then finite negative 0 minExponent
    else if 0 ≤ exponent then ofRatio negative (digits * Nat.pow 10 exponent.toNat) 1
    else ofRatio negative digits (Nat.pow 10 (-exponent).toNat)

/-- The number nearest to an integer. -/
def ofInt (n : Int) : Binary64 :=
  ofRatio (n < 0) n.natAbs 1

/-! ### Views -/

/-- Zero of either sign. -/
def isZero : Binary64 → Bool
  | finite _ 0 _ => true
  | _ => false

/-- The magnitude of a finite number as a ratio. -/
def ratio (significand : Nat) (exponent : Int) : Nat × Nat :=
  if 0 ≤ exponent then (significand * Nat.pow 2 exponent.toNat, 1)
  else (significand, Nat.pow 2 (-exponent).toNat)

/-- The integer that a number is, if it is one. -/
def toInt? : Binary64 → Option Int
  | finite negative m e =>
    let (num, den) := ratio m e
    if num % den = 0 then some (Text.signed negative (num / den)) else none
  | _ => none

/-! ### Arithmetic

The reading of sexagesimal numerals needs a sum and a product. -/

/-- The same number with the other sign. -/
def negate : Binary64 → Binary64
  | nan => nan
  | infinite s => infinite !s
  | finite s m e => finite (!s) m e

/-- The sum of two numbers of which neither is negative. -/
def addMagnitudes : Binary64 → Binary64 → Binary64
  | finite _ m e, finite _ m' e' =>
    let (n, d) := ratio m e
    let (n', d') := ratio m' e'
    ofRatio false (n * d' + n' * d) (d * d')
  | nan, _ => nan
  | _, nan => nan
  | _, _ => infinite false

/-- The product of two numbers of which neither is negative, the second finite and not zero. -/
def mulMagnitudes : Binary64 → Binary64 → Binary64
  | finite _ m e, finite _ m' e' =>
    let (n, d) := ratio m e
    let (n', d') := ratio m' e'
    ofRatio false (n * n') (d * d')
  | nan, _ => nan
  | _, nan => nan
  | _, _ => infinite false

/-! ### Reading decimal numerals -/

/-- A decimal numeral cut into its digits before the point, those after it, and its exponent. -/
structure Numeral where
  /-- Digits before the point. -/
  whole : Text
  /-- Digits after the point. -/
  fraction : Text
  /-- Power of ten that the digits are multiplied by. -/
  exponent : Int

/-- The number nearest to a numeral. -/
def ofNumeral (negative : Bool) (numeral : Numeral) : Binary64 :=
  ofDecimal negative (Text.natOfDigits (numeral.whole ++ numeral.fraction))
    (numeral.exponent - numeral.fraction.length)

/-- The exponent part of a numeral and what follows it. Without a complete exponent part the
exponent is zero and nothing is consumed. -/
def cutExponent (t : Text) : Int × Text :=
  match t with
  | c :: rest =>
    if c == 'e' || c == 'E' then
      let (negative, body) := Text.cutSign rest
      let digits := body.takeWhile CodePoint.isDigit
      if digits.isEmpty then (0, t)
      else (Text.signed negative (Text.natOfDigits digits), body.dropWhile CodePoint.isDigit)
    else (0, t)
  | [] => (0, t)

/-- A numeral at the start of a text, without a sign, and what follows it: digits, then
optionally a point and digits, then optionally an exponent. -/
def cutNumeral (t : Text) : Numeral × Text :=
  let whole := t.takeWhile CodePoint.isDigit
  match t.dropWhile CodePoint.isDigit with
  | '.' :: rest =>
    let (exponent, tail) := cutExponent (rest.dropWhile CodePoint.isDigit)
    (⟨whole, rest.takeWhile CodePoint.isDigit, exponent⟩, tail)
  | rest =>
    let (exponent, tail) := cutExponent rest
    (⟨whole, [], exponent⟩, tail)

/-- The number that a whole text spells: a sign, then a numeral or one of the words for the
numbers that have no digits. -/
def read? (t : Text) : Option Binary64 :=
  let (negative, body) := Text.cutSign (Text.strip t)
  if Text.isKeyword "inf".toText body || Text.isKeyword "infinity".toText body then
    some (infinite negative)
  else if Text.isKeyword "nan".toText body then some nan
  else
    let (numeral, rest) := cutNumeral body
    if numeral.whole.isEmpty && numeral.fraction.isEmpty then none
    else if rest.isEmpty then some (ofNumeral negative numeral)
    else none

end Binary64

end TrackerQuery
