/-!
# TrackerQuery.Text.CodePoint

**Code points**: the characters, and the surrogates.

A surrogate is half of a pair that stands for one character. Texts come from outside and
may hold a surrogate that has no other half: environment variables that are not UTF-8 and
escapes in documents bring them in. Such a text is handled like any other, but has no
bytes in UTF-8.
-/

namespace TrackerQuery

/-- A code point: a character, or a surrogate that stands alone. -/
inductive CodePoint where
  /-- A character. -/
  | char (c : Char)
  /-- A surrogate, by its place among the surrogates. -/
  | lone (half : Fin 0x800)
  deriving DecidableEq, Repr

namespace CodePoint

instance : Inhabited CodePoint := ⟨char default⟩

instance : Coe Char CodePoint := ⟨char⟩

/-- The number of a code point. -/
def toNat : CodePoint → Nat
  | char c => c.toNat
  | lone half => 0xD800 + half

/-- The code point of a number. -/
def ofNat (n : Nat) : CodePoint :=
  if h : 0xD800 ≤ n ∧ n < 0xE000 then lone ⟨n - 0xD800, by omega⟩ else char (Char.ofNat n)

instance : LT CodePoint := ⟨fun c d => c.toNat < d.toNat⟩

instance : LE CodePoint := ⟨fun c d => c.toNat ≤ d.toNat⟩

instance (c d : CodePoint) : Decidable (c < d) :=
  inferInstanceAs (Decidable (c.toNat < d.toNat))

instance (c d : CodePoint) : Decidable (c ≤ d) :=
  inferInstanceAs (Decidable (c.toNat ≤ d.toNat))

/-- Whether a code point is a character. -/
def isChar : CodePoint → Bool
  | char _ => true
  | lone _ => false

/-! ### ASCII -/

/-- Whether a code point is an ASCII decimal digit. -/
def isDigit (c : CodePoint) : Bool :=
  48 ≤ c.toNat && c.toNat ≤ 57

/-- Whether a code point is an ASCII capital. -/
def isUpper (c : CodePoint) : Bool :=
  65 ≤ c.toNat && c.toNat ≤ 90

/-- Whether a code point is an ASCII small letter. -/
def isLower (c : CodePoint) : Bool :=
  97 ≤ c.toNat && c.toNat ≤ 122

/-- Whether a code point is an ASCII letter. -/
def isAlpha (c : CodePoint) : Bool :=
  c.isUpper || c.isLower

/-- Whether a code point is an ASCII letter or digit. -/
def isAlphanum (c : CodePoint) : Bool :=
  c.isAlpha || c.isDigit

/-- The small letter of an ASCII capital; every other code point is its own. -/
def toLower (c : CodePoint) : CodePoint :=
  if c.isUpper then ofNat (c.toNat + 32) else c

/-- The capital of an ASCII small letter; every other code point is its own. -/
def toUpper (c : CodePoint) : CodePoint :=
  if c.isLower then ofNat (c.toNat - 32) else c

end CodePoint

end TrackerQuery
