import TrackerQuery.Fault.Basic
import TrackerQuery.Text.Numeral

/-!
# TrackerQuery.FormEncoding

**Form encoding** of parameters into a query string, and its decoding.

Names and values are encoded byte by byte: letters, digits and the four marks
`_ . - ~` stand for themselves, a space becomes a plus sign, and every other byte
becomes a percent sign and two hexadecimal digits. The characters that structure
the string, `&` and `=`, are never left in a name or a value, so `decode` finds
exactly the pairs that `encode` was given. A text with a surrogate that stands alone has
no bytes, so it cannot be encoded.
-/

namespace TrackerQuery.FormEncoding

/-- A name with its value. -/
abbrev Param := Text × Text

/-! ### Encoding -/

/-- Whether a code point stands for itself. -/
def isUnreserved (c : CodePoint) : Bool :=
  c.isAlphanum || c == '_' || c == '.' || c == '-' || c == '~'

/-- The hexadecimal digit of a number below 16, in capitals. -/
def hexDigit (n : Nat) : CodePoint :=
  if n < 10 then .ofNat (48 + n) else .ofNat (55 + n)

/-- One byte, encoded. -/
def encodeByte (b : UInt8) : Text :=
  let c := CodePoint.ofNat b.toNat
  if isUnreserved c then [c]
  else if c = ' ' then ['+']
  else ['%', hexDigit (b.toNat / 16), hexDigit (b.toNat % 16)]

/-- A name or a value, encoded. -/
def encodeText (t : Text) : Except Fault Text :=
  match Text.toUtf8? t with
  | some bytes => .ok (bytes.flatMap encodeByte)
  | none => .error (.unencodable t)

/-- A name and its value with an equals sign between them, encoded. -/
def encodeParam (p : Param) : Except Fault Text := do
  let name ← encodeText p.1
  let value ← encodeText p.2
  return name ++ .char '=' :: value

/-- Names and their values, each pair encoded; the first that cannot be decides. -/
def encodeAll : List Param → Except Fault (List Text)
  | [] => return []
  | p :: rest => do
    let t ← encodeParam p
    let ts ← encodeAll rest
    return t :: ts

/-- Parameters in order with ampersands between neighbours, encoded. -/
def encode (params : List Param) : Except Fault Text := do
  let ts ← encodeAll params
  return Text.join ['&'] ts

/-! ### Decoding -/

/-- The bytes that encoded text stands for. A percent sign needs two hexadecimal digits, and a
surrogate stands for none. -/
def decodeBytes : Text → Option (List UInt8)
  | [] => some []
  | '%' :: a :: b :: rest =>
    match Text.hexDigit? a, Text.hexDigit? b, decodeBytes rest with
    | some h, some l, some bytes => some (UInt8.ofNat (16 * h + l) :: bytes)
    | _, _, _ => none
  | '+' :: rest => (decodeBytes rest).map (32 :: ·)
  | .char c :: rest =>
    if c = '%' then none else (decodeBytes rest).map (String.utf8EncodeChar c ++ ·)
  | .lone _ :: _ => none

/-- The text that encoded text stands for. -/
def decodeText (t : Text) : Option Text :=
  (decodeBytes t).bind Text.ofUtf8?

/-- The name and value of an encoded pair, cut at the first equals sign. -/
def decodeParam (t : Text) : Option Param :=
  match Text.cutAt '=' t with
  | none => none
  | some (name, value) =>
    match decodeText name, decodeText value with
    | some n, some v => some (n, v)
    | _, _ => none

/-- Encoded pairs, decoded in order. -/
def decodeAll : List Text → Option (List Param)
  | [] => some []
  | t :: rest =>
    match decodeParam t, decodeAll rest with
    | some p, some ps => some (p :: ps)
    | _, _ => none

/-- The parameters that a query string encodes. -/
def decode (t : Text) : Option (List Param) :=
  decodeAll (Text.pieces '&' t)

end TrackerQuery.FormEncoding
