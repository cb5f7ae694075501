import CredentialWatch.Bytes

/-!
# UTF-16, most significant byte first

A character beyond U+FFFF takes two units, the high surrogate before the low one. Reading refuses a
surrogate that stands alone and an odd number of bytes.
-/
namespace CredentialWatch.Text.Utf16

/-- The two units of a character beyond U+FFFF, or the one unit of any other. -/
def units (char : Char) : List Nat :=
  let point := char.toNat
  if point < 0x10000 then [point]
  else [0xD800 + (point - 0x10000) / 0x400, 0xDC00 + (point - 0x10000) % 0x400]

/-- The UTF-16 form of a text, two bytes a unit. -/
def encode (text : String) : Bytes :=
  (text.toList.flatMap units).flatMap (Bytes.bigEndian 2)

/-- The units that a byte string spells. -/
def unitsOf? : Bytes → Option (List Nat)
  | [] => some []
  | [_] => none
  | high :: low :: rest => (Bytes.value [high, low] :: ·) <$> unitsOf? rest

/-- The characters that units spell. -/
def chars? : List Nat → Option (List Char)
  | [] => some []
  | unit :: rest =>
    if unit < 0xD800 ∨ 0xE000 ≤ unit then (Char.ofNat unit :: ·) <$> chars? rest
    else if unit < 0xDC00 then
      match rest with
      | low :: rest =>
        if 0xDC00 ≤ low ∧ low < 0xE000 then
          (Char.ofNat (0x10000 + (unit - 0xD800) * 0x400 + (low - 0xDC00)) :: ·) <$> chars? rest
        else none
      | [] => none
    else none

/-- The text that a byte string spells, if any. -/
def decode? (bytes : Bytes) : Option String := do
  return String.ofList (← chars? (← unitsOf? bytes))

end CredentialWatch.Text.Utf16
