import CredentialWatch.Asn1.Value

/-!
# Writing tagged values

Values are written in the one canonical way: lengths as short as they can be, integers without
needless bytes.
-/
namespace CredentialWatch.Asn1

/-- The bytes that a number takes at least, most significant first; none for zero. -/
def minimalBytes (number : Nat) : Bytes :=
  (Bytes.bigEndian (number.log2 / 8 + 1) number).dropWhile (· = 0)

/-- The written form of a length. -/
def encodeLength (length : Nat) : Bytes :=
  if length < 128 then [UInt8.ofNat length]
  else
    let digits := minimalBytes length
    UInt8.ofNat (128 + digits.length) :: digits

/-- Content behind a first byte, which tells the tag, and its length. -/
def encode (first : UInt8) (content : Bytes) : Bytes :=
  first :: encodeLength content.length ++ content

def encodeSequence (values : List Bytes) : Bytes := encode 0x30 values.flatten

/-- A value under a further tag of its own. -/
def encodeExplicit (number : Nat) (value : Bytes) : Bytes :=
  encode (UInt8.ofNat (0xa0 + number)) value

/-- An unsigned number, with a zero byte in front if its first bit is set. -/
def encodeUnsigned (number : Nat) : Bytes :=
  let digits := minimalBytes number
  encode 0x02 (if (digits.headD 0x80) < 0x80 then digits else 0x00 :: digits)

/-- A signed number in the fewest bytes of two's complement. -/
def encodeSigned (number : Int) : Bytes :=
  if 0 ≤ number then encodeUnsigned number.toNat
  else
    let width := (-number - 1).toNat.log2 / 8 + 1
    let digits := Bytes.bigEndian width (Bytes.capacity width + number).toNat
    encode 0x02 (if 0x80 ≤ digits.headD 0 then digits else 0xff :: digits)

def encodeOctetString (bytes : Bytes) : Bytes := encode 0x04 bytes

def encodeBitString (bits : BitString) : Bytes :=
  encode 0x03 (UInt8.ofNat bits.unused :: bits.bytes)

def encodeObjectIdentifier (identifier : ObjectIdentifier) : Bytes :=
  encode 0x06 identifier.content

def encodeNull : Bytes := encode 0x05 []

/-- An algorithm with a parameter that is written already. -/
def encodeAlgorithm (algorithm : ObjectIdentifier) (parameter : Bytes) : Bytes :=
  encodeSequence [encodeObjectIdentifier algorithm, parameter]

end CredentialWatch.Asn1
