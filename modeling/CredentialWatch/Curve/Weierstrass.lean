import CredentialWatch.Asn1.ObjectIdentifier
import CredentialWatch.Curve.Modular

/-!
# Curves in Weierstrass form

The points of a curve are the pairs with `y ^ 2 = x ^ 3 + a * x + b` over a prime field, and the
point at infinity. A point is written with both coordinates, or with the first one and the parity
of the second. Only a point on the curve is read.
-/
namespace CredentialWatch.Curve

/-- A curve with the point that keys are multiples of. -/
structure Weierstrass where
  identifier : Asn1.ObjectIdentifier
  prime : Nat
  a : Nat
  b : Nat
  baseX : Nat
  baseY : Nat
  /-- How many multiples the base point has. -/
  order : Nat
  deriving DecidableEq, Repr

inductive Point where
  | infinity
  | affine (x y : Nat)
  deriving DecidableEq, Repr

/-- How the coordinates of a point are written. -/
inductive PointForm where
  | compressed
  | uncompressed
  | hybrid
  deriving DecidableEq, Repr

namespace Weierstrass

def p256 : Weierstrass where
  identifier := ⟨[1, 2, 840, 10045, 3, 1, 7]⟩
  prime := 0xffffffff00000001000000000000000000000000ffffffffffffffffffffffff
  a := 0xffffffff00000001000000000000000000000000fffffffffffffffffffffffc
  b := 0x5ac635d8aa3a93e7b3ebbd55769886bc651d06b0cc53b0f63bce3c3e27d2604b
  baseX := 0x6b17d1f2e12c4247f8bce6e563a440f277037d812deb33a0f4a13945d898c296
  baseY := 0x4fe342e2fe1a7f9b8ee7eb4a7c0f9e162bce33576b315ececbb6406837bf51f5
  order := 0xffffffff00000000ffffffffffffffffbce6faada7179e84f3b9cac2fc632551

def p384 : Weierstrass where
  identifier := ⟨[1, 3, 132, 0, 34]⟩
  prime := 0xfffffffffffffffffffffffffffffffffffffffffffffffffffffffffffffffeffffffff0000000000000000ffffffff
  a := 0xfffffffffffffffffffffffffffffffffffffffffffffffffffffffffffffffeffffffff0000000000000000fffffffc
  b := 0xb3312fa7e23ee7e4988e056be3f82d19181d9c6efe8141120314088f5013875ac656398d8a2ed19d2a85c8edd3ec2aef
  baseX := 0xaa87ca22be8b05378eb1c71ef320ad746e1d3b628ba79b9859f741e082542a385502f25dbf55296c3a545e3872760ab7
  baseY := 0x3617de4a96262c6f5d9e98bf9292dc29f8f41dbd289a147ce9da3113b5f0b8c00a60b1ce1d7e819d7a431d7c90ea0e5f
  order := 0xffffffffffffffffffffffffffffffffffffffffffffffffc7634d81f4372ddf581a0db248b0a77aecec196accc52973

def p521 : Weierstrass where
  identifier := ⟨[1, 3, 132, 0, 35]⟩
  prime := 0x1ffffffffffffffffffffffffffffffffffffffffffffffffffffffffffffffffffffffffffffffffffffffffffffffffffffffffffffffffffffffffffffffffff
  a := 0x1fffffffffffffffffffffffffffffffffffffffffffffffffffffffffffffffffffffffffffffffffffffffffffffffffffffffffffffffffffffffffffffffffc
  b := 0x0051953eb9618e1c9a1f929a21a0b68540eea2da725b99b315f3b8b489918ef109e156193951ec7e937b1652c0bd3bb1bf073573df883d2c34f1ef451fd46b503f00
  baseX := 0x00c6858e06b70404e9cd9e3ecb662395b4429c648139053fb521f828af606b4d3dbaa14b5e77efe75928fe1dc127a2ffa8de3348b3c1856a429bf97e7e31c2e5bd66
  baseY := 0x011839296a789a3bc0045c8a5fb42c7d1bd998f54449579b446817afbd17273e662c97ee72995ef42640c550b9013fad0761353c7086a272c24088be94769fd16650
  order := 0x01fffffffffffffffffffffffffffffffffffffffffffffffffffffffffffffffffa51868783bf2f966b7fcc0148f709a5d03bb5c9b8899c47aebb6fb71e91386409

def secp256k1 : Weierstrass where
  identifier := ⟨[1, 3, 132, 0, 10]⟩
  prime := 0xfffffffffffffffffffffffffffffffffffffffffffffffffffffffefffffc2f
  a := 0
  b := 7
  baseX := 0x79be667ef9dcbbac55a06295ce870b07029bfcdb2dce28d959f2815b16f81798
  baseY := 0x483ada7726a3c4655da4fbfc0e1108a8fd17b448a68554199c47d08ffb10d4b8
  order := 0xfffffffffffffffffffffffffffffffebaaedce6af48a03bbfd25e8cd0364141

/-- The curves that keys may be on. -/
def known : List Weierstrass := [p256, p384, p521, secp256k1]

/-- The known curve with an identifier. -/
def ofIdentifier? (identifier : Asn1.ObjectIdentifier) : Option Weierstrass :=
  known.find? fun curve => curve.identifier = identifier

/-- The right-hand side of the curve's equation. -/
def cubic (curve : Weierstrass) (x : Nat) : Nat :=
  (x * x * x + curve.a * x + curve.b) % curve.prime

/-- Whether a pair of coordinates is a point of the curve. -/
def contains (curve : Weierstrass) (x y : Nat) : Bool :=
  x < curve.prime ∧ y < curve.prime ∧ y * y % curve.prime = curve.cubic x

/-- The second coordinate with a parity, where there is one. The prime is one less than a multiple
of four, which makes a power the square root. -/
def ordinate? (curve : Weierstrass) (x parity : Nat) : Option Nat :=
  let root := powMod (curve.cubic x) ((curve.prime + 1) / 4) curve.prime
  let y := if root % 2 = parity then root else curve.prime - root
  if curve.contains x y ∧ y % 2 = parity then some y else none

/-- The sum of two points. -/
def add (curve : Weierstrass) : Point → Point → Point
  | .infinity, point => point
  | point, .infinity => point
  | .affine x₁ y₁, .affine x₂ y₂ =>
    let prime := curve.prime
    if x₁ = x₂ ∧ (y₁ + y₂) % prime = 0 then .infinity
    else
      let slope :=
        if x₁ = x₂ then (3 * x₁ * x₁ + curve.a) * inverseMod (2 * y₁) prime % prime
        else subMod y₂ y₁ prime * inverseMod (subMod x₂ x₁ prime) prime % prime
      let x := subMod (slope * slope % prime) ((x₁ + x₂) % prime) prime
      .affine x (subMod (slope * subMod x₁ x prime % prime) y₁ prime)

/-- A multiple of the base point. -/
def multiple (curve : Weierstrass) (factor : Nat) : Point :=
  (List.range (factor.log2 + 1)).reverse.foldl
    (fun sum bit =>
      let doubled := curve.add sum sum
      if factor.testBit bit then curve.add doubled (.affine curve.baseX curve.baseY) else doubled)
    .infinity

/-- The bytes that a coordinate takes. -/
def coordinateLength (curve : Weierstrass) : Nat := (curve.prime.log2 + 8) / 8

/-- The bytes that a private key takes. -/
def scalarLength (curve : Weierstrass) : Nat := (curve.order.log2 + 8) / 8

/-- The point that bytes spell, and the form it is written in. -/
def decodePoint? (curve : Weierstrass) : Bytes → Option (Point × PointForm)
  | [] => none
  | first :: rest =>
    let parity := first.toNat % 2
    let x := Bytes.value (rest.take curve.coordinateLength)
    let y := Bytes.value (rest.drop curve.coordinateLength)
    let both := rest.length = 2 * curve.coordinateLength ∧ curve.contains x y
    if first = 0x04 then
      if both then some (.affine x y, .uncompressed) else none
    else if first = 0x06 ∨ first = 0x07 then
      if both ∧ y % 2 = parity then some (.affine x y, .hybrid) else none
    else if first = 0x02 ∨ first = 0x03 then
      if rest.length = curve.coordinateLength ∧ x < curve.prime then
        (curve.ordinate? x parity).map fun y => (.affine x y, .compressed)
      else none
    else none

/-- The written form of a point. -/
def encodePoint (curve : Weierstrass) (form : PointForm) : Point → Bytes
  | .infinity => [0x00]
  | .affine x y =>
    let first := Bytes.bigEndian curve.coordinateLength x
    let second := Bytes.bigEndian curve.coordinateLength y
    match form with
    | .compressed => UInt8.ofNat (2 + y % 2) :: first
    | .uncompressed => 0x04 :: first ++ second
    | .hybrid => UInt8.ofNat (6 + y % 2) :: first ++ second

end Weierstrass

end CredentialWatch.Curve
