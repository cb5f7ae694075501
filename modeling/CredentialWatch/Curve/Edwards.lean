import CredentialWatch.Curve.Modular
import CredentialWatch.Digest.Sha2

/-!
# The twisted Edwards curve of Ed25519

Points are kept with a common denominator, and with the product of their coordinates, so that they
add without a division. A private key is a seed; its digest is the multiple of the base point that
is the public key, written as the second coordinate with the parity of the first.
-/
namespace CredentialWatch.Curve.Edwards

def prime : Nat := Nat.pow 2 255 - 19

/-- The coefficient of the curve, `-121665 / 121666`. -/
def coefficient : Nat := (prime - 121665) * inverseMod 121666 prime % prime

/-- A point: the coordinates are `x / z` and `y / z`, and `t` is `x * y / z`. -/
structure Point where
  x : Nat
  y : Nat
  z : Nat
  t : Nat

def neutral : Point := ⟨0, 1, 1, 0⟩

/-- The base point, whose second coordinate is `4 / 5`. -/
def base : Point :=
  let x := 0x216936d3cd6e53fec0a4e231fdd6dc5c692cc7609525a7b2c9562d608f25d51a
  let y := 4 * inverseMod 5 prime % prime
  ⟨x, y, 1, x * y % prime⟩

def add (left right : Point) : Point :=
  let a := subMod left.y left.x prime * subMod right.y right.x prime % prime
  let b := (left.y + left.x) * (right.y + right.x) % prime
  let c := 2 * left.t * coefficient * right.t % prime
  let d := 2 * left.z * right.z % prime
  let e := subMod b a prime
  let f := subMod d c prime
  let g := (d + c) % prime
  let h := (b + a) % prime
  ⟨e * f % prime, g * h % prime, f * g % prime, e * h % prime⟩

/-- A multiple of the base point. -/
def multiple (factor : Nat) : Point :=
  (List.range (factor.log2 + 1)).reverse.foldl
    (fun sum bit =>
      let doubled := add sum sum
      if factor.testBit bit then add doubled base else doubled)
    neutral

/-- The written form of a point. -/
def encodePoint (point : Point) : Bytes :=
  let scale := inverseMod point.z prime
  let x := point.x * scale % prime
  let y := point.y * scale % prime
  Bytes.littleEndian 32 (y + x % 2 * Nat.pow 2 255)

def keyLength : Nat := 32

/-- The factor that a seed stands for: half its digest, a multiple of eight between `2 ^ 254` and
`2 ^ 255`. -/
def factor (seed : Bytes) : Nat :=
  let number := Bytes.value ((Digest.sha512 seed).take 32).reverse
  let top := Nat.pow 2 254
  number % top / 8 * 8 + top

/-- The public key of a seed. -/
def publicKey (seed : Bytes) : Bytes :=
  encodePoint (multiple (factor seed))

end CredentialWatch.Curve.Edwards
