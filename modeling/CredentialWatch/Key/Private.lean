import CredentialWatch.Curve.Edwards
import CredentialWatch.Key.Public

/-!
# Private keys

A private key comes as an algorithm and the key's own encoding. It is taken apart and written
again, so that what is optional in the encoding is settled: attributes are dropped, the curve is
named by the algorithm, numbers are as short as they can be. Every private key has a public half.
-/
namespace CredentialWatch

/-- A private key as it is delivered: still encoded, under the algorithm that it is for. -/
structure PrivateKeyInfo where
  algorithm : Asn1.AlgorithmIdentifier
  encoding : Bytes
  deriving DecidableEq, Repr

/-- An RSA key: its version, the numbers in the order of their fields, and further primes as they
were read. -/
structure RsaKey where
  version : Int
  numbers : List Nat
  furtherPrimes : Bytes
  deriving DecidableEq, Repr

/-- A key on a curve, and its public point with its form if the encoding has one. -/
structure EllipticKey where
  version : Int
  curve : Curve.Weierstrass
  scalar : Nat
  public? : Option (Curve.Point × Curve.PointForm)
  deriving DecidableEq, Repr

inductive PrivateKey where
  | rsa (key : RsaKey)
  | elliptic (key : EllipticKey)
  | edwards (seed : Bytes)
  deriving DecidableEq, Repr

namespace PrivateKeyInfo

open Asn1 (Fields Reader)

/-- A name and values of any type. -/
def namedValues : Reader (Asn1.ObjectIdentifier × List Asn1.Value) :=
  .sequence do
    let name ← Fields.required .objectIdentifier
    let values ← Fields.required (.list .set .value)
    return (name, values)

/-- The encoding of a private key with its algorithm. The version is zero, or one if a public key
may follow. -/
def reader : Reader PrivateKeyInfo := do
  let (version, info, public?) ← Reader.sequence do
    let version ← Fields.required .integer
    let algorithm ← Fields.required .algorithmIdentifier
    let encoding ← Fields.required .octetString
    let _ ← Fields.optional (.context 0) (.list (.context 0) namedValues)
    let public? ← Fields.last (.implicitBitString 1)
    return (version, PrivateKeyInfo.mk algorithm encoding, public?)
  if version = 0 ∧ public?.isNone ∨ version = 1 then return info else throw .detail

end PrivateKeyInfo

namespace RsaKey

open Asn1 (Fields Reader)

/-- How many numbers an RSA key has. -/
def numberCount : Nat := 8

def reader : Reader RsaKey :=
  .sequence do
    let version ← Fields.required .shortInteger
    let numbers ← (List.range numberCount).mapM fun _ => Fields.required .unsigned
    let primes? ← Fields.last do
      let before ← get
      let _ ← Reader.list .sequence .value
      return before.take (before.length - (← get).length)
    if version = 1 ∧ primes?.isNone then throw .detail
    return ⟨version, numbers, primes?.getD []⟩

def encode (key : RsaKey) : Bytes :=
  Asn1.encodeSequence
    (Asn1.encodeSigned key.version :: key.numbers.map Asn1.encodeUnsigned ++ [key.furtherPrimes])

def publicKey (key : RsaKey) : PublicKey :=
  .rsa (key.numbers.getD 0 0) (key.numbers.getD 1 0)

end RsaKey

namespace EllipticKey

open Asn1 (Fields Reader)

/-- A key on the curve that the algorithm names, unless the encoding names one itself. -/
def reader (named? : Option Curve.Weierstrass) : Reader EllipticKey :=
  .sequence do
    let version ← Fields.required .shortInteger
    let scalar ← Fields.required .octetString
    let own? ← Fields.optional (.context 0) (.explicit 0 .value)
    let bits? ← Fields.last (.explicit 1 .bitString)
    let some curve := if own?.isSome then Curve.Weierstrass.ofParameter? own? else named?
      | throw .detail
    match bits? with
    | none => return ⟨version, curve, Bytes.value scalar, none⟩
    | some bits =>
      match curve.decodePoint? bits.bytes with
      | some found => return ⟨version, curve, Bytes.value scalar, some found⟩
      | none => throw .detail

/-- The key's own encoding, unless its number is too large for its curve. -/
def encode? (key : EllipticKey) : Option Bytes :=
  let length := key.curve.scalarLength
  if Bytes.capacity length ≤ key.scalar then none
  else
    let point := match key.public? with
      | none => []
      | some (point, form) =>
        Asn1.encodeExplicit 1 (Asn1.encodeBitString ⟨0, key.curve.encodePoint form point⟩)
    some (Asn1.encodeSequence
      [Asn1.encodeSigned key.version, Asn1.encodeOctetString (Bytes.bigEndian length key.scalar),
        point])

def publicKey (key : EllipticKey) : PublicKey :=
  .elliptic key.curve <| match key.public? with
    | some (point, _) => point
    | none => key.curve.multiple key.scalar

end EllipticKey

namespace PrivateKey

/-- The algorithms that keys can be read for. -/
def algorithms : List Asn1.ObjectIdentifier :=
  [KeyAlgorithm.rsa, KeyAlgorithm.elliptic, KeyAlgorithm.edwards]

/-- The key that an encoding spells, if it is one of a known algorithm. -/
def ofInfo? (info : PrivateKeyInfo) : Option PrivateKey :=
  let algorithm := info.algorithm.algorithm
  if algorithm = KeyAlgorithm.rsa then .rsa <$> RsaKey.reader.of? info.encoding
  else if algorithm = KeyAlgorithm.elliptic then do
    let curve ← Curve.Weierstrass.ofParameter? info.algorithm.parameter?
    .elliptic <$> (EllipticKey.reader (some curve)).of? info.encoding
  else if algorithm = KeyAlgorithm.edwards then do
    let seed ← Asn1.Reader.octetString.of? info.encoding
    if info.algorithm.parameter?.isNone ∧ seed.length = Curve.Edwards.keyLength then
      some (.edwards seed)
    else none
  else none

def publicKey : PrivateKey → PublicKey
  | rsa key => key.publicKey
  | elliptic key => key.publicKey
  | edwards seed => .edwards (Curve.Edwards.publicKey seed)

/-- A key's own encoding together with its algorithm. -/
def wrap (algorithm : Bytes) (encoding : Bytes) : Bytes :=
  Asn1.encodeSequence [Asn1.encodeUnsigned 0, algorithm, Asn1.encodeOctetString encoding]

/-- The encoding of a key with its algorithm. -/
def encode? : PrivateKey → Option Bytes
  | rsa key => some (wrap (Asn1.encodeAlgorithm KeyAlgorithm.rsa Asn1.encodeNull) key.encode)
  | elliptic key => do
    let parameter := Asn1.encodeObjectIdentifier key.curve.identifier
    return wrap (Asn1.encodeAlgorithm KeyAlgorithm.elliptic parameter) (← key.encode?)
  | edwards seed =>
    some (wrap (Asn1.encodeAlgorithm KeyAlgorithm.edwards []) (Asn1.encodeOctetString seed))

end PrivateKey

end CredentialWatch
