import CredentialWatch.Asn1.Encoding
import CredentialWatch.Curve.Weierstrass

/-!
# Public keys

The kinds of public keys that a certificate may hold, as far as they can be compared with the
public half of a private key. A key that cannot be read belongs to no private key.
-/
namespace CredentialWatch

inductive PublicKey where
  | rsa (modulus exponent : Nat)
  | elliptic (curve : Curve.Weierstrass) (point : Curve.Point)
  | edwards (bytes : Bytes)
  deriving DecidableEq, Repr

namespace KeyAlgorithm

open Asn1 (ObjectIdentifier)

def rsa : ObjectIdentifier := ⟨[1, 2, 840, 113549, 1, 1, 1]⟩

def elliptic : ObjectIdentifier := ⟨[1, 2, 840, 10045, 2, 1]⟩

def edwards : ObjectIdentifier := ⟨[1, 3, 101, 112]⟩

end KeyAlgorithm

/-- The curve that an algorithm's parameter names. -/
def Curve.Weierstrass.ofParameter? (parameter? : Option Asn1.Value) : Option Curve.Weierstrass := do
  let parameter ← parameter?
  if parameter.tag ≠ .objectIdentifier then none
  Curve.Weierstrass.ofIdentifier? (← Asn1.ObjectIdentifier.ofContent? parameter.content)

namespace PublicKey

/-- A modulus and an exponent. -/
def rsaReader : Asn1.Reader PublicKey :=
  .sequence do
    let modulus ← Asn1.Fields.required .unsigned
    let exponent ← Asn1.Fields.required .unsigned
    return .rsa modulus exponent

/-- The key that bits spell under an algorithm. -/
def ofBits? (algorithm : Asn1.AlgorithmIdentifier) (bits : Bytes) : Option PublicKey :=
  if algorithm.algorithm = KeyAlgorithm.rsa then rsaReader.of? bits
  else if algorithm.algorithm = KeyAlgorithm.elliptic then do
    let curve ← Curve.Weierstrass.ofParameter? algorithm.parameter?
    let (point, _) ← curve.decodePoint? bits
    return .elliptic curve point
  else if algorithm.algorithm = KeyAlgorithm.edwards then
    if algorithm.parameter?.isNone ∧ bits.length = 32 then some (.edwards bits) else none
  else none

end PublicKey

end CredentialWatch
