import CredentialWatch.Asn1.Encoding
import CredentialWatch.Asn1.Text
import CredentialWatch.Key.Public

/-!
# Certificates

A certificate is read to know its outline and its public key. Its body keeps the bytes that were
read; the signature with its algorithm is written again after it.
-/
namespace CredentialWatch

structure Certificate where
  /-- The certificate as it is written again. -/
  bytes : Bytes
  /-- The public key, if it is of a known kind. -/
  publicKey? : Option PublicKey
  deriving DecidableEq, Repr

namespace Certificate

open Asn1 (Fields Reader Tag Value)

/-- The types that a part of a name may have. -/
def nameTags : List Tag :=
  [.bitString, .utf8String, .sequence, .numericString, .printableString, .teletexString,
    .ia5String, .universalString, .bmpString] ++
    ([7, 8, 9, 11, 13, 14, 15, 29].map Tag.universal)

/-- The types whose text is looked at when names are compared. -/
def comparedTags : List Tag :=
  [.utf8String, .printableString, .teletexString, .ia5String, .visibleString, .universalString,
    .bmpString]

/-- One part of a name; a compared one must be text. -/
def namePart : Reader Unit :=
  .sequence do
    let _ ← Fields.required .objectIdentifier
    let value ← Fields.required (.oneOf nameTags)
    if value.tag ∈ comparedTags ∧ value.text?.isNone then throw .detail

def name : Reader Unit := do
  let _ ← Reader.list .sequence (.list .set namePart)

def time : Reader Value := .oneOf [.utcTime, .generalizedTime]

def validity : Reader Unit :=
  .sequence do
    let _ ← Fields.required time
    let _ ← Fields.required time

def publicKeyInfo : Reader (Option PublicKey) :=
  .sequence do
    let algorithm ← Fields.required .algorithmIdentifier
    let bits ← Fields.required .bitString
    return PublicKey.ofBits? algorithm bits.bytes

/-- An extension: its name, whether it is critical, and its value. -/
def extension : Reader Unit :=
  .sequence do
    let _ ← Fields.required .objectIdentifier
    let _ ← Fields.optional .boolean .boolean
    let _ ← Fields.required .octetString

/-- The body of a certificate, of which only the public key is kept. -/
def body : Reader (Option PublicKey) :=
  .sequence do
    let _ ← Fields.optional (.context 0) (.explicit 0 .integer)
    let _ ← Fields.required .integer
    let _ ← Fields.required .algorithmIdentifier
    let _ ← Fields.required name
    let _ ← Fields.required validity
    let _ ← Fields.required name
    let publicKey? ← Fields.required publicKeyInfo
    let _ ← Fields.optional (.context 1) (.implicitBitString 1)
    let _ ← Fields.optional (.context 2) (.implicitBitString 2)
    let _ ← Fields.last (.explicit 3 (.list .sequence extension))
    return publicKey?

/-- The body and the bytes that it was read from. -/
def bodyWithBytes : Reader (Bytes × Option PublicKey) := do
  let before ← get
  let publicKey? ← body
  return (before.take (before.length - (← get).length), publicKey?)

def reader : Reader Certificate :=
  .sequence do
    let (body, publicKey?) ← Fields.required bodyWithBytes
    let algorithm ← Fields.required .algorithmIdentifier
    let signature ← Fields.required .bitString
    let parameter := (algorithm.parameter?.map Value.encoding).getD []
    let bytes := Asn1.encodeSequence
      [body, Asn1.encodeAlgorithm algorithm.algorithm parameter, Asn1.encodeBitString signature]
    return ⟨bytes, publicKey?⟩

end Certificate

end CredentialWatch
