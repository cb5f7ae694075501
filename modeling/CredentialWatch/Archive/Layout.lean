import CredentialWatch.Archive.Error
import CredentialWatch.Asn1.Text
import CredentialWatch.Key.Private

/-!
# Layout of an archive

An archive is a version, content, and perhaps a code that proves it unchanged. The content is a list
of safes, plain or encrypted; a safe is a list of bags, and a bag holds a key, a wrapped key, a
certificate, further bags, or something that is passed over. A bag's attributes may name it.
-/
namespace CredentialWatch.Archive

open Asn1 (AlgorithmIdentifier Fields ObjectIdentifier Reader Value)

/-- Bytes under an encryption. -/
structure Encrypted where
  algorithm : AlgorithmIdentifier
  bytes : Bytes
  deriving DecidableEq, Repr

/-- Content of a declared kind; that of the first two kinds may be missing. -/
inductive Content where
  | plain (bytes? : Option Bytes)
  | encrypted (content? : Option Encrypted)
  | other
  deriving DecidableEq, Repr

/-- A code over the content, under a key derived with a salt and a number of turns. -/
structure Seal where
  algorithm : AlgorithmIdentifier
  code : Bytes
  salt : Bytes
  turns? : Option Int
  deriving DecidableEq, Repr

end CredentialWatch.Archive

namespace CredentialWatch

structure Archive where
  content : Archive.Content
  seal? : Option Archive.Seal
  deriving DecidableEq, Repr

namespace Archive

open Asn1 (AlgorithmIdentifier Fields ObjectIdentifier Reader Value)

/-- What a bag holds, as far as it matters. -/
inductive Item where
  | key (info : PrivateKeyInfo)
  | wrappedKey (encrypted : Encrypted)
  | certificate (bytes : Bytes) (name? : Option String)
  deriving DecidableEq, Repr

/-- A kind of content. -/
def contentKind (number : Nat) : ObjectIdentifier := ⟨[1, 2, 840, 113549, 1, 7, number]⟩

/-- The kinds of content that are sequences and that an archive does not use. -/
def foreignKinds : List ObjectIdentifier := [2, 3, 4, 5].map contentKind

/-- A kind of bag. -/
def bagKind (number : Nat) : ObjectIdentifier := ⟨[1, 2, 840, 113549, 1, 12, 10, 1, number]⟩

/-- A kind of certificate, or of a list of revoked ones. -/
def certificateKind (family number : Nat) : ObjectIdentifier :=
  ⟨[1, 2, 840, 113549, 1, 9, family, number]⟩

/-- The attribute that names a bag. -/
def friendlyName : ObjectIdentifier := ⟨[1, 2, 840, 113549, 1, 9, 20]⟩

namespace Content

/-- Encrypted content, whose bytes may stand elsewhere. -/
def encryptedReader : Reader (Option Encrypted) :=
  .sequence do
    let _ ← Fields.required .integer
    Fields.required <| .sequence do
      let _ ← Fields.required .objectIdentifier
      let algorithm ← Fields.required .algorithmIdentifier
      let bytes? ← Fields.last (.implicitOctetString 0)
      return bytes?.map fun bytes => ⟨algorithm, bytes⟩

def reader : Reader Content :=
  .sequence do
    let kind ← Fields.required .objectIdentifier
    if kind = contentKind 1 then
      .plain <$> Fields.last (.explicit 0 .octetString)
    else if kind = contentKind 6 then
      .encrypted <$> Option.join <$> Fields.last (.explicit 0 encryptedReader)
    else if kind ∈ foreignKinds then
      let _ ← Fields.last (.explicit 0 (.list .sequence .value))
      return .other
    else
      let _ ← Fields.last (.explicit 0 .value)
      return .other

end Content

/-- A byte string behind the algorithm that it is to be used with. -/
def encryptedReader : Reader Encrypted :=
  .sequence do
    let algorithm ← Fields.required .algorithmIdentifier
    let bytes ← Fields.required .octetString
    return ⟨algorithm, bytes⟩

namespace Seal

def reader : Reader Seal :=
  .sequence do
    let code ← Fields.required encryptedReader
    let salt ← Fields.required .octetString
    let turns? ← Fields.last .integer
    return ⟨code.algorithm, code.bytes, salt, turns?⟩

end Seal

/-- An archive of any version. -/
def reader : Reader Archive :=
  .sequence do
    let _ ← Fields.required .integer
    let content ← Fields.required Content.reader
    let seal? ← Fields.last Seal.reader
    return ⟨content, seal?⟩

/-- The archive at the front of bytes. -/
def ofBytes (bytes : Bytes) : Except Failure Archive :=
  (reader.runOn bytes).mapError fun
    | .outline => .refused
    | .detail => .malformed

/-- A certificate of the kind that is used; another kind is passed over. -/
def certificateReader : Reader (Option Bytes) :=
  .sequence do
    let kind ← Fields.required .objectIdentifier
    if kind = certificateKind 22 1 then
      some <$> Fields.required (.explicit 0 .octetString)
    else if kind = certificateKind 23 1 then
      let _ ← Fields.required (.explicit 0 .octetString)
      return none
    else if kind = certificateKind 22 2 then
      let _ ← Fields.required (.explicit 0 (.oneOf [.ia5String]))
      return none
    else
      let _ ← Fields.required (.explicit 0 .value)
      return none

/-- The name that attributes give: the first value of the first such attribute, if it is text. -/
def nameOf? (attributes : List (ObjectIdentifier × List Value)) : Option String := do
  let (_, values) ← attributes.find? fun (name, _) => name = friendlyName
  (← values.head?).text?

/-- What a bag of a kind holds, before its name is known; `bags` reads further bags. -/
def itemReader (kind : ObjectIdentifier) (bags : Reader (List Item)) :
    Reader (Option String → List Item) := do
  if kind = bagKind 1 then
    let info ← Reader.explicit 0 PrivateKeyInfo.reader
    return fun _ => [.key info]
  else if kind = bagKind 2 then
    let encrypted ← Reader.explicit 0 encryptedReader
    return fun _ => [.wrappedKey encrypted]
  else if kind = bagKind 3 then
    let bytes? ← Reader.explicit 0 certificateReader
    return fun name? => bytes?.toList.map fun bytes => .certificate bytes name?
  else if kind = bagKind 4 ∨ kind = bagKind 5 then
    let _ ← Reader.explicit 0 certificateReader
    return fun _ => []
  else if kind = bagKind 6 then
    let items ← Reader.explicit 0 bags
    return fun _ => items
  else
    let _ ← Reader.explicit 0 Reader.value
    return fun _ => []

/-- What a bag holds, with bags in bags at most `depth` deep. -/
def bagReader : Nat → Reader (List Item)
  | 0 => throw .detail
  | depth + 1 => .sequence do
    let kind ← Fields.required .objectIdentifier
    let items ← Fields.required
      (itemReader kind (List.flatten <$> Reader.list .sequence (bagReader depth)))
    let attributes? ← Fields.last (.list .set PrivateKeyInfo.namedValues)
    return items (nameOf? (attributes?.getD []))

/-- How deep bags may be nested. -/
def bagDepth : Nat := 28

/-- What the bags of a safe hold, in order. -/
def safeReader : Reader (List Item) :=
  List.flatten <$> Reader.list .sequence (bagReader bagDepth)

/-- The safes of an archive. -/
def safesReader : Reader (List Content) := .list .sequence Content.reader

end Archive

end CredentialWatch
