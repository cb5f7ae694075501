import CredentialWatch.Archive.Protection

/-!
# Integrity of an archive

The seal of an archive is an authentication code over its content, under a key derived from the
password. It also settles which password is meant by an empty one: none at all is tried first.
-/
namespace CredentialWatch.Archive

open Asn1 (AlgorithmIdentifier Fields ObjectIdentifier Reader Value)

/-- The digests that a seal may name. -/
def sealDigests : List (List Nat × Digest.Algorithm) :=
  [([1, 2, 840, 113549, 2, 5], .md5), ([1, 3, 14, 3, 2, 26], .sha1),
    ([2, 16, 840, 1, 101, 3, 4, 2, 4], .sha224), ([2, 16, 840, 1, 101, 3, 4, 2, 1], .sha256),
    ([2, 16, 840, 1, 101, 3, 4, 2, 2], .sha384), ([2, 16, 840, 1, 101, 3, 4, 2, 3], .sha512),
    ([2, 16, 840, 1, 101, 3, 4, 2, 5], .sha512_224),
    ([2, 16, 840, 1, 101, 3, 4, 2, 6], .sha512_256),
    ([2, 16, 840, 1, 101, 3, 4, 2, 7], .sha3_224), ([2, 16, 840, 1, 101, 3, 4, 2, 8], .sha3_256),
    ([2, 16, 840, 1, 101, 3, 4, 2, 9], .sha3_384), ([2, 16, 840, 1, 101, 3, 4, 2, 10], .sha3_512)]

namespace Seal

/-- The seals whose key is derived in the general way. -/
def stretchedIdentifier : ObjectIdentifier := ⟨[1, 2, 840, 113549, 1, 5, 14]⟩

/-- The code of content under a key derived in the archive's own way. -/
def ownCode (sealing : Seal) (content : Bytes) (password : Passphrase) :
    Except Failure Bytes := do
  let some digest := sealDigests.lookup sealing.algorithm.algorithm.path | throw .unavailable
  let turns ← turnsOf (sealing.turns?.getD 1)
  let key := derived digest .integrity password.wide sealing.salt turns digest.length
  return digest.code key content

/-- The code of content under a key derived in the general way. -/
def stretchedCode (sealing : Seal) (content : Bytes) (password : Passphrase) :
    Except Failure Bytes := do
  let unavailable (_ : Failure) := Failure.unavailable
  let (derivation, code) ←
    (parameterOf generalParameters sealing.algorithm.parameter?).mapError unavailable
  let some digest := Stretching.digestOf? code.algorithm | throw .malformed
  if derivation.algorithm ≠ Stretching.identifier then throw .unavailable
  let stretching ← (parameterOf Stretching.reader derivation.parameter?).mapError unavailable
  let length := (turnCount (stretching.length?.getD 0)).toNat
  return digest.code (← stretching.key password length) content

/-- The code of content under a password. -/
def codeOf (sealing : Seal) (content : Content) (password : Passphrase) :
    Except Failure Bytes :=
  match content with
  | .plain (some bytes) =>
    if sealing.algorithm.algorithm = stretchedIdentifier then sealing.stretchedCode bytes password
    else sealing.ownCode bytes password
  | _ => .error .malformed

/-- Whether the seal is that of content under a password. -/
def fits (sealing : Seal) (content : Content) (password : Passphrase) : Except Failure Bool :=
  (fun code => decide (code = sealing.code)) <$> sealing.codeOf content password

end Seal

/-- The password that the seal of an archive fits, or the reason why it fits none. An archive
without a seal takes any password, and the empty one as none. -/
def passphrase (archive : Archive) (password : String) : Except Failure Passphrase :=
  let candidates : List Passphrase := if password.isEmpty then [none, some ""] else [some password]
  match archive.seal? with
  | none => .ok (if password.isEmpty then none else some password)
  | some sealing =>
    candidates.foldr
      (fun candidate otherwise =>
        match sealing.fits archive.content candidate with
        | .ok true => .ok candidate
        | .ok false => otherwise
        | .error error => .error error)
      (.error .malformed)

end CredentialWatch.Archive
