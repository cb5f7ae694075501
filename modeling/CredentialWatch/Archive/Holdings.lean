import CredentialWatch.Archive.Integrity
import CredentialWatch.Certificate

/-!
# What an archive holds

The safes of an archive are opened in order. The first key counts, and the first certificate that
belongs to it leads its chain; all other certificates follow in order.
-/
namespace CredentialWatch.Archive

/-- A certificate and the name that its bag gives it. -/
structure NamedCertificate where
  certificate : Certificate
  name? : Option String
  deriving DecidableEq, Repr

/-- What has been found in an archive, in order. -/
structure Findings where
  key? : Option PrivateKey
  certificates : List NamedCertificate
  deriving DecidableEq, Repr

/-- What an archive holds: a key, the certificate that leads its chain, and further certificates. -/
structure Holdings where
  key? : Option PrivateKey
  leading? : Option NamedCertificate
  others : List Certificate
  deriving DecidableEq, Repr

/-- The key that an encoding spells. -/
def keyOf (info : PrivateKeyInfo) : Except Failure PrivateKey :=
  match PrivateKey.ofInfo? info with
  | some key => .ok key
  | none =>
    .error (if info.algorithm.algorithm ∈ PrivateKey.algorithms then .malformed else .unavailable)

/-- A value that a reader finds in bytes. -/
def found {α : Type} (reader : Asn1.Reader α) (bytes : Bytes) : Except Failure α :=
  (reader.runOn bytes).mapError fun _ => .malformed

namespace Findings

def empty : Findings := ⟨none, []⟩

/-- Add what a bag holds; a key after the first one is not looked at. -/
def add (password : Passphrase) (findings : Findings) (item : Item) :
    Except Failure Findings := do
  match item, findings.key? with
  | .key info, none => return { findings with key? := some (← keyOf info) }
  | .wrappedKey encrypted, none =>
    let info ← found PrivateKeyInfo.reader (← encrypted.decrypt password)
    return { findings with key? := some (← keyOf info) }
  | .certificate bytes name?, _ =>
    let certificate ← found Certificate.reader bytes
    return { findings with certificates := findings.certificates ++ [⟨certificate, name?⟩] }
  | _, _ => return findings

/-- Add what a safe holds; one of another kind is passed over. -/
def addSafe (password : Passphrase) (findings : Findings) (safe : Content) :
    Except Failure Findings := do
  match safe with
  | .plain (some bytes) => (← found safeReader bytes).foldlM (add password) findings
  | .encrypted (some encrypted) =>
    (← found safeReader (← encrypted.decrypt password)).foldlM (add password) findings
  | .plain none | .encrypted none => throw .malformed
  | .other => return findings

/-- Single out the first certificate that belongs to the key. -/
def holdings (findings : Findings) : Holdings :=
  let belongs (named : NamedCertificate) : Bool :=
    match findings.key? with
    | some key => named.certificate.publicKey? = some key.publicKey
    | none => false
  ⟨findings.key?, findings.certificates.find? belongs,
    (findings.certificates.eraseP belongs).map NamedCertificate.certificate⟩

end Findings

/-- The safes in the content of an archive. -/
def safes (archive : Archive) : Except Failure (List Content) :=
  match archive.content with
  | .plain (some bytes) => found safesReader bytes
  | _ => .error .malformed

/-- What an archive holds under a password. -/
def holdings (archive : Archive) (password : String) : Except Failure Holdings := do
  let password ← archive.passphrase password
  let findings ← (← archive.safes).foldlM (Findings.addSafe password) Findings.empty
  return findings.holdings

end CredentialWatch.Archive
