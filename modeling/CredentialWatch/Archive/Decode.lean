import CredentialWatch.Archive.Holdings
import CredentialWatch.Store.Credential

/-!
# The credentials of an archive

A library parses an archive under a password; it finds a key or none, a certificate that belongs to
it, and further certificates. Each of them is then written out, which may fail as well. An archive
with a key is one credential, which the leading certificate names; its chain is this certificate and
then the others. An archive without a key is a credential for each certificate, named by its place.
-/
namespace CredentialWatch.Archive

/-- A certificate as it is written out, and the name that the archive gives it. -/
structure Leading where
  certificate : Except Failure Bytes
  name? : Option Bytes

/-- What a library has parsed: a key, the certificate that belongs to it, and further certificates,
each as it is written out. -/
structure Parsed where
  key? : Option (Except Failure Bytes)
  leading? : Option Leading
  others : List (Except Failure Bytes)

/-- A library that reads archives. -/
structure Library where
  /-- Whether bytes spell an archive. -/
  recognise : Bytes → Except Failure Unit
  /-- What the archive that bytes spell holds under a password, which has no NUL. -/
  parse : Bytes → String → Except Failure Parsed

/-- What the library has to say, with its failures in their classes. -/
def classified {α : Type} (outcome : Except Failure α) : Except ArchiveError α :=
  outcome.mapError ArchiveError.ofFailure

/-- The name of a key whose certificate has none. -/
def defaultKeyName : String := "1"

/-- The credentials that make up what a library has parsed. -/
def Parsed.credentials (parsed : Parsed) : Except ArchiveError (List Credential) := do
  let others ← parsed.others.mapM classified
  match parsed.key?, parsed.leading? with
  | some key, some leading =>
    let encoding ← classified key
    let certificate ← classified leading.certificate
    let name := (leading.name?.map Text.Utf8.lossy).getD defaultKeyName
    return [⟨name, .key (.plain .pkcs8 encoding) (certificate :: others), none⟩]
  | some _, none => throw .keyWithoutCertificate
  | none, leading? =>
    let leading ← leading?.toList.mapM fun leading => classified leading.certificate
    return (leading ++ others).mapIdx fun index certificate =>
      ⟨toString index, .trusted certificate, none⟩

/-- The credentials of an archive that a library parses under a password. -/
def decodeWith (library : Library) (bytes password : Bytes) :
    Except ArchiveError (List Credential) := do
  let some password := Text.Utf8.decode? password | throw .passwordNotUtf8
  classified (library.recognise bytes)
  let parsed ← classified (library.parse bytes password)
  parsed.credentials

/-- Holdings as a library hands them out. -/
def Holdings.parsed (holdings : Holdings) : Parsed :=
  ⟨holdings.key?.map fun key => key.encode?.elim (.error .malformed) .ok,
    holdings.leading?.map fun leading =>
      ⟨.ok leading.certificate.bytes, leading.name?.map Text.Utf8.encode⟩,
    holdings.others.map fun certificate => .ok certificate.bytes⟩

/-- A library for the usual protections, with keys for RSA, Ed25519 and four curves. -/
def Library.standard : Library where
  recognise bytes := (fun _ => ()) <$> ofBytes bytes
  parse bytes password := do return (← (← ofBytes bytes).holdings password).parsed

end CredentialWatch.Archive
