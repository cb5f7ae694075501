import CredentialWatch.Bytes
import CredentialWatch.Clock.Instant
import CredentialWatch.Text.AsciiCase

/-!
# Credentials and the stores that hold them

A credential has an alias, perhaps a creation time, and either a private key with its certificate
chain or one trusted certificate. A store keeps credentials in the order of its file; looking one up
ignores the case of ASCII letters and takes the first match.
-/
namespace CredentialWatch

/-- How a plain private key is encoded. -/
inductive KeyForm where
  | pkcs1
  | pkcs8
  | sec1
  deriving DecidableEq, Repr

/-- Key bytes that are still wrapped by the store's own protection, or a plain key. -/
inductive KeyMaterial where
  | wrapped (bytes : Bytes)
  | plain (form : KeyForm) (bytes : Bytes)
  deriving DecidableEq, Repr

namespace KeyMaterial

/-- A key's text, which never shows the key. -/
def shown : KeyMaterial → String
  | wrapped bytes => s!"Protected({bytes.length} bytes)"
  | plain _ _ => "Plain([REDACTED])"

end KeyMaterial

/-- What a credential holds: a key with its chain, leaf first, or a trusted certificate. -/
inductive Holding where
  | key (material : KeyMaterial) (chain : List Bytes)
  | trusted (certificate : Bytes)
  deriving DecidableEq, Repr

structure Credential where
  name : String
  holding : Holding
  created : Option Instant
  deriving DecidableEq, Repr

namespace Credential

def isKey (credential : Credential) : Bool :=
  match credential.holding with
  | .key _ _ => true
  | .trusted _ => false

/-- The certificates of a credential, a chain or a single one. -/
def certificates (credential : Credential) : List Bytes :=
  match credential.holding with
  | .key _ chain => chain
  | .trusted certificate => [certificate]

end Credential

/-- A loaded store: the type it was declared as, in the words of the declaration, and its
credentials. -/
structure CredentialStore where
  declaredType : String
  credentials : List Credential
  deriving DecidableEq, Repr

namespace CredentialStore

def aliases (store : CredentialStore) : List String :=
  store.credentials.map Credential.name

/-- All certificates, credential after credential. -/
def certificates (store : CredentialStore) : List Bytes :=
  store.credentials.flatMap Credential.certificates

/-- The place of the first credential with an alias, up to ASCII case. -/
def index? (store : CredentialStore) (name : String) : Option Nat :=
  store.credentials.findIdx? fun credential => Text.AsciiCase.same credential.name name

/-- The first credential with an alias, up to ASCII case. -/
def find? (store : CredentialStore) (name : String) : Option Credential :=
  store.credentials.find? fun credential => Text.AsciiCase.same credential.name name

end CredentialStore

end CredentialWatch
