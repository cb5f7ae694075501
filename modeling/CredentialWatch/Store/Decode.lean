import CredentialWatch.Archive.Decode
import CredentialWatch.Keystore.Codec
import CredentialWatch.Store.LoadError

/-!
# Decoding a store

The bytes of a store are decoded by the engine of its format. The store keeps the name its type was
declared by. Only keystores can be written as well.
-/
namespace CredentialWatch

/-- The format that a store type names. -/
def StoreFormat.ofName (name : String) : Except LoadCause StoreFormat :=
  match StoreFormat.ofName? name with
  | some format => .ok format
  | none => .error (.storeEngine name .unknownType)

/-- The credentials that bytes hold in a format, where a library reads archives; PEM text needs no
password. A library is not handed a password with a NUL: the call that does so does not return,
which `StoreFormat.interruption?` tells. -/
def StoreFormat.decodeWith (library : Archive.Library) (bytes password : Bytes) :
    StoreFormat → Except LoadCause (List Credential)
  | keystore => (Keystore.decode bytes password).mapError LoadCause.ofKeystore
  | archive => (Archive.decodeWith library bytes password).mapError LoadCause.ofArchive
  | pem => (Pem.decode bytes).mapError fun defect => .formatOrPassword (.pem defect)

/-- The credentials that bytes hold in a format, by the standard library for archives. -/
def StoreFormat.decode : Bytes → Bytes → StoreFormat → Except LoadCause (List Credential) :=
  decodeWith .standard

/-- The bytes of a keystore that holds drafts, all created at one time. -/
def StoreFormat.encodeKeystore (drafts : List Keystore.Draft) (created : Instant)
    (password : Bytes) : Except LoadCause Bytes :=
  (Keystore.encode drafts created password).mapError LoadCause.ofKeystore

/-- The store of a declared type that bytes hold. -/
def CredentialStore.decode (declaredType : String) (bytes password : Bytes) :
    Except LoadCause CredentialStore := do
  let format ← StoreFormat.ofName declaredType
  return ⟨declaredType, ← format.decode bytes password⟩

end CredentialWatch
