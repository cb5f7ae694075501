import CredentialWatch.Archive.Error
import CredentialWatch.IoError
import CredentialWatch.Keystore.Layout
import CredentialWatch.Pem.Decode
import CredentialWatch.Store.Format

/-!
# Why a store cannot be loaded

Each failure is one cause with one message. An error at a location adds where the store was to come
from. What is wrong inside an archive is not told in detail; a fixed mark stands for it.
-/
namespace CredentialWatch

/-- What is wrong with the bytes of a store, or with its password. -/
inductive FormatDefect where
  | keystore (defect : Keystore.Defect)
  | pem (defect : Pem.Defect)
  | archive (error : ArchiveError)
  deriving DecidableEq, Repr

/-- The mark for details that are not told. -/
def withheldDetails : String := "<openssl>"

def ArchiveError.message : ArchiveError → String
  | passwordNotUtf8 => "PKCS12 password is not valid UTF-8"
  | keyWithoutCertificate => "PKCS12 private key has no matching certificate"
  | malformed => withheldDetails
  | unavailable => withheldDetails
  | refused => withheldDetails

def FormatDefect.message : FormatDefect → String
  | keystore defect => defect.message
  | pem defect => defect.message
  | archive error => error.message

/-- Why there is no engine for a store type, or why it gave up. -/
inductive EngineDefect where
  | unknownType
  | archive (error : ArchiveError)
  deriving DecidableEq, Repr

def EngineDefect.message : EngineDefect → String
  | unknownType => "no provider supports this store type"
  | archive error => error.message

/-- A combination of parameters that is not allowed, or a password that cannot be had. -/
inductive ConfigDefect where
  | locationRequired
  | severalPasswords
  | variableNotSet (name : String)
  | passwordFile (path : String) (error : IoError)
  deriving DecidableEq, Repr

def ConfigDefect.message : ConfigDefect → String
  | locationRequired => "location required for this store type"
  | severalPasswords => "at most one of password, password_env and password_file may be set"
  | variableNotSet name => s!"environment variable '{name}' is not set"
  | passwordFile path error => s!"cannot read password file '{path}': {error.message}"

inductive LoadCause where
  | formatOrPassword (defect : FormatDefect)
  | algorithmUnavailable (error : ArchiveError)
  | storeEngine (storeType : String) (defect : EngineDefect)
  | sourceNotFound (error : IoError)
  | io (error : IoError)
  | invalidConfig (defect : ConfigDefect)
  deriving DecidableEq, Repr

namespace LoadCause

def message : LoadCause → String
  | formatOrPassword defect =>
    "unsupported store format or incorrect password: " ++ defect.message
  | algorithmUnavailable error =>
    "integrity or protection algorithm unavailable: " ++ error.message
  | storeEngine storeType defect =>
    s!"store engine failure for type '{storeType}': " ++ defect.message
  | sourceNotFound error => "credential source not found: " ++ error.message
  | io error => "I/O error reading credential source: " ++ error.message
  | invalidConfig defect => "invalid store configuration: " ++ defect.message

/-- The cause that a defect of a keystore is. -/
def ofKeystore (defect : Keystore.Defect) : LoadCause :=
  formatOrPassword (.keystore defect)

/-- The cause that a failure to reach or read the source is. -/
def ofSource (error : IoError) : LoadCause :=
  if error.isNotFound then sourceNotFound error else io error

/-- The cause that a failure of the archive reader is. -/
def ofArchive : ArchiveError → LoadCause
  | .unavailable => algorithmUnavailable .unavailable
  | .refused => storeEngine StoreFormat.archive.name (.archive .refused)
  | error => formatOrPassword (.archive error)

end LoadCause

/-- A cause and the location that the store was to come from. -/
structure LoadError where
  location? : Option String
  cause : LoadCause
  deriving DecidableEq, Repr

/-- What stands in the place of a location where there is none. -/
def unnamedLocation : String := "<in-memory>"

def LoadError.message (error : LoadError) : String :=
  "failed to load credential store from " ++ error.location?.getD unnamedLocation ++ ": " ++
    error.cause.message

end CredentialWatch
