import CredentialWatch.Secret
import CredentialWatch.Store.LoadError
import CredentialWatch.World

/-!
# Where passwords come from

A password is given directly, stands in a variable of the environment, or is the content of a file,
of which one line end at the end does not count. A provider is a source with an identity: two
providers are the same only if they are one. Each password that is asked for is a secret of its own.
-/
namespace CredentialWatch

inductive PasswordSource where
  | memory (secret : Secret)
  | environment (name : String)
  | file (path : String)
  deriving DecidableEq

structure PasswordProvider where
  identity : Nat
  source : PasswordSource
  deriving DecidableEq

namespace PasswordSource

/-- A text without one line end at its end, which is a line feed with or without a carriage
return. -/
def trimLineEnd (bytes : Bytes) : Bytes :=
  match bytes.reverse with
  | 0x0A :: 0x0D :: rest => rest.reverse
  | 0x0A :: rest => rest.reverse
  | _ => bytes

/-- What a source answers when it is asked for its password now. A pipe is answered here like a file
that cannot be read; the call that meets one does not return, which `PasswordSource.interruption?`
tells. -/
def password (world : World) : PasswordSource → Except LoadCause Secret
  | memory secret => .ok secret
  | environment name =>
    match world.lookup name with
    | some bytes => .ok ⟨bytes⟩
    | none => .error (.invalidConfig (.variableNotSet name))
  | file path =>
    match world.files.read path with
    | .ok bytes => .ok ⟨trimLineEnd bytes⟩
    | .error error => .error (.invalidConfig (.passwordFile path error))

/-- A source's text, which never shows a password. -/
def shown : PasswordSource → String
  | memory _ => "MemoryPasswordProvider"
  | environment name =>
    Text.Quoted.record "EnvironmentPasswordProvider" [("variable", Text.Quoted.quote name)]
  | file path => Text.Quoted.record "FilePasswordProvider" [("path", Path.shown path)]

end PasswordSource

end CredentialWatch
