import CredentialWatch.Clock.Duration
import CredentialWatch.Text.Quoted
import CredentialWatch.Text.Utf8

/-!
# Failures of input and output

Refusals of the operating system keep their number. The others are found before or beside it: a
path that no file can have, a read that takes too long, a location that names no file. Each failure
has one kind and one message.
-/
namespace CredentialWatch

/-- What the operating system refuses with. -/
inductive SystemError where
  | notFound
  | accessDenied
  | alreadyExists
  | notDirectory
  | isDirectory
  | invalid
  | nameTooLong
  | notEmpty
  | loop
  | busy
  deriving DecidableEq, Repr

namespace SystemError

def number : SystemError → Nat
  | notFound => 2
  | accessDenied => 13
  | busy => 16
  | alreadyExists => 17
  | notDirectory => 20
  | isDirectory => 21
  | invalid => 22
  | nameTooLong => 36
  | notEmpty => 39
  | loop => 40

def text : SystemError → String
  | notFound => "No such file or directory"
  | accessDenied => "Permission denied"
  | busy => "Device or resource busy"
  | alreadyExists => "File exists"
  | notDirectory => "Not a directory"
  | isDirectory => "Is a directory"
  | invalid => "Invalid argument"
  | nameTooLong => "File name too long"
  | notEmpty => "Directory not empty"
  | loop => "Too many levels of symbolic links"

def kind : SystemError → String
  | notFound => "NotFound"
  | accessDenied => "PermissionDenied"
  | busy => "ResourceBusy"
  | alreadyExists => "AlreadyExists"
  | notDirectory => "NotADirectory"
  | isDirectory => "IsADirectory"
  | invalid => "InvalidInput"
  | nameTooLong => "InvalidFilename"
  | notEmpty => "DirectoryNotEmpty"
  | loop => "FilesystemLoop"

end SystemError

inductive IoError where
  | system (error : SystemError)
  | nulInPath
  | contentNotUtf8
  | neverReady
  | timedOut (limit : Duration)
  | unsupportedScheme (scheme : String)
  | remoteAuthority (authority : String)
  | noPath
  | pathNotUtf8 (defect : Text.Utf8.Defect)
  | noConfigHome
  | noStateHome
  deriving DecidableEq, Repr

namespace IoError

/-- The class of a failure. -/
def kind : IoError → String
  | system error => error.kind
  | nulInPath => "InvalidInput"
  | contentNotUtf8 => "InvalidData"
  | neverReady => "WouldBlock"
  | timedOut _ => "TimedOut"
  | unsupportedScheme _ => "Unsupported"
  | remoteAuthority _ => "InvalidInput"
  | noPath => "InvalidInput"
  | pathNotUtf8 _ => "InvalidInput"
  | noConfigHome => "NotFound"
  | noStateHome => "NotFound"

def message : IoError → String
  | system error => s!"{error.text} (os error {error.number})"
  | nulInPath => "file name contained an unexpected NUL byte"
  | contentNotUtf8 => "stream did not contain valid UTF-8"
  | neverReady => "the source never becomes readable"
  | timedOut limit => s!"reading credential source exceeded {limit.text}"
  | unsupportedScheme scheme => s!"unsupported location scheme '{scheme}'"
  | remoteAuthority authority => s!"remote file authority '{authority}' is not supported"
  | noPath => "file URI has no path"
  | pathNotUtf8 defect => defect.message
  | noConfigHome => "Neither XDG_CONFIG_HOME nor HOME environment variable found"
  | noStateHome => "Neither XDG_STATE_HOME nor HOME environment variable found"

/-- A failure with its number and kind, as it is shown where the program cannot go on. -/
def shown : IoError → String
  | system error =>
    Text.Quoted.record "Os"
      [("code", toString error.number), ("kind", error.kind),
        ("message", Text.Quoted.quote error.text)]
  | error =>
    Text.Quoted.record "Custom"
      [("kind", error.kind), ("error", Text.Quoted.quote error.message)]

/-- Whether the failure says that there is no such file. -/
def isNotFound (error : IoError) : Bool :=
  error.kind == "NotFound"

end IoError

end CredentialWatch
