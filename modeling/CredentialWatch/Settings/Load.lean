import CredentialWatch.FileSystem.Change
import CredentialWatch.Settings.Basic

/-!
# Finding and loading settings

Settings are loaded from a given file or from the file that the environment points to: below the
configuration directory if a variable names it, else below the home directory. Logs go below the
state directory in the same way.
-/
namespace CredentialWatch

inductive SettingsError where
  | io (path : String) (error : IoError)
  | malformed (location : String)
  | noDirectory (error : IoError)
  deriving DecidableEq, Repr

/-- The mark for what is wrong with a document, which is not told. -/
def withheldDefect : String := "<toml>"

def SettingsError.message : SettingsError → String
  | io path error => s!"I/O error on '{path}': {error.message}"
  | malformed location => s!"failed to parse TOML from {location}: {withheldDefect}"
  | noDirectory error => s!"cannot determine settings directory: {error.message}"

namespace Settings

/-- The settings in a text that comes from some location. -/
def ofText (location text : String) : Except SettingsError Settings :=
  match ofText? text with
  | some settings => .ok settings
  | none => .error (.malformed location)

/-- The settings in a file. -/
def load (files : FileSystem) (path : String) : Except SettingsError Settings :=
  match files.read path with
  | .error error => .error (.io path error)
  | .ok bytes =>
    match Text.Utf8.decode? bytes with
    | some text => ofText path text
    | none => .error (.io path .contentNotUtf8)

/-- The directory in which the program's settings are. -/
def configDirectory (world : World) : Except IoError String :=
  match world.lookupText "XDG_CONFIG_HOME", world.lookupText "HOME" with
  | some directory, _ => .ok (Path.join directory "storewatch")
  | none, some home => .ok (Path.join (home ++ "/.config") "storewatch")
  | none, none => .error .noConfigHome

def standardPath (world : World) : Except IoError String :=
  (Path.join · "settings.toml") <$> configDirectory world

/-- The file that settings are loaded from: the one given, or the standard one. -/
def resolvePath (world : World) (explicit? : Option String) : Except SettingsError String :=
  match explicit? with
  | some path => .ok path
  | none => (standardPath world).mapError .noDirectory

/-- The directory for logs, whether it exists or not. -/
def logPath (world : World) : Except IoError String :=
  match world.lookupText "XDG_STATE_HOME", world.lookupText "HOME" with
  | some directory, _ => .ok (Path.join (Path.join directory "storewatch") "logs")
  | none, some home =>
    .ok (Path.join (Path.join (home ++ "/.local/state") "storewatch") "logs")
  | none, none => .error .noStateHome

/-- The directory for logs, and the files after it has been made if nothing was there. -/
def logDirectory (world : World) : Except IoError (String × FileSystem) := do
  let path ← logPath world
  if world.files.existsAt path then return (path, world.files)
  let (files, _) ← world.files.makeDirectories path
  return (path, files)

end Settings

end CredentialWatch
