import CredentialWatch.FileSystem.Basic

/-!
# States and failures of a watch
-/
namespace CredentialWatch.Watch

inductive State where
  | idle
  | watching
  | stopped
  | failed
  deriving DecidableEq, Repr

namespace State

def name : State → String
  | idle => "Idle"
  | watching => "Watching"
  | stopped => "Stopped"
  | failed => "Failed"

/-- Whether the watch has ended for good. -/
def isTerminal : State → Bool
  | stopped => true
  | failed => true
  | _ => false

end State

/-- Why a file cannot be watched. -/
inductive Failure where
  | unresolved (path : String) (error : IoError)
  | noParent (path : String)
  | noRuntime
  deriving DecidableEq, Repr

def Failure.message : Failure → String
  | unresolved path error => s!"cannot resolve watched file '{path}': {error.message}"
  | noParent path => s!"watched file '{path}' has no parent directory"
  | noRuntime =>
    "file watching requires a tokio runtime: there is no reactor running, must be called from " ++
      "the context of a Tokio 1.x runtime"

end CredentialWatch.Watch
