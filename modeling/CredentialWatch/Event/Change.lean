import CredentialWatch.Clock.Instant
import CredentialWatch.Report.Style

/-!
# Change events

An event says that the file at a path has changed, and when.
-/
namespace CredentialWatch

/-- The one type of event there is. -/
inductive EventType where
  | configurationChanged
  deriving DecidableEq, Repr

def EventType.name : EventType → String
  | configurationChanged => "ConfigurationChanged"

structure ChangeEvent where
  type : EventType
  path : String
  time : Instant
  deriving DecidableEq, Repr

/-- The line that reports an event. -/
def ChangeEvent.line (event : ChangeEvent) : String :=
  s!"[{event.time.text}] {Style.notice.paint event.type.name} {event.path}"

end CredentialWatch
