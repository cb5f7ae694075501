import CredentialWatch.Watch.Service

/-!
# A service in use

Callers of a service watch files, stop their handles and drop them, while tasks take up events, take
their turns and leave, in any order. Each call is one move, since a service keeps its registry
locked while it serves one. Clones of a service are the same service. A task whose loop has ended
leaves at some later time, after which its file may have been watched again; it may also leave more
than once, which does no harm. The failure of a running platform watcher is not among the moves.
-/
namespace CredentialWatch.Watch

structure Usage where
  service : Service
  /-- Every handle that was handed out, oldest first. A dropped one stays as a released one. -/
  handles : List Handle

inductive Move where
  | watch (platform : Platform) (files : FileSystem) (path : String) (now : Nat)
  | stop (handle : Nat)
  | drop (handle : Nat)
  /-- The platform reports an event to a task. -/
  | report (id : Nat) (event : PlatformEvent)
  /-- The platform reports changes of files to all tasks that observe them. -/
  | observe (changes : List FileChange)
  | poll (id now : Nat)
  | leave (id : Nat)

/-- What tasks do, and what the platform tells them, without any call. -/
inductive Work where
  | report (id : Nat) (event : PlatformEvent)
  | observe (changes : List FileChange)
  | poll (id now : Nat)
  | leave (id : Nat)

def Work.move : Work → Move
  | report id event => .report id event
  | observe changes => .observe changes
  | poll id now => .poll id now
  | leave id => .leave id

namespace Usage

def start (debounce : Duration) : Usage := ⟨Service.ofDebounce debounce, []⟩

/-- Release a handle, named by its position. -/
def release (usage : Usage) (index : Nat) : Usage :=
  match usage.handles[index]? with
  | none => usage
  | some handle =>
    let (handle, service) := usage.service.release handle
    ⟨service, usage.handles.set index handle⟩

def apply (usage : Usage) : Move → Usage
  | .watch platform files path now =>
    match usage.service.watchOn platform files path now with
    | .error _ => usage
    | .ok (handle, service) => ⟨service, usage.handles ++ [handle]⟩
  | .stop index => usage.release index
  | .drop index => usage.release index
  | .report id event =>
    { usage with service := usage.service.modifyTask id fun task => task.receive event }
  | .observe changes => { usage with service := usage.service.observe changes }
  | .poll id now =>
    match usage.service.task? id with
    | none => usage
    | some task => { usage with service := (usage.service.poll now task).2 }
  | .leave id =>
    match usage.service.task? id with
    | none => usage
    | some task =>
      if task.state.isTerminal then { usage with service := usage.service.leave task } else usage

def run (usage : Usage) (moves : List Move) : Usage :=
  moves.foldl apply usage

end Usage

/-- A service whose tasks have done something. -/
def Service.work (service : Service) (work : Work) : Service :=
  ((⟨service, []⟩ : Usage).apply work.move).service

/-- The file that a task publishes a change of with what it does, if it does. -/
def Service.published? (service : Service) : Work → Option Place
  | .poll id now => do
    let task ← service.task? id
    if (task.step service.debounce.millis now).1 = .published then some task.place else none
  | _ => none

/-- The work of tasks has nothing to do with the handles. -/
theorem Usage.apply_work (usage : Usage) (work : Work) :
    usage.apply work.move = { usage with service := usage.service.work work } := by
  cases work with
  | report | observe => rfl
  | poll id now =>
    simp only [Service.work, Work.move, apply]
    cases usage.service.task? id <;> rfl
  | leave id =>
    simp only [Service.work, Work.move, apply]
    cases usage.service.task? id with
    | none => rfl
    | some task => cases h : task.state.isTerminal <;> simp [h]

end CredentialWatch.Watch
