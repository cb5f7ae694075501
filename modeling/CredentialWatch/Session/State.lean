import CredentialWatch.Command.Run
import CredentialWatch.Event.Exchange

/-!
# Sessions

A session holds everything that works together: files, a clock, an exchange of events, watch
services, and providers, handles and configurations by name. The clock stands still except where
something has to be waited for; then the tasks of all services run, each at the time at which it has
something to do, and what they publish goes to the exchange.
-/
namespace CredentialWatch.Session

/-- A handle and the service that it belongs to. -/
structure HeldHandle where
  service : Nat
  handle : Watch.Handle

/-- A configuration and the service that watches its file, if there is one. -/
structure HeldConfiguration where
  service? : Option Nat
  configuration : StoreConfiguration

structure State where
  world : World
  /-- Milliseconds since the session began. -/
  now : Nat
  exchange : Exchange
  services : List Watch.Service
  loader : Loader
  /-- The service that configurations are watched with. -/
  watcher? : Option Nat
  providers : List (String × PasswordProvider)
  nextProvider : Nat
  handles : List (String × HeldHandle)
  configurations : List (String × HeldConfiguration)

/-- Put a value under a name, in the place of an older one. -/
def put {α : Type} (values : List (String × α)) (name : String) (value : α) :
    List (String × α) :=
  values.filter (·.1 != name) ++ [(name, value)]

def remove {α : Type} (values : List (String × α)) (name : String) : List (String × α) :=
  values.filter (·.1 != name)

namespace State

/-- A session with one service for handles, the first one, and another one for configurations if
they are to be watched. -/
def start (world : World) (debounce : Duration) (watching : Bool) : State :=
  let service := Watch.Service.ofDebounce debounce
  { world
    now := 0
    exchange := Exchange.empty
    services := if watching then [service, service] else [service]
    loader := ⟨CredentialStore.defaultLimit⟩
    watcher? := if watching then some 1 else none
    providers := []
    nextProvider := 0
    handles := []
    configurations := [] }

def service? (state : State) (index? : Option Nat) : Option Watch.Service :=
  index?.bind fun index => state.services[index]?

/-- The session with one service replaced. -/
def setService (state : State) (index? : Option Nat) (service? : Option Watch.Service) : State :=
  match index?, service? with
  | some index, some service => { state with services := state.services.set index service }
  | _, _ => state

/-- The time of the clock. -/
def instant (state : State) : Instant :=
  (Instant.ofMillis? state.now).getD ⟨0, 0⟩

/-- Publish a change of the file at a path. -/
def publish (state : State) (path : String) : Nat × State :=
  let (delivered, exchange) :=
    state.exchange.publish ⟨.configurationChanged, path, state.instant⟩
  (delivered, { state with exchange })

/-- Let the tasks of one service do what they can. -/
def runService (state : State) (index : Nat) : State :=
  match state.services[index]? with
  | none => state
  | some service =>
    let (published, service) := service.settle state.now
    let later := { state with services := state.services.set index service }
    published.foldl (fun state place => (state.publish place.path).2) later

/-- Let all tasks do what they can at the time of the clock. -/
def runTasks (state : State) : State :=
  (List.range state.services.length).foldl runService state

/-- The next time at which a task has something to do. -/
def nextDeadline? (state : State) : Option Nat :=
  (state.services.filterMap Watch.Service.nextDeadline?).min?

/-- Let time pass up to `limit`, or until enough lines are in the log. -/
def advance (limit : Nat) (enough? : Option Nat) : Nat → State → State
  | 0, state => state
  | steps + 1, state =>
    let state := state.runTasks
    if enough?.any (· ≤ state.exchange.log.length) then state
    else
      match state.nextDeadline?.filter (· ≤ limit) with
      | none => { state with now := max state.now limit }
      | some deadline => advance limit enough? steps { state with now := max state.now deadline }

/-- More steps than tasks can have deadlines ahead of them. -/
def deadlines (state : State) : Nat :=
  (state.services.flatMap Watch.Service.tasks).length + 2

/-- How long to wait for expected lines, in milliseconds. -/
def patience : Nat := 5000

/-- Wait until so many lines are in the log, but not for ever, and then for two debounce intervals
more. -/
def settle (state : State) (expected debounce : Nat) : State :=
  let waited := advance (state.now + patience) (some expected) state.deadlines state
  advance (waited.now + 2 * debounce) none waited.deadlines waited

/-- Take up changed files and tell all services what has happened. -/
def takeChanges (state : State) (changed : FileSystem.Changed) : State :=
  { state with
    world := { state.world with files := changed.1 }
    services := state.services.map fun service => service.observe changed.2 }

end State

end CredentialWatch.Session
