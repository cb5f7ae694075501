import CredentialWatch.Session.State

/-!
# Events and watches in a session

Subscriptions name the source they are for by any path that leads to it; a source that leads nowhere
is taken as it is written. A new handle takes the place of an older one of its name, which is then
released.
-/
namespace CredentialWatch.Session.State

/-- The path that a subscription listens for. -/
def sourcePath (state : State) (path : String) : String :=
  state.world.files.sourcePath path

def subscribe (state : State) (name : String) (source? : Option String) (acts : List Act) :
    State :=
  { state with
    exchange := state.exchange.subscribe name (source?.map state.sourcePath) acts }

def openChannel (state : State) (name : String) (source? : Option String) : State :=
  { state with exchange := state.exchange.openChannel name (source?.map state.sourcePath) }

/-- The number of files watched by handles. -/
def active (state : State) : Nat :=
  ((state.service? (some 0)).map Watch.Service.active).getD 0

/-- Release a handle in its service. -/
def releaseHandle (state : State) (held : HeldHandle) : HeldHandle × State :=
  match state.service? (some held.service) with
  | none => (held, state)
  | some service =>
    let (handle, service) := service.release held.handle
    ({ held with handle }, state.setService (some held.service) (some service))

/-- Drop the handle of a name. -/
def dropHandle (state : State) (name : String) : State :=
  match state.handles.lookup name with
  | none => state
  | some held =>
    let (_, later) := state.releaseHandle held
    { later with handles := remove later.handles name }

/-- Keep a handle under a name. An older one of that name is dropped. -/
def keepHandle (state : State) (name : String) (held : HeldHandle) : State :=
  let later := state.dropHandle name
  { later with handles := put later.handles name held }

/-- Watch the file at a path with the first service; the handle is not kept yet. -/
def watch (state : State) (path : String) : Except Watch.Failure HeldHandle × State :=
  match state.service? (some 0) with
  | none => (.error .noRuntime, state)
  | some service =>
    match service.watch state.world.files path state.now with
    | .error failure => (.error failure, state)
    | .ok (handle, service) => (.ok ⟨0, handle⟩, state.setService (some 0) (some service))

/-- Release the handle of a name, which is kept. -/
def stopHandle (state : State) (name : String) (held : HeldHandle) : State :=
  let (held, later) := state.releaseHandle held
  { later with handles := later.handles.map fun (other, old) =>
      if other = name then (other, held) else (other, old) }

def handleState (state : State) (held : HeldHandle) : Watch.State :=
  match state.service? (some held.service) with
  | none => .stopped
  | some service => service.handleState held.handle

/-- The state of the task that a handle belongs to. -/
def taskState (state : State) (held : HeldHandle) : Watch.State :=
  match state.service? (some held.service) with
  | none => .stopped
  | some service => service.taskState held.handle.id

def shownHandle (state : State) (held : HeldHandle) : String :=
  match state.service? (some held.service) with
  | none => ""
  | some service => service.shownHandle held.handle

/-- Load a store with the first service as its watcher. -/
def loadStore (state : State) (location? : Option String) (password : Secret)
    (storeType : String) : Except LoadError LoadedStore × State :=
  let loader : Loader := ⟨CredentialStore.defaultLimit⟩
  let (result, service?) := loader.load state.world.files state.now location? password storeType
    (state.service? (some 0))
  (result, state.setService (some 0) service?)

end CredentialWatch.Session.State
