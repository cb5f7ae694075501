import CredentialWatch.Text.Quoted
import CredentialWatch.Watch.Registry
import CredentialWatch.Watch.Task

/-!
# A watch service

Handles on one file share one task. The first handle starts it, the last one that is released orders
it to stop; a task that has ended leaves the registry. Time is passed in and counted in
milliseconds.
-/
namespace CredentialWatch.Watch

/-- A share in the watch of a file. -/
structure Handle where
  place : Place
  id : Nat
  released : Bool
  deriving DecidableEq, Repr

/-- How the platform answers when a directory is to be observed: with a failure, or not at all. -/
structure Platform where
  failure? : Place → Option Failure

namespace Platform

/-- A platform that observes every directory. -/
def willing : Platform := ⟨fun _ => none⟩

/-- Why a file cannot be observed, if it cannot. The root is in no directory. -/
def refusal? (platform : Platform) (place : Place) : Option Failure :=
  if place.isEmpty then some (.noParent place.path) else platform.failure? place

end Platform

structure Service where
  registry : Registry
  tasks : List Task
  debounce : Duration
  deriving DecidableEq, Repr

namespace Service

def ofDebounce (debounce : Duration) : Service :=
  ⟨Registry.empty, [], debounce⟩

def active (service : Service) : Nat :=
  service.registry.count

def task? (service : Service) (id : Nat) : Option Task :=
  service.tasks.find? (·.id == id)

theorem mem_of_task? {service : Service} {id : Nat} {task : Task}
    (h : service.task? id = some task) : task ∈ service.tasks ∧ task.id = id :=
  ⟨List.mem_of_find?_eq_some h, by simpa using List.find?_some h⟩

/-- The state of the task of a watch. -/
def taskState (service : Service) (id : Nat) : State :=
  ((service.task? id).map Task.state).getD .stopped

def modifyTask (service : Service) (id : Nat) (change : Task → Task) : Service :=
  { service with
    tasks := service.tasks.map fun task => if task.id = id then change task else task }

theorem mem_modifyTask {service : Service} {id : Nat} {change : Task → Task} {task : Task}
    (h : task ∈ (service.modifyTask id change).tasks) :
    ∃ old ∈ service.tasks, (old.id = id ∧ task = change old) ∨ (old.id ≠ id ∧ task = old) := by
  obtain ⟨old, hold, rfl⟩ := List.mem_map.1 h
  refine ⟨old, hold, ?_⟩
  by_cases hid : old.id = id
  · exact .inl ⟨hid, if_pos hid⟩
  · exact .inr ⟨hid, if_neg hid⟩

/-- Watch the file that a path leads to, on a platform that may refuse to observe its directory. A
file whose watch has not ended is joined, any other one gets a new watch. -/
def watchOn (service : Service) (platform : Platform) (files : FileSystem) (path : String)
    (now : Nat) : Except Failure (Handle × Service) :=
  match files.find path with
  | .error error => .error (.unresolved path error)
  | .ok (place, _) =>
    let joined? := (service.registry.find? place).filter fun entry =>
      !(service.taskState entry.id).isTerminal
    match joined? with
    | some entry =>
      .ok (⟨place, entry.id, false⟩, { service with registry := service.registry.join place })
    | none =>
      match platform.refusal? place with
      | some failure => .error failure
      | none =>
        let (id, registry) := service.registry.enter place
        let task := Task.start id place service.debounce.millis now
        .ok (⟨place, id, false⟩, { service with registry, tasks := service.tasks ++ [task] })

/-- The entry of a file whose watch has not ended. The entry of a failed watch stays there until its
task leaves. -/
def current? (service : Service) (place : Place) : Option Entry :=
  (service.registry.find? place).filter fun entry => !(service.taskState entry.id).isTerminal

theorem find?_of_current? {service : Service} {place : Place} {entry : Entry}
    (h : service.current? place = some entry) : service.registry.find? place = some entry :=
  (Option.filter_eq_some_iff.1 h).1

section WatchOn

variable {service : Service} {platform : Platform} {files : FileSystem} {path : String} {now : Nat}

/-- A successful watch joins the entry of its file, whose watch has not ended; or there is none and
it starts a task under the next number. -/
theorem watchOn_cases {handle : Handle} {after : Service}
    (h : service.watchOn platform files path now = .ok (handle, after)) :
    ∃ place node, files.find path = .ok (place, node) ∧
      ((∃ entry, service.current? place = some entry ∧ handle = ⟨place, entry.id, false⟩ ∧
          after = { service with registry := service.registry.join place }) ∨
        (service.current? place = none ∧ platform.refusal? place = none ∧
          handle = ⟨place, service.registry.nextId, false⟩ ∧
          after = { service with
            registry := (service.registry.enter place).2
            tasks := service.tasks ++
              [Task.start service.registry.nextId place service.debounce.millis now] })) := by
  unfold watchOn at h
  split at h
  · cases h
  rename_i place node hfind
  refine ⟨place, node, hfind, ?_⟩
  dsimp only at h
  split at h
  · rename_i entry hjoined
    cases h
    exact .inl ⟨entry, hjoined, rfl, rfl⟩
  · rename_i hfree
    split at h
    · cases h
    · rename_i hwilling
      cases h
      exact .inr ⟨hfree, hwilling, rfl, rfl⟩

/-- A watch on a path that leads somewhere fails because the platform refuses a file that has no
watch, or only one that has ended. -/
theorem watchOn_error {failure : Failure}
    (h : service.watchOn platform files path now = .error failure) {place : Place} {node : Node}
    (hfind : files.find path = .ok (place, node)) :
    service.current? place = none ∧ platform.refusal? place = some failure := by
  simp only [watchOn, hfind] at h
  split at h
  · cases h
  · rename_i hfree
    split at h
    · rename_i hrefused
      cases h
      exact ⟨hfree, hrefused⟩
    · cases h

end WatchOn

/-- Watch the file that a path leads to. -/
def watch (service : Service) (files : FileSystem) (path : String) (now : Nat) :
    Except Failure (Handle × Service) :=
  service.watchOn Platform.willing files path now

/-- Release a handle. Only the first release of a handle counts. -/
def release (service : Service) (handle : Handle) : Handle × Service :=
  if handle.released then (handle, service)
  else
    let (gone, registry) := service.registry.release handle.place handle.id
    let service := { service with registry }
    ({ handle with released := true },
      if gone then service.modifyTask handle.id Task.requestStop else service)

/-- A release leaves the tasks alone, or tells the one of the handle to stop. -/
theorem tasks_release (service : Service) (handle : Handle) :
    (service.release handle).2.tasks = service.tasks ∨
      (service.release handle).2.tasks = (service.modifyTask handle.id Task.requestStop).tasks := by
  unfold release
  split
  · exact .inl rfl
  · dsimp only
    split
    · exact .inr rfl
    · exact .inl rfl

theorem nextId_release (service : Service) (handle : Handle) :
    (service.release handle).2.registry.nextId = service.registry.nextId := by
  unfold release
  split
  · rfl
  · dsimp only
    split <;> exact Registry.nextId_release ..

/-- What a handle reports: stopped once it is released, else the state of its task. -/
def handleState (service : Service) (handle : Handle) : State :=
  if handle.released then .stopped else service.taskState handle.id

/-- Tell the tasks what happened in their directories. -/
def observe (service : Service) (changes : List FileChange) : Service :=
  { service with
    tasks := service.tasks.map fun task =>
      if task.state.isTerminal then task
      else
        { task with
          queue := task.queue ++
            (changes.filterMap (PlatformEvent.ofChange? task.directory)).map some } }

/-- One turn of a task's loop: what it amounts to, and the service afterwards. -/
def poll (service : Service) (now : Nat) (task : Task) : Task.Outcome × Service :=
  let (outcome, after) := task.step service.debounce.millis now
  (outcome, service.modifyTask task.id fun _ => after)

theorem poll_snd (service : Service) (now : Nat) (task : Task) :
    (service.poll now task).2 =
      service.modifyTask task.id fun _ => (task.step service.debounce.millis now).2 := rfl

/-- What a task does once its loop has ended. -/
def leave (service : Service) (task : Task) : Service :=
  { service with registry := service.registry.forget task.place task.id }

/-- One step of one task: what it amounts to, and the service afterwards. A task that ends leaves at
once. -/
def step (service : Service) (now : Nat) (task : Task) : Task.Outcome × Service :=
  match service.poll now task with
  | (.ended, later) => (.ended, later.leave task)
  | (outcome, later) => (outcome, later)

/-- The first task that has something to do. -/
def ready? (service : Service) (now : Nat) : Option Task :=
  service.tasks.find? fun task => (task.step service.debounce.millis now).1 != .idle

/-- Let tasks step until none has anything to do, at most so many steps: the files whose change was
published, in order, and the service afterwards. -/
def runReady (now : Nat) : Nat → Service → List Place × Service
  | 0, service => ([], service)
  | steps + 1, service =>
    match service.ready? now with
    | none => ([], service)
    | some task =>
      let (outcome, after) := service.step now task
      let (published, last) := runReady now steps after
      (if outcome = .published then task.place :: published else published, last)

/-- Enough steps for all tasks to do what they can at one time. -/
def workload (service : Service) : Nat :=
  (service.tasks.flatMap Task.queue).length + 2 * service.tasks.length

/-- Let tasks do all that they can at one time. -/
def settle (service : Service) (now : Nat) : List Place × Service :=
  runReady now service.workload service

/-- The earliest time at which a pending change is due. -/
def nextDeadline? (service : Service) : Option Nat :=
  ((service.tasks.filter fun task => task.pending && !task.state.isTerminal).map
    Task.deadline).min?

def shown (service : Service) : String :=
  Text.Quoted.record "WatchService"
    [("active_watches", toString service.active), ("debounce", service.debounce.text)]

/-- A handle's text. -/
def shownHandle (service : Service) (handle : Handle) : String :=
  Text.Quoted.record "WatchHandle"
    [("path", Path.shown handle.place.path), ("state", (service.handleState handle).name)]

end Service

end CredentialWatch.Watch
