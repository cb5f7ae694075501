import CredentialWatch.FileSystem.Change
import CredentialWatch.Watch.State

/-!
# Watching one file

A task observes the directory of its file. It takes one step at a time: an order to stop comes
first, then the next event of the directory, then the timer. An event that concerns the file makes a
change pending and sets the timer anew, so that a burst of events is published once, when the
debounce interval has passed since the last one.
-/
namespace CredentialWatch.Watch

inductive EventKind where
  | created
  | modified
  | removed
  | accessed
  deriving DecidableEq, Repr

/-- What the platform reports about a directory: what happened, and the paths it happened to. -/
structure PlatformEvent where
  kind : EventKind
  paths : List Place
  deriving DecidableEq, Repr

/-- Whether an event concerns a file: it is a creation or a modification, and one of its paths ends
in the file's name. -/
def PlatformEvent.concerns (event : PlatformEvent) (place : Place) : Bool :=
  (event.kind == .created || event.kind == .modified) &&
    event.paths.any fun path => !path.isEmpty && path.getLast? == place.getLast?

/-- What an observer of a directory is told of a change, if anything: changes of names in it, and
the renaming of the directory itself. -/
def PlatformEvent.ofChange? (directory : Place) (change : FileChange) : Option PlatformEvent :=
  if change.place.isEmpty then none
  else if change.place.dropLast = directory then
    match change.kind with
    | .created => some ⟨.created, [change.place]⟩
    | .modified => some ⟨.modified, [change.place]⟩
    | .renamedFrom => some ⟨.modified, [change.place]⟩
    | .renamedTo => some ⟨.modified, [change.place]⟩
    | .removed => some ⟨.removed, [change.place]⟩
  else if change.place = directory ∧ change.kind = .renamedFrom then
    some ⟨.modified, [directory]⟩
  else none

structure Task where
  id : Nat
  place : Place
  /-- Events that have arrived, oldest first; `none` is a failure of the platform. -/
  queue : List (Option PlatformEvent)
  pending : Bool
  /-- When the timer expires, in milliseconds. -/
  deadline : Nat
  stopRequested : Bool
  state : State
  deriving DecidableEq, Repr

namespace Task

/-- A task that begins to watch a file; its timer runs although nothing is pending. -/
def start (id : Nat) (place : Place) (debounce now : Nat) : Task :=
  ⟨id, place, [], false, now + debounce, false, .watching⟩

/-- The directory that a task observes. -/
def directory (task : Task) : Place :=
  task.place.dropLast

/-- Put an event at the end of the queue. -/
def receive (task : Task) (event : PlatformEvent) : Task :=
  { task with queue := task.queue ++ [some event] }

def requestStop (task : Task) : Task :=
  { task with stopRequested := true }

/-- What a step of a task amounts to. -/
inductive Outcome where
  | idle
  | ended
  | consumed
  | published
  deriving DecidableEq, Repr

/-- One step at a time `now`. -/
def step (debounce now : Nat) (task : Task) : Outcome × Task :=
  if task.state.isTerminal then (.idle, task)
  else if task.stopRequested then (.ended, { task with state := .stopped })
  else
    match task.queue with
    | none :: rest => (.ended, { task with queue := rest, state := .failed })
    | some event :: rest =>
      if event.concerns task.place then
        (.consumed, { task with queue := rest, pending := true, deadline := now + debounce })
      else (.consumed, { task with queue := rest })
    | [] =>
      if task.pending ∧ task.deadline ≤ now then (.published, { task with pending := false })
      else (.idle, task)

/-- The ways in which one step can go, with what each of them asks for. -/
inductive Turn (debounce now : Nat) (task : Task) : Outcome × Task → Prop where
  | idle (ended : task.state.isTerminal) : Turn debounce now task (.idle, task)
  | stop (running : ¬ task.state.isTerminal) (requested : task.stopRequested) :
      Turn debounce now task (.ended, { task with state := .stopped })
  | fail (rest : List (Option PlatformEvent)) (running : ¬ task.state.isTerminal)
      (unrequested : ¬ task.stopRequested) (next : task.queue = none :: rest) :
      Turn debounce now task (.ended, { task with queue := rest, state := .failed })
  | take (event : PlatformEvent) (rest : List (Option PlatformEvent))
      (running : ¬ task.state.isTerminal) (unrequested : ¬ task.stopRequested)
      (next : task.queue = some event :: rest) (relevant : event.concerns task.place) :
      Turn debounce now task
        (.consumed, { task with queue := rest, pending := true, deadline := now + debounce })
  | skip (event : PlatformEvent) (rest : List (Option PlatformEvent))
      (running : ¬ task.state.isTerminal) (unrequested : ¬ task.stopRequested)
      (next : task.queue = some event :: rest) (irrelevant : ¬ event.concerns task.place) :
      Turn debounce now task (.consumed, { task with queue := rest })
  | publish (running : ¬ task.state.isTerminal) (unrequested : ¬ task.stopRequested)
      (next : task.queue = []) (due : task.pending ∧ task.deadline ≤ now) :
      Turn debounce now task (.published, { task with pending := false })
  | wait (running : ¬ task.state.isTerminal) (unrequested : ¬ task.stopRequested)
      (next : task.queue = []) (early : ¬ (task.pending ∧ task.deadline ≤ now)) :
      Turn debounce now task (.idle, task)

theorem step_turn (debounce now : Nat) (task : Task) :
    Turn debounce now task (task.step debounce now) := by
  unfold step
  split
  · exact .idle ‹_›
  split
  · exact .stop ‹_› ‹_›
  split
  · exact .fail _ ‹_› ‹_› ‹_›
  · split
    · exact .take _ _ ‹_› ‹_› ‹_› ‹_›
    · exact .skip _ _ ‹_› ‹_› ‹_› ‹_›
  · split
    · exact .publish ‹_› ‹_› ‹_› ‹_›
    · exact .wait ‹_› ‹_› ‹_› ‹_›

/-- A step leaves alone what a task is for, and whether it is to stop. -/
theorem step_keeps (debounce now : Nat) (task : Task) :
    (task.step debounce now).2.id = task.id ∧ (task.step debounce now).2.place = task.place ∧
      (task.step debounce now).2.stopRequested = task.stopRequested := by
  have turn := task.step_turn debounce now
  generalize task.step debounce now = result at turn ⊢
  cases turn <;> exact ⟨rfl, rfl, rfl⟩

/-- A task that the platform has not failed: it runs unless it is to stop. -/
structure Sound (task : Task) : Prop where
  queue : none ∉ task.queue
  state : task.state = .watching ∨ task.stopRequested

theorem sound_start (id : Nat) (place : Place) (debounce now : Nat) :
    (start id place debounce now).Sound :=
  ⟨by simp [start], .inl rfl⟩

theorem Sound.watching {task : Task} (sound : task.Sound) (h : task.stopRequested = false) :
    task.state = .watching := by
  simpa [h] using sound.state

theorem Sound.receive {task : Task} (sound : task.Sound) (event : PlatformEvent) :
    (task.receive event).Sound :=
  ⟨by simpa [Task.receive] using sound.queue, sound.state⟩

theorem Sound.step {task : Task} (sound : task.Sound) (debounce now : Nat) :
    (task.step debounce now).2.Sound := by
  have turn := task.step_turn debounce now
  generalize task.step debounce now = result at turn ⊢
  obtain ⟨hqueue, hstate⟩ := sound
  cases turn with
  | idle => exact ⟨hqueue, hstate⟩
  | stop _ requested => exact ⟨hqueue, .inr requested⟩
  | fail rest _ _ next => simp [next] at hqueue
  | take event rest _ _ next => exact ⟨by simpa [next] using hqueue, hstate⟩
  | skip event rest _ _ next => exact ⟨by simpa [next] using hqueue, hstate⟩
  | publish => exact ⟨hqueue, hstate⟩
  | wait => exact ⟨hqueue, hstate⟩

end Task

end CredentialWatch.Watch
