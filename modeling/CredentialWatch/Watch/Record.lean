import CredentialWatch.Watch.Usage

/-!
# The record of a service in use

Besides the moves of its users and of its tasks, a service in use may meet a failure of the
platform: the watcher of a task does not go on, which ends the task when it comes to it. The record
of a service notes the events that its tasks consume and the files that they publish, in order.
-/
namespace CredentialWatch.Watch

namespace Task

/-- Put a failure of the platform at the end of the queue. -/
def fail (task : Task) : Task :=
  { task with queue := task.queue ++ [none] }

/-- A task that may still publish: it has not been told to stop and has not failed. -/
def Live (task : Task) : Prop :=
  task.stopRequested = false ∧ task.state ≠ .failed

theorem Sound.live {task : Task} (sound : task.Sound) (h : task.stopRequested = false) :
    task.Live :=
  ⟨h, by simp [sound.watching h]⟩

theorem Sound.running {task : Task} (sound : task.Sound) (live : task.Live) :
    ¬ task.state.isTerminal := by
  simp [sound.watching live.1, State.isTerminal]

/-- A task that is still live after a step was live before, and goes on if it went on then. -/
theorem live_step {task : Task} (running : task.Live → ¬ task.state.isTerminal)
    (debounce now : Nat) (live : (task.step debounce now).2.Live) :
    task.Live ∧ ¬ (task.step debounce now).2.state.isTerminal := by
  have turn := task.step_turn debounce now
  generalize task.step debounce now = result at turn live ⊢
  cases turn with
  | stop _ requested =>
    have unrequested := requested.symm.trans live.1
    cases unrequested
  | fail => exact absurd rfl live.2
  | idle | take | skip | publish | wait => exact ⟨live, running live⟩

end Task

/-- What can happen to a service in use. -/
inductive Occurrence where
  | move (move : Move)
  /-- The platform fails a task. -/
  | failure (id : Nat)

def Usage.undergo (usage : Usage) : Occurrence → Usage
  | .move move => usage.apply move
  | .failure id => { usage with service := usage.service.modifyTask id Task.fail }

/-- What is noted of a task, by its number. -/
inductive Note where
  | consumed (id : Nat) (event : PlatformEvent)
  | published (id : Nat) (place : Place)
  deriving DecidableEq, Repr

def Note.id : Note → Nat
  | consumed id _ => id
  | published id _ => id

/-- What is noted of a step of a task, if anything is. -/
def Task.note? (debounce now : Nat) (task : Task) : Option Note :=
  match (task.step debounce now).1, task.queue with
  | .consumed, some event :: _ => some (.consumed task.id event)
  | .published, _ => some (.published task.id task.place)
  | _, _ => none

/-- What is noted of an occurrence. Only a task that takes a turn does anything. -/
def Usage.note? (usage : Usage) : Occurrence → Option Note
  | .move (.poll id now) =>
    (usage.service.task? id).bind (Task.note? usage.service.debounce.millis now)
  | _ => none

structure Record where
  usage : Usage
  /-- What was noted, oldest first. -/
  notes : List Note

namespace Record

def start (debounce : Duration) : Record := ⟨Usage.start debounce, []⟩

def take (record : Record) (occurrence : Occurrence) : Record :=
  ⟨record.usage.undergo occurrence,
    record.notes ++ (record.usage.note? occurrence).toList⟩

def run (record : Record) (occurrences : List Occurrence) : Record :=
  occurrences.foldl take record

end Record

/-- A change of a file is outstanding with a task: the task has consumed an event that concerns the
file and has not published since. -/
def Outstanding (notes : List Note) (id : Nat) (place : Place) : Prop :=
  ∃ before event after, notes = before ++ .consumed id event :: after ∧ event.concerns place ∧
    ∀ other, .published id other ∉ after

namespace Task

variable {debounce now : Nat} {task : Task}

theorem id_of_note? {note : Note} (h : task.note? debounce now = some note) :
    note.id = task.id := by
  unfold note? at h
  split at h <;> cases h <;> rfl

/-- A step leaves a change pending if it consumes an event of the task's file, or if one was pending
and it does not publish. -/
theorem pending_step :
    (task.step debounce now).2.pending = true ↔
      (∃ event, task.note? debounce now = some (.consumed task.id event) ∧
          event.concerns task.place) ∨
        task.pending = true ∧
          ∀ place, task.note? debounce now ≠ some (.published task.id place) := by
  have turn := task.step_turn debounce now
  unfold note?
  generalize task.step debounce now = result at turn ⊢
  cases turn with
  | take event rest _ _ next relevant => simp [next, relevant]
  | skip event rest _ _ next irrelevant => simp [next, irrelevant]
  | idle | stop | fail | publish | wait => simp

/-- A task publishes its own file, and only while it is live and has a change pending. -/
theorem published_step {id : Nat} {place : Place}
    (h : task.note? debounce now = some (.published id place)) :
    task.id = id ∧ task.place = place ∧ task.pending = true ∧ task.stopRequested = false ∧
      ¬ task.state.isTerminal := by
  have turn := task.step_turn debounce now
  unfold note? at h
  generalize task.step debounce now = result at turn h
  cases turn with
  | publish running unrequested next due =>
    cases h
    exact ⟨rfl, rfl, due.1, by simpa using unrequested, running⟩
  | take event rest _ _ next | skip event rest _ _ next => simp [next] at h
  | idle | stop | fail | wait => simp at h

end Task

end CredentialWatch.Watch
