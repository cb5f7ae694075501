import CredentialWatch.Watch.Task

/-!
# A task in the course of time

Events arrive at a task at certain times, and it is polled at certain times. When it is polled it
finds in its queue what has arrived by then, and it takes turns until it has nothing to do. A poll
takes no time.
-/
namespace CredentialWatch.Watch

/-- An event of the platform and the time at which it arrives. -/
structure Arrival where
  time : Nat
  event : PlatformEvent
  deriving DecidableEq, Repr

namespace Task

/-- A bound on the turns with an effect that a task can take before something new happens. -/
def workload (task : Task) : Nat :=
  if task.state.isTerminal then 0
  else task.queue.length + if task.queue.isEmpty && !task.pending then 1 else 2

theorem workload_le (task : Task) : task.workload ≤ task.queue.length + 2 := by
  unfold workload
  split
  · exact Nat.zero_le _
  · split <;> omega

theorem workload_step_lt {debounce now : Nat} {task : Task}
    (h : (task.step debounce now).1 ≠ .idle) :
    (task.step debounce now).2.workload < task.workload := by
  have turn := task.step_turn debounce now
  generalize task.step debounce now = result at turn h ⊢
  cases turn with
  | idle | wait => contradiction
  | stop running =>
    have ended : State.stopped.isTerminal := rfl
    simp only [workload, running, ended, if_true, if_false, Bool.false_eq_true]
    split <;> omega
  | fail rest running =>
    have ended : State.failed.isTerminal := rfl
    simp only [workload, running, ended, if_true, if_false, Bool.false_eq_true]
    split <;> omega
  | take event rest running _ next => simp [workload, running, next]
  | skip event rest running _ next =>
    simp only [workload, running, next, List.length_cons, List.isEmpty_cons, if_false,
      Bool.false_eq_true, Bool.false_and]
    split <;> omega
  | publish running _ next due => simp [workload, running, next, due]

/-- Let a task take turns until it has nothing to do: how often it publishes, and the task
afterwards. -/
def settle (debounce now : Nat) (task : Task) : Nat × Task :=
  if _h : (task.step debounce now).1 = .idle then (0, task)
  else
    let (published, last) := settle debounce now (task.step debounce now).2
    (if (task.step debounce now).1 = .published then published + 1 else published, last)
termination_by task.workload
decreasing_by exact workload_step_lt _h

section Settle

variable {debounce now : Nat} {task after : Task}

theorem settle_idle (h : (task.step debounce now).1 = .idle) :
    task.settle debounce now = (0, task) := by
  rw [settle, dif_pos h]

theorem settle_turn {outcome : Outcome} (h : task.step debounce now = (outcome, after))
    (hturn : outcome ≠ .idle) :
    task.settle debounce now =
      ((after.settle debounce now).1 + if outcome = .published then 1 else 0,
        (after.settle debounce now).2) := by
  rw [settle, dif_neg (by simpa [h] using hturn), h]
  by_cases hpublished : outcome = .published <;> simp [hpublished]

theorem settle_consumed (h : task.step debounce now = (.consumed, after)) :
    task.settle debounce now = after.settle debounce now := by
  simp [settle_turn h]

theorem settle_published (h : task.step debounce now = (.published, after)) :
    task.settle debounce now =
      ((after.settle debounce now).1 + 1, (after.settle debounce now).2) := by
  simp [settle_turn h]

end Settle

/-- The times at which a task publishes that is polled at some times, in order, while events
arrive. -/
def publications (debounce : Nat) : List Nat → List Arrival → Task → List Nat
  | [], _, _ => []
  | now :: later, arrivals, task =>
    let arrived := arrivals.takeWhile (·.time ≤ now)
    let (published, after) :=
      ((arrived.map Arrival.event).foldl receive task).settle debounce now
    List.replicate published now ++
      publications debounce later (arrivals.dropWhile (·.time ≤ now)) after

end Task

end CredentialWatch.Watch
