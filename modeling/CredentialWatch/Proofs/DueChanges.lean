import CredentialWatch.Command.Course
import CredentialWatch.Proofs.Reloads

/-!
# Changes that are due

A change of a watched file is due while the task of the file has an event of it in its queue or a
change pending. Whatever the tasks do, it stays due until it is published; and where a watch
continues, what is due with it continues. What is published comes to the channel, where it stays
until it is received.
-/
namespace CredentialWatch

namespace Watch

/-- A task that has to publish a change sooner or later. -/
def Task.Due (task : Task) : Prop :=
  task.pending = true ∨ ∃ event, some event ∈ task.queue ∧ event.concerns task.place

instance (task : Task) : Decidable task.Due :=
  decidable_of_iff
      (task.pending = true ∨ ∃ event? ∈ task.queue, event?.any (·.concerns task.place)) <| by
    simp only [Task.Due, Option.any_eq_true]
    grind

theorem Task.Due.enqueue {task : Task} (due : task.Due) (more : List (Option PlatformEvent)) :
    ({ task with queue := task.queue ++ more } : Task).Due := by
  refine due.imp_right ?_
  rintro ⟨event, hmem, hconcerns⟩
  exact ⟨event, List.mem_append_left _ hmem, hconcerns⟩

/-- A step of a running task publishes the change that is due, or leaves it due. -/
theorem Task.due_step {task : Task} (due : task.Due) (sound : task.Sound)
    (hstop : task.stopRequested = false) (debounce now : Nat) :
    (task.step debounce now).1 = .published ∨ (task.step debounce now).2.Due := by
  have turn := task.step_turn debounce now
  have hqueue := sound.queue
  generalize task.step debounce now = result at turn ⊢
  cases turn with
  | idle => exact .inr due
  | stop _ requested => simp [hstop] at requested
  | fail rest _ _ next => simp [next] at hqueue
  | take event rest _ _ next => exact .inr (.inl rfl)
  | skip event rest _ _ next irrelevant =>
    refine .inr (due.imp_right ?_)
    rintro ⟨other, hmem, hconcerns⟩
    rw [next] at hmem
    rcases List.mem_cons.1 hmem with hfirst | hmem
    · exact absurd (Option.some.inj hfirst ▸ hconcerns) irrelevant
    · exact ⟨other, hmem, hconcerns⟩
  | publish => exact .inl rfl
  | wait => exact .inr due

/-- A running task with something due gets on: it takes an event from its queue, or it publishes as
soon as its timer has expired. -/
theorem Task.step_of_due {task : Task} (due : task.Due) (sound : task.Sound)
    (hstop : task.stopRequested = false) (debounce : Nat) :
    (task.step debounce task.deadline).1 = .published ∨
      (task.step debounce task.deadline).2.queue.length < task.queue.length := by
  have turn := task.step_turn debounce task.deadline
  have hqueue := sound.queue
  generalize task.step debounce task.deadline = result at turn ⊢
  cases turn with
  | idle ended => simp [sound.watching hstop, State.isTerminal] at ended
  | stop _ requested => simp [hstop] at requested
  | fail rest _ _ next => simp [next] at hqueue
  | take event rest _ _ next | skip event rest _ _ next => exact .inr (by simp [next])
  | publish => exact .inl rfl
  | wait _ _ next early =>
    rcases due with hpending | ⟨event, hmem, -⟩
    · exact absurd ⟨hpending, le_rfl⟩ early
    · simp [next] at hmem

namespace Service

/-- A change of a file is due with the task of its watch. -/
def Due (service : Service) (place : Place) : Prop :=
  ∃ task ∈ service.tasks, task.place = place ∧
    service.registry.watchId? place = some task.id ∧ task.Due

instance (service : Service) (place : Place) : Decidable (service.Due place) :=
  inferInstanceAs (Decidable (∃ task ∈ service.tasks, task.place = place ∧
    service.registry.watchId? place = some task.id ∧ task.Due))

variable {service after : Service} {handles : List Handle} {place : Place}

/-- The task of the watch of a file is not to stop. -/
theorem Balanced.runs (balanced : service.Balanced handles) {task : Task}
    (hmem : task ∈ service.tasks)
    (hwatched : service.registry.watchId? place = some task.id) : task.stopRequested = false := by
  by_contra hstop
  exact balanced.watchId?_ne hmem (by simpa using hstop) place hwatched

theorem Due.map {change : Task → Task} (due : service.Due place)
    (hkeeps : ∀ task ∈ service.tasks, (change task).id = task.id ∧ (change task).place = task.place)
    (hdue : ∀ task ∈ service.tasks, service.registry.watchId? place = some task.id → task.Due →
      (change task).Due) :
    Due { service with tasks := service.tasks.map change } place := by
  obtain ⟨task, hmem, hplace, hwatched, hdueTask⟩ := due
  obtain ⟨hid, hplace'⟩ := hkeeps task hmem
  exact ⟨change task, List.mem_map_of_mem hmem, hplace'.trans hplace, hid.symm ▸ hwatched,
    hdue task hmem hwatched hdueTask⟩

theorem Balanced.work_poll (balanced : service.Balanced handles) {task : Task}
    (hmem : task ∈ service.tasks) (now : Nat) :
    service.work (.poll task.id now) =
      service.modifyTask task.id fun _ => (task.step service.debounce.millis now).2 := by
  simp only [Service.work, Work.move, Usage.apply, task?_of_mem balanced.ids hmem, poll_snd]

/-- What is due stays due whatever the tasks do, until it is published. -/
theorem Balanced.due_work (balanced : service.Balanced handles) (due : service.Due place)
    (work : Work) :
    (service.work work).Due place ∨ service.published? work = some place := by
  cases work with
  | report id event =>
    refine .inl (due.map (fun task _ => ?_) fun task _ _ hdue => ?_)
    · by_cases h : task.id = id <;> simp [h, Task.receive]
    · split
      · exact Task.Due.enqueue hdue [some event]
      · exact hdue
  | observe changes =>
    refine .inl (due.map (fun task _ => ?_) fun task _ _ hdue => ?_)
    · by_cases h : task.state.isTerminal <;> simp [h]
    · split
      · exact hdue
      · exact Task.Due.enqueue hdue _
  | leave id =>
    refine .inl ?_
    simp only [Service.work, Work.move, Usage.apply]
    cases h : service.task? id with
    | none => exact due
    | some task =>
      cases hended : task.state.isTerminal with
      | false => simpa [hended] using due
      | true => simpa [hended, balanced.leave_eq (mem_of_task? h).1 hended] using due
  | poll id now =>
    cases hpolled : service.task? id with
    | none =>
      have hsame : service.work (.poll id now) = service := by
        simp only [Service.work, Work.move, Usage.apply, hpolled]
      exact .inl (hsame.symm ▸ due)
    | some polled =>
      obtain ⟨hpolledMem, rfl⟩ := mem_of_task? hpolled
      have hwork := balanced.work_poll hpolledMem now
      obtain ⟨task, hmem, hplace, hwatched, hdue⟩ := due
      by_cases hid : task.id = polled.id
      · obtain rfl : task = polled := List.inj_on_of_nodup_map balanced.ids hmem hpolledMem hid
        rcases Task.due_step hdue (balanced.sound task hmem) (balanced.runs hmem hwatched)
          service.debounce.millis now with hpublished | hlater
        · exact .inr (by simp [published?, hpolled, hpublished, hplace])
        · obtain ⟨hid', hplace', -⟩ := task.step_keeps service.debounce.millis now
          refine .inl ⟨(task.step service.debounce.millis now).2, ?_, hplace'.trans hplace,
            ?_, hlater⟩
          · rw [hwork]
            exact List.mem_map.2 ⟨task, hmem, if_pos rfl⟩
          · rw [hwork, hid']
            exact hwatched
      · refine .inl ⟨task, ?_, hplace, ?_, hdue⟩
        · rw [hwork]
          exact List.mem_map.2 ⟨task, hmem, if_neg hid⟩
        · rw [hwork]
          exact hwatched

/-- A task that takes an event from its queue leaves less to do. -/
theorem Balanced.workload_work_lt (balanced : service.Balanced handles) {task : Task}
    (hmem : task ∈ service.tasks) {now : Nat}
    (hshorter : (task.step service.debounce.millis now).2.queue.length < task.queue.length) :
    (service.work (.poll task.id now)).workload < service.workload := by
  rw [balanced.work_poll hmem]
  simp only [workload, modifyTask, List.length_map, List.length_flatMap, List.map_map]
  refine Nat.add_lt_add_right (List.sum_lt_sum _ _ (fun other hother => ?_) ⟨task, hmem, ?_⟩) _
  · by_cases hid : other.id = task.id
    · obtain rfl : other = task := List.inj_on_of_nodup_map balanced.ids hother hmem hid
      simpa using hshorter.le
    · simp [hid]
  · simpa using hshorter

/-- A report of an event of a watched file makes its change due. -/
theorem Balanced.due_report (balanced : service.Balanced handles) {id : Nat} {event : PlatformEvent}
    (hwatched : service.registry.watchId? place = some id) (hconcerns : event.concerns place) :
    (service.work (.report id event)).Due place := by
  obtain ⟨task, hmem, rfl, rfl, -⟩ := balanced.served place id hwatched
  exact ⟨task.receive event, List.mem_map.2 ⟨task, hmem, if_pos rfl⟩, rfl, hwatched,
    .inr ⟨event, by simp [Task.receive], hconcerns⟩⟩

/-- Where a watch continues, what is due with it continues. -/
theorem Continues.due (continues : service.Continues after) (balanced : service.Balanced handles)
    (hwatched : after.registry.watchId? place ≠ none) (due : service.Due place) :
    after.Due place := by
  obtain ⟨task, hmem, hplace, hbefore, hdue⟩ := due
  obtain ⟨id, hafter⟩ := Option.ne_none_iff_exists'.1 hwatched
  obtain ⟨rfl, kept, hkept, hkept', -⟩ := continues place task.id id hbefore hafter
  rw [task?_of_mem balanced.ids hmem] at hkept
  obtain rfl := Option.some.inj hkept
  exact ⟨task, (mem_of_task? hkept').1, hplace, hafter, hdue⟩

end Service

end Watch

namespace Exchange

/-- An exchange whose only listener is the channel of the program, with the events that are in
it. -/
structure Forwards (exchange : Exchange) (events : List ChangeEvent) : Prop where
  registrations : exchange.notifier.registrations =
    [⟨0, .configurationChanged, none, .channel 0, []⟩]
  receivers : exchange.receivers = [(Course.channel, ⟨0, events⟩)]

variable {exchange : Exchange} {events : List ChangeEvent}

theorem forwards_start : (empty.openChannel Course.channel none).Forwards [] :=
  ⟨rfl, rfl⟩

/-- What is published comes to the channel, behind what is there. -/
theorem Forwards.publish (forwards : exchange.Forwards events) (event : ChangeEvent) :
    (exchange.publish event).2.Forwards (events ++ [event]) := by
  obtain ⟨type, path, time⟩ := event
  cases type
  have haudience : exchange.notifier.audience ⟨.configurationChanged, path, time⟩ =
      [.channel 0] := by
    simp [Notifier.audience, forwards.registrations, Registration.accepts]
  constructor
  · simpa [Exchange.publish, publishNested, nestingLimit, haudience, callAll, call, send] using
      forwards.registrations
  · simp [Exchange.publish, publishNested, nestingLimit, haudience, callAll, call, send,
      forwards.receivers]

/-- What is received is the oldest event of the channel. -/
theorem Forwards.take? (forwards : exchange.Forwards events) :
    match events with
    | [] => exchange.take? Course.channel = none
    | event :: rest => ∃ after, exchange.take? Course.channel = some (event, after) ∧
        after.Forwards rest := by
  have hreceiver : exchange.receiver? Course.channel = some ⟨0, events⟩ := by
    simp [receiver?, forwards.receivers]
  cases events with
  | nil => simp [Exchange.take?, hreceiver]
  | cons event rest =>
    simp only [Exchange.take?, hreceiver]
    exact ⟨_, rfl, forwards.registrations, by simp [forwards.receivers]⟩

end Exchange

end CredentialWatch
