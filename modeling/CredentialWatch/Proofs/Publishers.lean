import CredentialWatch.Proofs.Ownership
import CredentialWatch.Proofs.WatchRuns

/-!
# Who publishes a file, and when

What is noted of a task determines whether it has a change pending: it has one from the first event
of its file that it consumes until it publishes. A task publishes only as long as it is live, and it
is live only as long as one of its handles is open; no other live task has the same file.
-/
namespace CredentialWatch.Watch

section Notes

/-- Where an element stands in a list that ends in a certain one. -/
theorem concat_eq_middle {α : Type} {list before after : List α} {last middle : α}
    (h : list ++ [last] = before ++ middle :: after) :
    (after = [] ∧ before = list ∧ middle = last) ∨
      ∃ rest, after = rest ++ [last] ∧ list = before ++ middle :: rest := by
  rcases List.eq_nil_or_concat after with rfl | ⟨rest, last', rfl⟩
  · obtain ⟨hlist, hlast⟩ := List.append_inj' h rfl
    exact .inl ⟨rfl, hlist.symm, (List.cons.inj hlast).1.symm⟩
  · rw [List.concat_eq_append, ← List.cons_append, ← List.append_assoc] at h
    obtain ⟨hlist, hlast⟩ := List.append_inj' h rfl
    exact .inr ⟨rest, by rw [List.concat_eq_append, hlast], hlist⟩

/-- A change becomes outstanding when an event of the file is consumed, and stays so until it is
published. -/
theorem outstanding_append {notes : List Note} {note? : Option Note} {id : Nat} {place : Place} :
    Outstanding (notes ++ note?.toList) id place ↔
      (∃ event, note? = some (.consumed id event) ∧ event.concerns place) ∨
        Outstanding notes id place ∧ ∀ other, note? ≠ some (.published id other) := by
  cases note? with
  | none => simp
  | some note =>
    constructor
    · rintro ⟨before, event, after, h, hconcerns, hsince⟩
      rcases concat_eq_middle h with ⟨-, -, rfl⟩ | ⟨rest, rfl, hnotes⟩
      · exact .inl ⟨event, rfl, hconcerns⟩
      · refine .inr ⟨⟨before, event, rest, hnotes, hconcerns, ?_⟩, ?_⟩
        · exact fun other hmem => hsince other (List.mem_append_left _ hmem)
        · intro other hnote
          exact hsince other (by simp [Option.some.inj hnote])
    · rintro (⟨event, hnote, hconcerns⟩ |
        ⟨⟨before, event, after, rfl, hconcerns, hsince⟩, hnote⟩)
      · rw [hnote]
        exact ⟨notes, event, [], rfl, hconcerns, by simp⟩
      · refine ⟨before, event, after ++ [note], by simp, hconcerns, ?_⟩
        intro other hmem
        rcases List.mem_append.1 hmem with hmem | hmem
        · exact hsince other hmem
        · exact hnote other (congrArg some (List.mem_singleton.1 hmem).symm)

/-- A note of a task, which publishes no other file than its own. -/
def Note.IsOf (note : Note) (task : Task) : Prop :=
  note.id = task.id ∧ ∀ id place, note = .published id place → place = task.place

end Notes

section Succession

/-- What becomes of the tasks of a service when something may be noted of one of them: they go on
with a change pending if they should, and those that are new have none. -/
structure Succession (note? : Option Note) (before after : List Task) : Prop where
  kept : ∀ task ∈ before, ∃ later ∈ after, later.id = task.id ∧ later.place = task.place
  origin : ∀ later ∈ after,
    (∃ task ∈ before, later.id = task.id ∧ later.place = task.place ∧
      (later.pending = true ↔
        (∃ event, note? = some (.consumed task.id event) ∧ event.concerns task.place) ∨
          task.pending = true ∧ ∀ place, note? ≠ some (.published task.id place))) ∨
    later.pending = false ∧ ∀ task ∈ before, task.id ≠ later.id

namespace Succession

variable {tasks : List Task}

theorem map {change : Task → Task} (h : ∀ task, (change task).id = task.id ∧
    (change task).place = task.place ∧ (change task).pending = task.pending) :
    Succession none tasks (tasks.map change) where
  kept := fun task htask => ⟨change task, List.mem_map_of_mem htask, (h task).1, (h task).2.1⟩
  origin := by
    intro later hlater
    obtain ⟨task, htask, rfl⟩ := List.mem_map.1 hlater
    obtain ⟨hid, hplace, hpending⟩ := h task
    exact .inl ⟨task, htask, hid, hplace, by simp [hpending]⟩

theorem refl (tasks : List Task) : Succession none tasks tasks := by
  have h : Succession none tasks (tasks.map id) := map fun _ => ⟨rfl, rfl, rfl⟩
  rwa [List.map_id] at h

theorem concat {task : Task} (hpending : task.pending = false)
    (hfresh : ∀ other ∈ tasks, other.id ≠ task.id) : Succession none tasks (tasks ++ [task]) where
  kept := fun other hother => ⟨other, List.mem_append_left _ hother, rfl, rfl⟩
  origin := by
    intro later hlater
    rcases List.mem_append.1 hlater with hlater | hlater
    · exact .inl ⟨later, hlater, rfl, rfl, by simp⟩
    · rw [List.mem_singleton.1 hlater]
      exact .inr ⟨hpending, hfresh⟩

/-- The turn of one task. -/
theorem turn {service : Service} {handles : List Handle} (orderly : service.Orderly handles)
    {task : Task} (htask : task ∈ service.tasks) (now : Nat) :
    Succession (task.note? service.debounce.millis now) service.tasks
      (service.poll now task).2.tasks := by
  have hkeeps := task.step_keeps service.debounce.millis now
  constructor
  · intro other hother
    refine ⟨_, List.mem_map_of_mem hother, ?_⟩
    by_cases h : other.id = task.id
    · rw [if_pos h, orderly.task_unique hother htask h]
      exact ⟨hkeeps.1, hkeeps.2.1⟩
    · rw [if_neg h]
      exact ⟨rfl, rfl⟩
  · intro later hlater
    obtain ⟨other, hother, rfl⟩ := List.mem_map.1 hlater
    refine .inl ⟨other, hother, ?_⟩
    by_cases h : other.id = task.id
    · rw [if_pos h, orderly.task_unique hother htask h]
      exact ⟨hkeeps.1, hkeeps.2.1, Task.pending_step⟩
    · rw [if_neg h]
      have hnote : ∀ note, note.id = other.id →
          task.note? service.debounce.millis now ≠ some note :=
        fun note hid hnote => h (hid.symm.trans (Task.id_of_note? hnote))
      refine ⟨rfl, rfl, fun hpending => .inr ⟨hpending, fun place => hnote _ rfl⟩, ?_⟩
      rintro (⟨event, hevent, -⟩ | ⟨hpending, -⟩)
      · exact absurd hevent (hnote _ rfl)
      · exact hpending

end Succession

theorem Usage.release_succession (usage : Usage) (index : Nat) :
    Succession none usage.service.tasks (usage.release index).service.tasks := by
  unfold Usage.release
  split
  · exact .refl _
  · rename_i handle _
    rcases usage.service.tasks_release handle with h | h
    · rw [h]
      exact .refl _
    · rw [h]
      refine .map fun task => ?_
      by_cases hid : task.id = handle.id <;> simp [hid, Task.requestStop]

theorem Usage.Orderly.succession {usage : Usage} (orderly : usage.Orderly)
    (occurrence : Occurrence) :
    Succession (usage.note? occurrence) usage.service.tasks
      (usage.undergo occurrence).service.tasks := by
  cases occurrence with
  | failure id =>
    refine Succession.map fun task => ?_
    by_cases h : task.id = id <;> simp [h, Task.fail]
  | move move =>
    cases move with
    | watch platform files path now =>
      simp only [Usage.undergo, Usage.apply, Usage.note?]
      split
      · exact .refl _
      · rename_i handle after h
        obtain ⟨place, ⟨entry, -, -, rfl⟩ | ⟨-, -, rfl⟩⟩ :=
          Service.Orderly.watchOn_cases orderly h
        · exact .refl _
        · exact .concat rfl fun task htask => (Service.Orderly.below orderly task htask).ne
    | stop index => exact usage.release_succession index
    | drop index => exact usage.release_succession index
    | report id event =>
      refine Succession.map fun task => ?_
      by_cases h : task.id = id <;> simp [h, Task.receive]
    | observe changes =>
      refine Succession.map fun task => ?_
      by_cases h : task.state.isTerminal <;> simp [h]
    | poll id now =>
      simp only [Usage.undergo, Usage.apply, Usage.note?]
      cases h : usage.service.task? id with
      | none => exact .refl _
      | some task => exact .turn orderly (Service.mem_of_task? h).1 now
    | leave id =>
      simp only [Usage.undergo, Usage.apply, Usage.note?]
      split
      · exact .refl _
      · split <;> exact .refl _

end Succession

/-- A note is made of a task that takes a turn. -/
theorem Usage.exists_turn {usage : Usage} {occurrence : Occurrence} {note : Note}
    (h : usage.note? occurrence = some note) :
    ∃ task ∈ usage.service.tasks, ∃ now,
      task.note? usage.service.debounce.millis now = some note := by
  cases occurrence with
  | failure => cases h
  | move move =>
    cases move with
    | poll id now =>
      obtain ⟨task, htask, hnote⟩ := Option.bind_eq_some_iff.1 h
      exact ⟨task, (Service.mem_of_task? htask).1, now, hnote⟩
    | watch | stop | drop | report | observe | leave => cases h

/-- A task publishes its own file, and only while it is live and has a change pending. -/
theorem Usage.exists_publisher {usage : Usage} {occurrence : Occurrence} {id : Nat} {place : Place}
    (h : usage.note? occurrence = some (.published id place)) :
    ∃ task ∈ usage.service.tasks, task.id = id ∧ task.place = place ∧ task.pending = true ∧
      task.Live := by
  obtain ⟨task, htask, now, hnote⟩ := usage.exists_turn h
  obtain ⟨hid, hplace, hpending, hstop, hrunning⟩ := Task.published_step hnote
  refine ⟨task, htask, hid, hplace, hpending, hstop, fun hfailed => hrunning ?_⟩
  rw [hfailed]
  rfl

namespace Record

/-- What the notes of a record say about the tasks of its service. -/
structure Faithful (record : Record) : Prop where
  orderly : record.usage.Orderly
  authors : ∀ note ∈ record.notes, ∃ task ∈ record.usage.service.tasks, note.IsOf task
  pending : ∀ task ∈ record.usage.service.tasks,
    task.pending = true ↔ Outstanding record.notes task.id task.place
  due : ∀ before id place after, record.notes = before ++ .published id place :: after →
    Outstanding before id place

namespace Faithful

variable {record : Record}

theorem start (debounce : Duration) : (Record.start debounce).Faithful where
  orderly := Service.orderly_start debounce
  authors := by simp [Record.start]
  pending := by simp [Record.start, Usage.start, Service.ofDebounce]
  due := by simp [Record.start]

/-- A watch that has just started has nothing outstanding, since no note bears its number. -/
theorem not_outstanding (faithful : record.Faithful) {id : Nat} {place : Place}
    (hfresh : ∀ task ∈ record.usage.service.tasks, task.id ≠ id) :
    ¬ Outstanding record.notes id place := by
  rintro ⟨before, event, after, hnotes, -⟩
  obtain ⟨task, htask, hid, -⟩ := faithful.authors (.consumed id event) (by simp [hnotes])
  exact hfresh task htask hid.symm

/-- Every note has its task, be it an old note or the one of an occurrence. -/
theorem exists_author (faithful : record.Faithful) {occurrence : Occurrence} {note : Note}
    (hnote : note ∈ (record.take occurrence).notes) :
    ∃ task ∈ record.usage.service.tasks, note.IsOf task := by
  rcases List.mem_append.1 hnote with hnote | hnote
  · exact faithful.authors note hnote
  · have hnote : record.usage.note? occurrence = some note := Option.mem_toList.1 hnote
    obtain ⟨task, htask, now, hturn⟩ := Usage.exists_turn hnote
    refine ⟨task, htask, Task.id_of_note? hturn, ?_⟩
    rintro id place rfl
    exact (Task.published_step hturn).2.1.symm

theorem pending_take (faithful : record.Faithful) (occurrence : Occurrence) {later : Task}
    (hlater : later ∈ (record.take occurrence).usage.service.tasks) :
    later.pending = true ↔
      Outstanding (record.take occurrence).notes later.id later.place := by
  rw [Record.take, outstanding_append]
  rcases (faithful.orderly.succession occurrence).origin later hlater with
    ⟨task, htask, hid, hplace, hpending⟩ | ⟨hnone, hfresh⟩
  · rw [hpending, faithful.pending task htask, hid, hplace]
  · have hnote : ∀ note, note.id = later.id → record.usage.note? occurrence ≠ some note := by
      intro note hid hnote
      obtain ⟨task, htask, now, hturn⟩ := Usage.exists_turn hnote
      exact hfresh task htask ((Task.id_of_note? hturn).symm.trans hid)
    simp [hnone, faithful.not_outstanding hfresh, hnote (.consumed later.id _) rfl]

theorem due_take (faithful : record.Faithful) (occurrence : Occurrence) {before after : List Note}
    {id : Nat} {place : Place}
    (h : (record.take occurrence).notes = before ++ .published id place :: after) :
    Outstanding before id place := by
  simp only [Record.take] at h
  cases hnote : record.usage.note? occurrence with
  | none =>
    rw [hnote, Option.toList_none, List.append_nil] at h
    exact faithful.due before id place after h
  | some note =>
    rw [hnote] at h
    rcases concat_eq_middle h with ⟨-, rfl, rfl⟩ | ⟨rest, -, hnotes⟩
    · obtain ⟨task, htask, rfl, rfl, hpending, -⟩ := Usage.exists_publisher hnote
      exact (faithful.pending task htask).1 hpending
    · exact faithful.due before id place rest hnotes

/-- What one occurrence preserves. -/
theorem take (faithful : record.Faithful) (occurrence : Occurrence) :
    (record.take occurrence).Faithful where
  orderly := faithful.orderly.undergo occurrence
  authors := by
    intro note hnote
    obtain ⟨task, htask, hid, hplace⟩ := faithful.exists_author hnote
    obtain ⟨later, hlater, hlaterId, hlaterPlace⟩ :=
      (faithful.orderly.succession occurrence).kept task htask
    exact ⟨later, hlater, hid.trans hlaterId.symm,
      fun id place h => (hplace id place h).trans hlaterPlace.symm⟩
  pending := fun _ => faithful.pending_take occurrence
  due := fun _ _ _ _ => faithful.due_take occurrence

/-- What a whole run preserves. -/
theorem run (faithful : record.Faithful) (occurrences : List Occurrence) :
    (record.run occurrences).Faithful := by
  induction occurrences generalizing record with
  | nil => exact faithful
  | cons occurrence rest ih => exact ih (faithful.take occurrence)

end Faithful

end Record

section Closing

/-- A watch whose handles have all been released. -/
structure Usage.Closed (usage : Usage) (id : Nat) : Prop where
  known : ∃ task ∈ usage.service.tasks, task.id = id
  released : ∀ handle ∈ usage.handles, handle.id = id → handle.released = true

namespace Usage.Closed

variable {usage : Usage} {id : Nat}

theorem shares_eq (closed : usage.Closed id) : shares usage.handles id = 0 := by
  refine Nat.eq_zero_of_not_pos fun h => ?_
  obtain ⟨handle, hmem, hopen, hid⟩ := shares_pos_iff.1 h
  rw [closed.released handle hmem hid] at hopen
  cases hopen

/-- The task of a closed watch is live no more. -/
theorem not_live (closed : usage.Closed id) (orderly : usage.Orderly) {task : Task}
    (htask : task ∈ usage.service.tasks) (hid : task.id = id) : ¬ task.Live := by
  intro live
  have := Service.Orderly.shares_pos orderly htask live
  rw [hid, closed.shares_eq] at this
  exact Nat.lt_irrefl 0 this

theorem release (closed : usage.Closed id) (index : Nat) :
    ∀ handle ∈ (usage.release index).handles, handle.id = id → handle.released = true := by
  unfold Usage.release
  split
  · exact closed.released
  · rename_i handle hget
    intro later hmem hid
    rcases List.mem_or_eq_of_mem_set hmem with hmem | rfl
    · exact closed.released later hmem hid
    · by_cases h : handle.released <;> simp [Service.release, h]

/-- A closed watch stays closed: no one can join it, and no other watch takes its number. -/
theorem undergo (closed : usage.Closed id) (orderly : usage.Orderly) (occurrence : Occurrence) :
    (usage.undergo occurrence).Closed id := by
  obtain ⟨task, htask, rfl⟩ := closed.known
  obtain ⟨later, hlater, hid, -⟩ := (orderly.succession occurrence).kept task htask
  refine ⟨⟨later, hlater, hid⟩, ?_⟩
  cases occurrence with
  | failure => exact closed.released
  | move move =>
    cases move with
    | watch platform files path now =>
      simp only [Usage.undergo, Usage.apply]
      split
      · exact closed.released
      · rename_i handle after h
        intro other hmem hid
        rcases List.mem_append.1 hmem with hmem | hmem
        · exact closed.released other hmem hid
        · rw [List.mem_singleton.1 hmem] at hid
          obtain ⟨place, ⟨entry, hentry, rfl, -⟩ | ⟨-, rfl, -⟩⟩ :=
            Service.Orderly.watchOn_cases orderly h
          · obtain ⟨hcount, hpos⟩ := Service.Orderly.counted orderly place entry hentry
            have hid : entry.id = task.id := hid
            rw [hcount, hid, closed.shares_eq] at hpos
            exact absurd hpos (Nat.lt_irrefl 0)
          · exact absurd hid.symm (Service.Orderly.below orderly task htask).ne
    | stop index => exact closed.release index
    | drop index => exact closed.release index
    | report | observe => exact closed.released
    | poll id now =>
      simp only [Usage.undergo, Usage.apply]
      split <;> exact closed.released
    | leave id =>
      simp only [Usage.undergo, Usage.apply]
      split
      · exact closed.released
      · split <;> exact closed.released

end Usage.Closed

/-- A closed watch publishes nothing more, whatever happens. -/
theorem Record.silent_run {record : Record} {id : Nat} (orderly : record.usage.Orderly)
    (closed : record.usage.Closed id) (future : List Occurrence) :
    ∃ later, (record.run future).notes = record.notes ++ later ∧
      ∀ place, .published id place ∉ later := by
  induction future generalizing record with
  | nil => exact ⟨[], (List.append_nil _).symm, by simp⟩
  | cons occurrence rest ih =>
    obtain ⟨later, hlater, hsilent⟩ :=
      @ih (record.take occurrence) (orderly.undergo occurrence)
        (closed.undergo orderly occurrence)
    refine ⟨(record.usage.note? occurrence).toList ++ later, ?_, ?_⟩
    · rw [← List.append_assoc]
      exact hlater
    · intro place hmem
      rcases List.mem_append.1 hmem with hmem | hmem
      · obtain ⟨task, htask, hid, -, -, live⟩ :=
          Usage.exists_publisher (Option.mem_toList.1 hmem)
        exact closed.not_live orderly htask hid live
      · exact hsilent place hmem

end Closing

/-- Where the platform does not fail, a usage stays balanced. -/
theorem Record.balanced_run {record : Record} (balanced : record.usage.Balanced)
    {occurrences : List Occurrence} (hsound : ∀ id, Occurrence.failure id ∉ occurrences) :
    (record.run occurrences).usage.Balanced := by
  induction occurrences generalizing record with
  | nil => exact balanced
  | cons occurrence rest ih =>
    obtain ⟨hfirst, hrest⟩ : (∀ id, .failure id ≠ occurrence) ∧ ∀ id, .failure id ∉ rest :=
      ⟨fun id h => hsound id (h ▸ List.mem_cons_self),
        fun id h => hsound id (List.mem_cons_of_mem _ h)⟩
    cases occurrence with
    | move move => exact @ih (record.take (.move move)) (balanced.apply move) hrest
    | failure id => exact absurd rfl (hfirst id)

/-- A watch adds at most a task, for a file that no live task has. -/
theorem Usage.Orderly.tasks_watch {usage : Usage} (orderly : usage.Orderly) (platform : Platform)
    (files : FileSystem) (path : String) (now : Nat) :
    ∃ started, (usage.apply (.watch platform files path now)).service.tasks =
        usage.service.tasks ++ started ∧
      ∀ task ∈ started, ∀ other ∈ usage.service.tasks, other.place = task.place → ¬ other.Live := by
  simp only [Usage.apply]
  split
  · exact ⟨[], (List.append_nil _).symm, by simp⟩
  · rename_i handle after h
    obtain ⟨place, ⟨entry, -, -, rfl⟩ | ⟨hfree, -, rfl⟩⟩ := Service.Orderly.watchOn_cases orderly h
    · exact ⟨[], (List.append_nil _).symm, by simp⟩
    · refine ⟨_, rfl, fun task htask => ?_⟩
      rw [List.mem_singleton.1 htask]
      exact hfree

/-- A release leaves the tasks alone, or it releases the last handle on a watch and tells its task
to stop. -/
theorem Usage.Orderly.tasks_release {usage : Usage} (orderly : usage.Orderly) (index : Nat) :
    (usage.release index).service.tasks = usage.service.tasks ∨
      ∃ id, shares (usage.release index).handles id = 0 ∧
        (usage.release index).service.tasks =
          (usage.service.modifyTask id Task.requestStop).tasks := by
  unfold Usage.release
  split
  · exact .inl rfl
  · rename_i handle hget
    by_cases hopen : handle.released
    · exact .inl (by simp [Service.release, hopen])
    · have hopen : handle.released = false := by simpa using hopen
      rcases Service.Orderly.release_cases orderly hopen with
        ⟨-, hrelease⟩ | ⟨-, ⟨hlast, hrelease⟩ | ⟨-, hrelease⟩⟩
      · exact .inl (by rw [hrelease])
      · refine .inr ⟨handle.id, ?_, by rw [hrelease]; rfl⟩
        rw [hrelease]
        simp [shares_set_released hget hopen, hlast]
      · exact .inl (by rw [hrelease])

/-- Whatever happens to a service in use, failures of the platform included, and however late its
tasks take their turns: a file has at most one task that is live, which is the one of its entry, and
where the platform has not failed a task is live unless it has been told to stop. A stop or a drop
releases its handle, and no other one; once the handles on a watch have all been released its task
publishes nothing more, whatever it has in its queue. A publication is of the task's own file, is
made while one of the task's handles is open, and is due to an event of the file that the task has
consumed since it published last; from such an event on a change is pending until it is published.
Handles that join a watch, or leave it to others, change no task. -/
theorem one_live_publisher (debounce : Duration) (past : List Occurrence) :
    let record := (Record.start debounce).run past
    let usage := record.usage
    let tasks := usage.service.tasks
    let registry := usage.service.registry
    (∀ task ∈ tasks, task.Live → registry.watchId? task.place = some task.id) ∧
    (∀ left ∈ tasks, ∀ right ∈ tasks, left.Live → right.Live → left.place = right.place →
      left = right) ∧
    (∀ place id, registry.watchId? place = some id →
      ∃ task ∈ tasks, task.id = id ∧ task.place = place ∧ task.stopRequested = false) ∧
    ((∀ id, Occurrence.failure id ∉ past) →
      ∀ task ∈ tasks, task.stopRequested = false → task.Live) ∧
    (∀ (index : Nat) (handle : Handle), usage.handles[index]? = some handle → ∀ move,
      (usage.apply move).handles[index]? =
        some { handle with released := handle.released || move.releases index }) ∧
    (∀ task ∈ tasks,
      (∀ handle ∈ usage.handles, handle.id = task.id → handle.released = true) →
      ∀ future, ∃ later, (record.run future).notes = record.notes ++ later ∧
        ∀ place, .published task.id place ∉ later) ∧
    (∀ occurrence id place, usage.note? occurrence = some (.published id place) →
      registry.watchId? place = some id ∧
        ∃ handle ∈ usage.handles, handle.released = false ∧ handle.id = id ∧ handle.place = place) ∧
    (∀ before id place after, record.notes = before ++ .published id place :: after →
      Outstanding before id place ∧ ∃ task ∈ tasks, task.id = id ∧ task.place = place) ∧
    (∀ task ∈ tasks, task.pending = true ↔ Outstanding record.notes task.id task.place) ∧
    (∀ platform files path now, ∃ started,
      (usage.apply (.watch platform files path now)).service.tasks = tasks ++ started ∧
        ∀ task ∈ started, ∀ other ∈ tasks, other.place = task.place → ¬ other.Live) ∧
    (∀ index, (usage.release index).service.tasks = tasks ∨
      ∃ id, shares (usage.release index).handles id = 0 ∧
        (usage.release index).service.tasks =
          (usage.service.modifyTask id Task.requestStop).tasks) := by
  intro record usage tasks registry
  have faithful : record.Faithful := (Record.Faithful.start debounce).run past
  have orderly : usage.service.Orderly usage.handles := faithful.orderly
  refine ⟨orderly.entered, ?_, orderly.served, ?_,
    fun index handle h move => Usage.handles_apply move h, ?_, ?_, ?_, faithful.pending,
    Usage.Orderly.tasks_watch orderly, Usage.Orderly.tasks_release orderly⟩
  · intro left hleft right hright live live' hplace
    have hentered := orderly.entered left hleft live
    rw [hplace, orderly.entered right hright live'] at hentered
    exact orderly.task_unique hleft hright (Option.some.inj hentered).symm
  · intro hsound task htask hstop
    have hstart : (Record.start debounce).usage.Balanced := Service.balanced_start debounce
    have balanced : usage.service.Balanced usage.handles := Record.balanced_run hstart hsound
    exact (balanced.sound task htask).live hstop
  · intro task htask hreleased future
    exact Record.silent_run orderly ⟨⟨task, htask, rfl⟩, hreleased⟩ future
  · intro occurrence id place h
    obtain ⟨task, htask, rfl, rfl, -, live⟩ := Usage.exists_publisher h
    obtain ⟨handle, hmem, hopen, hid⟩ := shares_pos_iff.1 (orderly.shares_pos htask live)
    obtain ⟨other, hother, hotherId, hplace⟩ := orderly.known handle hmem hopen
    rw [orderly.task_unique hother htask (hotherId.trans hid)] at hplace
    exact ⟨orderly.entered task htask live, handle, hmem, hopen, hid, hplace.symm⟩
  · intro before id place after h
    obtain ⟨task, htask, hid, hplace⟩ :=
      faithful.authors (.published id place) (by rw [h]; simp)
    exact ⟨faithful.due before id place after h, task, htask, hid.symm, (hplace id place rfl).symm⟩

/-- A change is pending, an event of the file is queued and the timer has expired, but the only
handle has been released. -/
example :
    let files : FileSystem := ⟨[(["a.jks"], .file [])], [], []⟩
    let event : PlatformEvent := ⟨.modified, [["a.jks"]]⟩
    let past : List Occurrence :=
      [.move (.watch .willing files "/a.jks" 0), .move (.report 1 event), .move (.poll 1 10),
        .move (.report 1 event), .move (.stop 0), .move (.poll 1 900)]
    ((Record.start ⟨500⟩).run past).notes = [.consumed 1 event] := by
  decide +kernel

end CredentialWatch.Watch
