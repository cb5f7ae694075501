import CredentialWatch.Proofs.Publishers

/-!
# What handles report

A handle reports by its own flag first and by the state of its task else, which it shares with the
other handles on the watch. As long as a handle is open its task is the one of the file's entry and
runs, so that nothing but its own release shows. The task ends when it has been told to, which is
when its last handle is released; then nobody can join it, and a later watch of the file has a task
of its own.
-/
namespace CredentialWatch.Watch

section Tasks

variable {service after : Service}

/-- What is found under a number after changes inside the tasks that keep their numbers. -/
theorem Service.taskState_map {change : Task → Task} (h : after.tasks = service.tasks.map change)
    (hid : ∀ task, (change task).id = task.id) (id : Nat) :
    after.taskState id =
      ((service.task? id).map fun task => (change task).state).getD .stopped := by
  simp only [taskState, task?, h, List.find?_map, Function.comp_def, hid, Option.map_map]

theorem Service.taskState_eq_of_map {change : Task → Task}
    (h : after.tasks = service.tasks.map change)
    (hkeeps : ∀ task, (change task).id = task.id ∧ (change task).state = task.state) (id : Nat) :
    after.taskState id = service.taskState id := by
  rw [taskState_map h fun task => (hkeeps task).1]
  simp only [hkeeps, taskState]

/-- Tasks that start later do not hide one that is there. -/
theorem Service.taskState_append {started : List Task} (h : after.tasks = service.tasks ++ started)
    {id : Nat} (hknown : ∃ task ∈ service.tasks, task.id = id) :
    after.taskState id = service.taskState id := by
  obtain ⟨task, htask, hid⟩ := hknown
  have hsome : (service.task? id).isSome := by
    rw [task?, List.find?_isSome]
    exact ⟨task, htask, by simpa using hid⟩
  obtain ⟨found, hfound⟩ := Option.isSome_iff_exists.1 hsome
  have happended : after.task? id = some found := by
    simp only [task?] at hfound ⊢
    rw [h, List.find?_append, hfound]
    rfl
  rw [taskState, taskState, happended, hfound]

/-- A step of a task that the platform does not fail leaves its state, or ends it because it was
told to stop. -/
theorem Task.Sound.state_step {task : Task} (sound : task.Sound) (debounce now : Nat) :
    (task.step debounce now).2.state = task.state ∨
      task.stopRequested = true ∧ (task.step debounce now).2.state = .stopped := by
  have turn := task.step_turn debounce now
  generalize task.step debounce now = result at turn ⊢
  cases turn with
  | stop _ requested => exact .inr ⟨requested, rfl⟩
  | fail rest _ _ next => exact absurd (next ▸ List.mem_cons_self) sound.queue
  | idle | take | skip | publish | wait => exact .inl rfl

end Tasks

namespace Usage

variable {usage : Usage} {index : Nat} {handle : Handle}

/-- Of a whole run a handle shows whether it has been released in it. -/
theorem handles_run (moves : List Move) (h : usage.handles[index]? = some handle) :
    (usage.run moves).handles[index]? =
      some { handle with released := handle.released || moves.any (·.releases index) } := by
  induction moves generalizing usage handle with
  | nil => simpa [run] using h
  | cons move rest ih =>
    have hrest := ih (handles_apply move h)
    rwa [List.any_cons, ← Bool.or_assoc]

end Usage

/-- An open handle reports that its file is watched, a released one that it is stopped. -/
theorem Service.Balanced.handleState_eq {service : Service} {handles : List Handle}
    (balanced : service.Balanced handles) {handle : Handle} (hmem : handle ∈ handles) :
    service.handleState handle = if handle.released then .stopped else .watching := by
  unfold handleState
  split
  · rfl
  · rename_i hopen
    exact balanced.taskState_eq (balanced.held handle hmem (by simpa using hopen))

namespace Usage

variable {usage : Usage} {id : Nat}

/-- A move leaves the state of a known watch, or it is a step of its task. -/
theorem taskState_apply (orderly : usage.Orderly) (move : Move)
    (hknown : ∃ task ∈ usage.service.tasks, task.id = id) :
    (usage.apply move).service.taskState id = usage.service.taskState id ∨
      ∃ task now, usage.service.task? id = some task ∧
        (usage.apply move).service.taskState id =
          (task.step usage.service.debounce.millis now).2.state := by
  have hrelease : ∀ index, (usage.release index).service.taskState id =
      usage.service.taskState id := by
    intro index
    rcases orderly.tasks_release index with h | ⟨stopped, -, h⟩
    · exact Service.taskState_append (h.trans (List.append_nil _).symm) hknown
    · refine Service.taskState_eq_of_map h (fun task => ?_) id
      by_cases hid : task.id = stopped <;> simp [hid, Task.requestStop]
  cases move with
  | watch platform files path now =>
    obtain ⟨started, h, -⟩ := orderly.tasks_watch platform files path now
    exact .inl (Service.taskState_append h hknown)
  | stop index => exact .inl (hrelease index)
  | drop index => exact .inl (hrelease index)
  | report receiver event =>
    refine .inl (Service.taskState_eq_of_map rfl (fun task => ?_) id)
    by_cases hid : task.id = receiver <;> simp [hid, Task.receive]
  | observe changes =>
    refine .inl (Service.taskState_eq_of_map rfl (fun task => ?_) id)
    by_cases hended : task.state.isTerminal <;> simp [hended]
  | poll polled now =>
    simp only [Usage.apply]
    split
    · exact .inl rfl
    · rename_i task htask
      obtain ⟨hmem, rfl⟩ := Service.mem_of_task? htask
      have htasks : (usage.service.poll now task).2.tasks = usage.service.tasks.map fun other =>
          if other.id = task.id then (task.step usage.service.debounce.millis now).2
          else other := rfl
      have hstate := Service.taskState_map htasks
        (fun other => by
          by_cases hid : other.id = task.id
          · simp [hid, (task.step_keeps usage.service.debounce.millis now).1]
          · simp [hid]) id
      by_cases hid : task.id = id
      · subst hid
        exact .inr ⟨task, now, htask, by simpa [htask] using hstate⟩
      · refine .inl (hstate.trans ?_)
        cases hfind : usage.service.task? id with
        | none => simp [Service.taskState, hfind]
        | some found =>
          have hne : ¬ found.id = task.id := by
            rw [(Service.mem_of_task? hfind).2]
            exact fun h => hid h.symm
          simp [Service.taskState, hfind, hne]
  | leave left =>
    simp only [Usage.apply]
    split
    · exact .inl rfl
    · split <;> exact .inl rfl

/-- A watch that has been stopped, with all its handles released. -/
structure Finished (usage : Usage) (id : Nat) : Prop extends usage.Closed id where
  state : usage.service.taskState id = .stopped

theorem Finished.apply (finished : usage.Finished id) (orderly : usage.Orderly) (move : Move) :
    (usage.apply move).Finished id where
  toClosed := finished.toClosed.undergo orderly (.move move)
  state := by
    rcases taskState_apply orderly move finished.known with h | ⟨task, now, htask, h⟩
    · rw [h, finished.state]
    · have hstopped : task.state = .stopped := by
        simpa [Service.taskState, htask] using finished.state
      rw [h, Task.step, if_pos (by rw [hstopped]; rfl)]
      exact hstopped

theorem Finished.run (finished : usage.Finished id) (orderly : usage.Orderly) (moves : List Move) :
    (usage.run moves).Finished id := by
  induction moves generalizing usage with
  | nil => exact finished
  | cons move rest ih => exact ih (finished.apply orderly move) (orderly.apply move)

/-- A watch that goes on does so, or comes to its end. -/
theorem watching_or_finished_apply (balanced : usage.Balanced) (move : Move)
    (h : usage.service.taskState id = .watching ∨ usage.Finished id) :
    (usage.apply move).service.taskState id = .watching ∨ (usage.apply move).Finished id := by
  have orderly : usage.Orderly := Service.Balanced.orderly balanced
  rcases h with hwatching | finished
  · have hknown : ∃ task ∈ usage.service.tasks, task.id = id := by
      cases htask : usage.service.task? id with
      | none => simp [Service.taskState, htask] at hwatching
      | some task => exact ⟨task, Service.mem_of_task? htask⟩
    rcases taskState_apply orderly move hknown with hsame | ⟨task, now, htask, hstep⟩
    · exact .inl (hsame.trans hwatching)
    · obtain ⟨hmem, rfl⟩ := Service.mem_of_task? htask
      have sound := Service.Balanced.sound balanced task hmem
      have hstate : task.state = .watching := by
        simpa [Service.taskState, htask] using hwatching
      rcases sound.state_step usage.service.debounce.millis now with hsame | ⟨hstop, hended⟩
      · exact .inl (by rw [hstep, hsame, hstate])
      · have closed : usage.Closed task.id := by
          refine ⟨hknown, fun handle hhandle hid => ?_⟩
          by_contra hopen
          have hheld := Service.Balanced.held balanced handle hhandle (by simpa using hopen)
          exact Service.Balanced.watchId?_ne balanced hmem hstop handle.place (hid ▸ hheld)
        exact .inr ⟨closed.undergo orderly (.move move), hstep.trans hended⟩
  · exact .inr (finished.apply orderly move)

theorem watch_of_mem_release {index : Nat} {handle : Handle}
    (h : handle ∈ (usage.release index).handles) :
    ∃ old ∈ usage.handles, handle.id = old.id ∧ handle.place = old.place := by
  unfold Usage.release at h
  split at h
  · exact ⟨handle, h, rfl, rfl⟩
  · rename_i found hfound
    rcases List.mem_or_eq_of_mem_set h with h | rfl
    · exact ⟨handle, h, rfl, rfl⟩
    · refine ⟨found, List.mem_of_getElem? hfound, ?_⟩
      by_cases hopen : found.released <;> simp [Service.release, hopen]

/-- After whatever happens a handle is one on a watch that had a handle before, or it is new and
open. -/
theorem open_or_known (orderly : usage.Orderly) (occurrence : Occurrence) {handle : Handle}
    (h : handle ∈ (usage.undergo occurrence).handles) :
    handle.released = false ∨ ∃ old ∈ usage.handles, handle.id = old.id ∧
      handle.place = old.place := by
  cases occurrence with
  | failure => exact .inr ⟨handle, h, rfl, rfl⟩
  | move move =>
    cases move with
    | watch platform files path now =>
      simp only [Usage.undergo, Usage.apply] at h
      split at h
      · exact .inr ⟨handle, h, rfl, rfl⟩
      · rename_i new service hwatch
        rcases List.mem_append.1 h with h | h
        · exact .inr ⟨handle, h, rfl, rfl⟩
        · obtain ⟨place, ⟨entry, -, rfl, -⟩ | ⟨-, rfl, -⟩⟩ :=
            Service.Orderly.watchOn_cases orderly hwatch
          · exact .inl (List.mem_singleton.1 h ▸ rfl)
          · exact .inl (List.mem_singleton.1 h ▸ rfl)
    | stop index => exact .inr (watch_of_mem_release h)
    | drop index => exact .inr (watch_of_mem_release h)
    | report | observe => exact .inr ⟨handle, h, rfl, rfl⟩
    | poll id now =>
      refine .inr ⟨handle, ?_, rfl, rfl⟩
      simp only [Usage.undergo, Usage.apply] at h
      split at h <;> exact h
    | leave id =>
      refine .inr ⟨handle, ?_, rfl, rfl⟩
      simp only [Usage.undergo, Usage.apply] at h
      split at h
      · exact h
      · split at h <;> exact h

/-- The watch of every handle goes on or has come to its end. -/
def Reported (usage : Usage) : Prop :=
  ∀ handle ∈ usage.handles, usage.service.taskState handle.id = .watching ∨ usage.Finished handle.id

theorem Reported.apply (reported : usage.Reported) (balanced : usage.Balanced) (move : Move) :
    (usage.apply move).Reported := by
  intro handle hmem
  rcases open_or_known (Service.Balanced.orderly balanced) (.move move) hmem with
    hopen | ⟨old, hold, hid, -⟩
  · have later : (usage.apply move).Balanced := balanced.apply move
    exact .inl (Service.Balanced.taskState_eq later (Service.Balanced.held later handle hmem hopen))
  · rw [hid]
    exact watching_or_finished_apply balanced move (reported old hold)

theorem Reported.run (reported : usage.Reported) (balanced : usage.Balanced) (moves : List Move) :
    (usage.run moves).Reported := by
  induction moves generalizing usage with
  | nil => exact reported
  | cons move rest ih => exact ih (reported.apply balanced move) (balanced.apply move)

end Usage

/-- A handle is open when it is handed out, and reports that its file is watched. From then on it
keeps its file and its watch, and reports the same until it is first released itself and that it is
stopped ever after; so nothing that happens to other handles, on this file or others, shows in it.
Whoever follows the state of a watch finds it watching until all handles on the watch have been
released, and stopped at some time after; then it stays so, and nobody gets another handle on this
watch, whatever is watched again. -/
theorem handles_report_their_own_release (debounce : Duration) (past : List Move) :
    let usage := (Usage.start debounce).run past
    (∀ platform files path now handle service,
      usage.service.watchOn platform files path now = .ok (handle, service) →
        (usage.apply (.watch platform files path now)).handles = usage.handles ++ [handle] ∧
          handle.released = false ∧ service.handleState handle = .watching) ∧
    (∀ (index : Nat) (handle : Handle), usage.handles[index]? = some handle → ∀ future : List Move,
      let later := { handle with released := handle.released || future.any (·.releases index) }
      (usage.run future).handles[index]? = some later ∧
        (usage.run future).service.handleState later =
          if later.released then .stopped else .watching) ∧
    (∀ handle ∈ usage.handles, usage.service.taskState handle.id = .watching ∨
      usage.service.taskState handle.id = .stopped ∧ ∀ future : List Move,
        (usage.run future).service.taskState handle.id = .stopped ∧
          ∀ other ∈ (usage.run future).handles, other.id = handle.id → other.released = true) := by
  intro usage
  have hstart : (Usage.start debounce).Balanced := Service.balanced_start debounce
  have balanced : usage.Balanced := hstart.run past
  have reported : usage.Reported :=
    Usage.Reported.run (by simp [Usage.Reported, Usage.start]) hstart past
  refine ⟨?_, ?_, ?_⟩
  · intro platform files path now handle service h
    obtain ⟨-, hopen, -⟩ := Service.Balanced.watchOn_spec balanced h
    have later := Service.Balanced.watchOn balanced h
    refine ⟨by simp only [Usage.apply, h], hopen, ?_⟩
    rw [later.handleState_eq (List.mem_append_right _ (List.mem_singleton_self handle)), hopen]
    rfl
  · intro index handle h future later
    have hlater : (usage.run future).handles[index]? = some later := Usage.handles_run future h
    exact ⟨hlater, Service.Balanced.handleState_eq (balanced.run future)
      (List.mem_of_getElem? hlater)⟩
  · intro handle hmem
    refine (reported handle hmem).imp_right fun finished => ⟨finished.state, fun future => ?_⟩
    have later := finished.run (Service.Balanced.orderly balanced) future
    exact ⟨later.state, later.released⟩

/-- Of two handles on a file the first one is stopped twice and the second one is dropped. The file
is watched again before the task of the first watch comes to its end, which it does only then; the
new handle does not notice, and whoever follows the first watch finds it stopped whatever comes
after. -/
theorem stopped_beside_a_new_watch :
    let files : FileSystem := ⟨[(["d"], .directory), (["d", "store.jks"], .file [])], ["d"], []⟩
    let past : List Move :=
      [.watch .willing files "store.jks" 0, .watch .willing files "/d/store.jks" 1]
    let released : List Move := [.stop 0, .stop 0, .drop 1]
    let future : List Move :=
      released ++ [.watch .willing files "store.jks" 20, .poll 1 30, .leave 1]
    let usage := (Usage.start ⟨500⟩).run past
    let later := usage.run future
    usage.handles = [⟨["d", "store.jks"], 1, false⟩, ⟨["d", "store.jks"], 1, false⟩] ∧
      (usage.run released).service.taskState 1 = .watching ∧
      later.handles.map later.service.handleState = [.stopped, .stopped, .watching] ∧
      ∀ moves : List Move, (later.run moves).service.taskState 1 = .stopped := by
  intro files past released future usage later
  have hhandles : usage.handles =
      [⟨["d", "store.jks"], 1, false⟩, ⟨["d", "store.jks"], 1, false⟩] := by
    decide +kernel
  have hnow : later.handles = [⟨["d", "store.jks"], 1, true⟩, ⟨["d", "store.jks"], 1, true⟩,
      ⟨["d", "store.jks"], 2, false⟩] := by
    decide +kernel
  have hrunning : (usage.run released).service.taskState 1 = .watching := by decide +kernel
  have hended : later.service.taskState 1 = .stopped := by decide +kernel
  have hstart : (Usage.start ⟨500⟩).run past = usage := rfl
  have hboth : (Usage.start ⟨500⟩).run (past ++ future) = later := List.foldl_append ..
  have hlater : usage.run future = later := rfl
  clear_value later usage
  obtain ⟨-, hreports, -⟩ := handles_report_their_own_release ⟨500⟩ past
  obtain ⟨-, hnew, hwatches⟩ := handles_report_their_own_release ⟨500⟩ (past ++ future)
  rw [hstart] at hreports
  rw [hboth] at hnew hwatches
  have stopped : later.service.handleState ⟨["d", "store.jks"], 1, true⟩ = .stopped := by
    rw [← hlater]
    exact (hreports 0 ⟨["d", "store.jks"], 1, false⟩ (by rw [hhandles]; rfl) future).2
  have opened : later.service.handleState ⟨["d", "store.jks"], 2, false⟩ = .watching :=
    (hnew 2 ⟨["d", "store.jks"], 2, false⟩ (by rw [hnow]; rfl) []).2
  refine ⟨hhandles, hrunning, by simp [hnow, stopped, opened], fun moves => ?_⟩
  rcases hwatches ⟨["d", "store.jks"], 1, true⟩ (by simp [hnow]) with hwatching | ⟨-, hstays⟩
  · rw [hended] at hwatching
    cases hwatching
  · exact (hstays moves).1

end CredentialWatch.Watch
