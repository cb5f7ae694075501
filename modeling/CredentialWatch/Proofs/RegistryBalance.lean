import CredentialWatch.Proofs.Ownership

/-!
# The registry balances the handles

The number of handles on a file is kept in three places: the entry of the file, the handles that are
not released, and the task that still runs for them. A balanced service keeps them in agreement, and
every move of its users leaves it balanced, in whatever order the moves come. Beyond the order that
its watches are always in, what makes it so is that the platform fails no task: then every handle
that is open is one on the watch of its file.
-/
namespace CredentialWatch.Watch

/-- How many handles on a file are not released. -/
def holders (handles : List Handle) (place : Place) : Nat :=
  handles.countP fun handle => !handle.released && handle.place == place

theorem holders_pos_iff {handles : List Handle} {place : Place} :
    0 < holders handles place ↔
      ∃ handle ∈ handles, handle.released = false ∧ handle.place = place := by
  simp [holders, List.countP_pos_iff]

/-- The registry counts the open handles of each file, under the number of the one task that runs
for the file. -/
structure Service.Balanced (service : Service) (handles : List Handle) : Prop where
  keyed : service.registry.Keyed
  ids : (service.tasks.map Task.id).Nodup
  below : ∀ task ∈ service.tasks, task.id < service.registry.nextId
  sound : ∀ task ∈ service.tasks, task.Sound
  counted : ∀ place entry, service.registry.find? place = some entry →
    entry.references = holders handles place ∧ 0 < entry.references
  served : ∀ place id, service.registry.watchId? place = some id →
    ∃ task ∈ service.tasks, task.id = id ∧ task.place = place ∧ task.stopRequested = false
  entered : ∀ task ∈ service.tasks, task.stopRequested = false →
    service.registry.watchId? task.place = some task.id
  held : ∀ handle ∈ handles, handle.released = false →
    service.registry.watchId? handle.place = some handle.id

namespace Service

theorem balanced_start (debounce : Duration) : (ofDebounce debounce).Balanced [] where
  keyed := Registry.keyed_empty
  ids := List.nodup_nil
  below := by simp [ofDebounce]
  sound := by simp [ofDebounce]
  counted := by simp [ofDebounce]
  served := by simp [ofDebounce]
  entered := by simp [ofDebounce]
  held := by simp

/-- Where every open handle is on the watch of its file, the handles on the file are those on the
watch. -/
theorem holders_eq_shares {service : Service} {handles : List Handle}
    (held : ∀ handle ∈ handles, handle.released = false →
      service.registry.watchId? handle.place = some handle.id) {place : Place} {id : Nat}
    (h : service.registry.watchId? place = some id)
    (hunique : ∀ other, service.registry.watchId? other = some id → other = place) :
    holders handles place = shares handles id := by
  refine List.countP_congr fun handle hmem => ?_
  simp only [Bool.and_eq_true, Bool.not_eq_true', beq_iff_eq]
  refine and_congr_right fun hopen => ⟨?_, ?_⟩
  · rintro rfl
    exact Option.some.inj ((held handle hmem hopen).symm.trans h)
  · rintro rfl
    exact hunique handle.place (held handle hmem hopen)

/-- A service in order is balanced if no task fails and every open handle is on the watch of its
file. -/
theorem Orderly.balanced {service : Service} {handles : List Handle}
    (orderly : service.Orderly handles) (sound : ∀ task ∈ service.tasks, task.Sound)
    (held : ∀ handle ∈ handles, handle.released = false →
      service.registry.watchId? handle.place = some handle.id) : service.Balanced handles where
  keyed := orderly.keyed
  ids := orderly.ids
  below := orderly.below
  sound := sound
  counted := by
    intro place entry h
    have hwatched := Registry.watchId?_eq_some_iff.2 ⟨entry, h, rfl⟩
    rw [holders_eq_shares held hwatched fun other h' => orderly.place_eq h' hwatched]
    exact orderly.counted place entry h
  served := orderly.served
  entered := fun task htask hstop => orderly.entered task htask ((sound task htask).live hstop)
  held := held

namespace Balanced

variable {service : Service} {handles : List Handle}

theorem orderly (balanced : service.Balanced handles) : service.Orderly handles where
  keyed := balanced.keyed
  ids := balanced.ids
  below := balanced.below
  running := fun task htask live => (balanced.sound task htask).running live
  known := by
    intro handle hmem hopen
    obtain ⟨task, htask, hid, hplace, -⟩ :=
      balanced.served handle.place handle.id (balanced.held handle hmem hopen)
    exact ⟨task, htask, hid, hplace⟩
  counted := by
    intro place entry h
    have hwatched := Registry.watchId?_eq_some_iff.2 ⟨entry, h, rfl⟩
    rw [← holders_eq_shares balanced.held hwatched
      fun other h' => place_of_served balanced.ids balanced.served h' hwatched]
    exact balanced.counted place entry h
  served := balanced.served
  entered := fun task htask live => balanced.entered task htask live.1

/-- The task of a watched file runs. -/
theorem taskState_eq (balanced : service.Balanced handles) {place : Place} {id : Nat}
    (h : service.registry.watchId? place = some id) : service.taskState id = .watching := by
  obtain ⟨task, htask, rfl, -, hstop⟩ := balanced.served place id h
  rw [taskState, task?_of_mem balanced.ids htask]
  exact (balanced.sound task htask).watching hstop

/-- A task that is to stop is not the task of a watched file. -/
theorem watchId?_ne (balanced : service.Balanced handles) {task : Task}
    (htask : task ∈ service.tasks) (hstop : task.stopRequested) (place : Place) :
    service.registry.watchId? place ≠ some task.id := by
  intro h
  obtain ⟨other, hother, hid, -, hrunning⟩ := balanced.served place task.id h
  rw [List.inj_on_of_nodup_map balanced.ids hother htask hid, hstop] at hrunning
  cases hrunning

/-- A file has an entry exactly if a handle on it is open. -/
theorem isSome_find?_iff (balanced : service.Balanced handles) (place : Place) :
    (service.registry.find? place).isSome ↔ 0 < holders handles place := by
  constructor
  · intro h
    obtain ⟨entry, hentry⟩ := Option.isSome_iff_exists.1 h
    obtain ⟨hcount, hpos⟩ := balanced.counted place entry hentry
    omega
  · intro h
    obtain ⟨handle, hmem, hopen, rfl⟩ := holders_pos_iff.1 h
    obtain ⟨entry, hentry, -⟩ := Registry.watchId?_eq_some_iff.1 (balanced.held handle hmem hopen)
    simp [hentry]

/-- Changes inside the tasks, as long as none is told to stop, do not touch the balance. -/
theorem mapTasks (balanced : service.Balanced handles) {change : Task → Task}
    (hkeeps : ∀ task ∈ service.tasks, (change task).id = task.id ∧
      (change task).place = task.place ∧ (change task).stopRequested = task.stopRequested)
    (hsound : ∀ task ∈ service.tasks, (change task).Sound) :
    Balanced { service with tasks := service.tasks.map change } handles := by
  refine (balanced.orderly.mapTasks hkeeps fun task htask live => ?_).balanced
    (List.forall_mem_map.2 hsound) balanced.held
  have hstop : task.stopRequested = false := (hkeeps task htask).2.2.symm.trans live.1
  exact ⟨(balanced.sound task htask).live hstop, (hsound task htask).running live⟩

theorem report (balanced : service.Balanced handles) (id : Nat) (event : PlatformEvent) :
    (service.modifyTask id fun task => task.receive event).Balanced handles := by
  apply balanced.mapTasks
  · intro task _
    by_cases h : task.id = id <;> simp [h, Task.receive]
  · intro task htask
    have sound := balanced.sound task htask
    by_cases h : task.id = id
    · simpa only [if_pos h] using sound.receive event
    · simpa only [if_neg h] using sound

theorem observe (balanced : service.Balanced handles) (changes : List FileChange) :
    (service.observe changes).Balanced handles := by
  apply balanced.mapTasks
  · intro task _
    by_cases h : task.state.isTerminal <;> simp [h]
  · intro task htask
    have sound := balanced.sound task htask
    by_cases h : task.state.isTerminal
    · simpa only [if_pos h] using sound
    · simp only [if_neg h]
      exact ⟨by simpa using sound.queue, sound.state⟩

theorem poll (balanced : service.Balanced handles) {task : Task} (htask : task ∈ service.tasks)
    (now : Nat) : (service.poll now task).2.Balanced handles := by
  have hsame : ∀ other ∈ service.tasks, other.id = task.id → other = task :=
    fun other hother => List.inj_on_of_nodup_map balanced.ids hother htask
  rw [poll_snd]
  apply balanced.mapTasks
  · intro other hother
    by_cases h : other.id = task.id
    · rw [if_pos h, hsame other hother h]
      exact task.step_keeps service.debounce.millis now
    · simp [h]
  · intro other hother
    by_cases h : other.id = task.id
    · rw [if_pos h]
      exact (balanced.sound task htask).step service.debounce.millis now
    · rw [if_neg h]
      exact balanced.sound other hother

/-- The end of a task that was to stop, however late, finds nothing of its own in the registry. -/
theorem forget_eq (balanced : service.Balanced handles) {task : Task}
    (htask : task ∈ service.tasks) (hstop : task.stopRequested) :
    service.registry.forget task.place task.id = service.registry :=
  Registry.forget_stale (balanced.watchId?_ne htask hstop task.place)

theorem leave_eq (balanced : service.Balanced handles) {task : Task}
    (htask : task ∈ service.tasks) (hended : task.state.isTerminal) :
    service.leave task = service := by
  have hstop : task.stopRequested := by
    rcases (balanced.sound task htask).state with hstate | hstop
    · simp [hstate, State.isTerminal] at hended
    · exact hstop
  simp only [Service.leave, balanced.forget_eq htask hstop]

/-- No entry is one of a watch that has ended. -/
theorem current?_eq (balanced : service.Balanced handles) (place : Place) :
    service.current? place = service.registry.find? place := by
  cases hentry : service.registry.find? place with
  | none => simp [current?, hentry]
  | some entry =>
    have hrunning := balanced.taskState_eq (Registry.watchId?_eq_some_iff.2 ⟨entry, hentry, rfl⟩)
    simp [current?, hentry, hrunning, State.isTerminal]

/-- A successful watch joins the entry of its file, or starts the file's only task under the next
number. An entry whose task has ended is never met. -/
theorem watchOn_cases (balanced : service.Balanced handles) {platform : Platform}
    {files : FileSystem} {path : String} {now : Nat} {handle : Handle} {after : Service}
    (h : service.watchOn platform files path now = .ok (handle, after)) :
    ∃ place node, files.find path = .ok (place, node) ∧
      ((∃ entry, service.registry.find? place = some entry ∧ handle = ⟨place, entry.id, false⟩ ∧
          after = { service with registry := service.registry.join place }) ∨
        (service.registry.find? place = none ∧ platform.refusal? place = none ∧
          handle = ⟨place, service.registry.nextId, false⟩ ∧
          after = { service with
            registry := (service.registry.enter place).2
            tasks := service.tasks ++
              [Task.start service.registry.nextId place service.debounce.millis now] })) := by
  simpa only [balanced.current?_eq] using Service.watchOn_cases h

/-- A successful watch leaves the service balanced, with the new handle counted. -/
theorem watchOn (balanced : service.Balanced handles) {platform : Platform} {files : FileSystem}
    {path : String} {now : Nat} {handle : Handle} {after : Service}
    (h : service.watchOn platform files path now = .ok (handle, after)) :
    after.Balanced (handles ++ [handle]) := by
  refine (balanced.orderly.watchOn h).balanced ?_ ?_
  · obtain ⟨place, node, -, ⟨entry, -, -, rfl⟩ | ⟨-, -, -, rfl⟩⟩ := balanced.watchOn_cases h
    · exact balanced.sound
    · intro task htask
      rcases List.mem_append.1 htask with htask | htask
      · exact balanced.sound task htask
      · rw [List.mem_singleton.1 htask]
        exact Task.sound_start ..
  · obtain ⟨place, node, -, ⟨entry, hentry, rfl, rfl⟩ | ⟨hfree, -, rfl, rfl⟩⟩ :=
      balanced.watchOn_cases h
    · intro handle hmem hopen
      rw [Registry.watchId?_join]
      rcases List.mem_append.1 hmem with hmem | hmem
      · exact balanced.held handle hmem hopen
      · rw [List.mem_singleton.1 hmem]
        exact Registry.watchId?_eq_some_iff.2 ⟨entry, hentry, rfl⟩
    · intro handle hmem hopen
      rw [Registry.watchId?_enter]
      rcases List.mem_append.1 hmem with hmem | hmem
      · have hheld := balanced.held handle hmem hopen
        have hne : handle.place ≠ place := by
          rintro rfl
          simp [Registry.watchId?, hfree] at hheld
        rw [if_neg hne]
        exact hheld
      · rw [List.mem_singleton.1 hmem]
        exact if_pos rfl

section Release

variable {index : Nat} {handle : Handle}

/-- When the last handle on a watch is released, no open handle is left on its file. -/
theorem place_ne_of_last (balanced : service.Balanced handles)
    (hget : handles[index]? = some handle) (hopen : handle.released = false)
    (hlast : shares handles handle.id = 1) {other : Handle}
    (hmem : other ∈ handles.set index { handle with released := true })
    (hother : other.released = false) : other.place ≠ handle.place := by
  intro hplace
  have hheld := balanced.held handle (List.mem_of_getElem? hget) hopen
  have hheld' := balanced.held other (Orderly.mem_of_mem_set_released hmem hother) hother
  rw [hplace, hheld] at hheld'
  have hpos := shares_pos_iff.2 ⟨other, hmem, hother, (Option.some.inj hheld').symm⟩
  rw [shares_set_released hget hopen, if_pos rfl] at hpos
  omega

/-- The release of a handle leaves the service balanced, whether or not it was open. -/
theorem release (balanced : service.Balanced handles) (hget : handles[index]? = some handle) :
    (service.release handle).2.Balanced (handles.set index (service.release handle).1) := by
  refine (balanced.orderly.release hget).balanced ?_ ?_
  · intro task htask
    rcases service.tasks_release handle with h | h <;> rw [h] at htask
    · exact balanced.sound task htask
    · obtain ⟨old, hold, ⟨-, rfl⟩ | ⟨-, rfl⟩⟩ := mem_modifyTask htask
      · exact ⟨(balanced.sound old hold).queue, .inr rfl⟩
      · exact balanced.sound task hold
  · by_cases hopen : handle.released
    · have hself : handles.set index handle = handles := by
        obtain ⟨hlt, rfl⟩ := List.getElem?_eq_some_iff.1 hget
        exact List.set_getElem_self hlt
      simpa [Service.release, hopen, hself] using balanced.held
    · have hopen : handle.released = false := by simpa using hopen
      intro other hother hotherOpen
      rcases balanced.orderly.release_cases hopen with
        ⟨hstale, -⟩ | ⟨-, ⟨hlast, hrelease⟩ | ⟨-, hrelease⟩⟩
      · exact absurd (balanced.held handle (List.mem_of_getElem? hget) hopen) hstale
      · rw [hrelease] at hother ⊢
        have hne := balanced.place_ne_of_last hget hopen hlast hother hotherOpen
        change (service.registry.erase handle.place).watchId? other.place = some other.id
        rw [Registry.watchId?_erase, if_neg hne]
        exact balanced.held other (Orderly.mem_of_mem_set_released hother hotherOpen) hotherOpen
      · rw [hrelease] at hother ⊢
        rw [Registry.watchId?_part]
        exact balanced.held other (Orderly.mem_of_mem_set_released hother hotherOpen) hotherOpen

end Release

end Balanced

end Service

end CredentialWatch.Watch
