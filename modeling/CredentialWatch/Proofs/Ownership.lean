import Mathlib
import CredentialWatch.Watch.Record

/-!
# Whose watch a file is

Once tasks may fail, a file can be watched anew while handles on its failed watch are still open, so
that the entry of a file counts only the handles of its own watch. What holds of every service in
use is said by the numbers of watches: a task that is live has the entry of its file, and the entry
of a file counts the open handles that bear its number.
-/
namespace CredentialWatch.Watch

/-- How many handles on a watch are not released. -/
def shares (handles : List Handle) (id : Nat) : Nat :=
  handles.countP fun handle => !handle.released && handle.id == id

theorem shares_pos_iff {handles : List Handle} {id : Nat} :
    0 < shares handles id ↔ ∃ handle ∈ handles, handle.released = false ∧ handle.id = id := by
  simp [shares, List.countP_pos_iff]

theorem shares_append_open (handles : List Handle) (place : Place) (id other : Nat) :
    shares (handles ++ [⟨place, id, false⟩]) other =
      shares handles other + if other = id then 1 else 0 := by
  by_cases h : other = id
  · simp [shares, h]
  · simp [shares, h, Ne.symm h]

/-- Releasing an open handle takes one share from its watch and none from any other. -/
theorem shares_set_released {handles : List Handle} {index : Nat} {handle : Handle}
    (hget : handles[index]? = some handle) (hopen : handle.released = false) (id : Nat) :
    shares (handles.set index { handle with released := true }) id =
      shares handles id - if id = handle.id then 1 else 0 := by
  obtain ⟨hlt, hget⟩ := List.getElem?_eq_some_iff.1 hget
  by_cases h : id = handle.id
  · simp [shares, List.countP_set hlt, hget, hopen, h]
  · simp [shares, List.countP_set hlt, hget, hopen, h, Ne.symm h]

namespace Service

/-- The number of a task names it. -/
theorem task?_of_mem {service : Service} (ids : (service.tasks.map Task.id).Nodup)
    {task : Task} (h : task ∈ service.tasks) : service.task? task.id = some task := by
  cases hfind : service.task? task.id with
  | none =>
    have := List.find?_eq_none.1 hfind task h
    simp at this
  | some found =>
    obtain ⟨hfound, hid⟩ := mem_of_task? hfind
    rw [List.inj_on_of_nodup_map ids hfound h hid]

/-- A watch that has a task is the watch of the task's file only. -/
theorem place_of_served {service : Service} (ids : (service.tasks.map Task.id).Nodup)
    (served : ∀ place id, service.registry.watchId? place = some id →
      ∃ task ∈ service.tasks, task.id = id ∧ task.place = place ∧ task.stopRequested = false)
    {place other : Place} {id : Nat} (h : service.registry.watchId? place = some id)
    (h' : service.registry.watchId? other = some id) : place = other := by
  obtain ⟨task, htask, hid, rfl, -⟩ := served place id h
  obtain ⟨task', htask', hid', rfl, -⟩ := served other id h'
  rw [List.inj_on_of_nodup_map ids htask htask' (hid.trans hid'.symm)]

/-- The watches of a service, each with the task and the handles that bear its number. -/
structure Orderly (service : Service) (handles : List Handle) : Prop where
  keyed : service.registry.Keyed
  ids : (service.tasks.map Task.id).Nodup
  below : ∀ task ∈ service.tasks, task.id < service.registry.nextId
  running : ∀ task ∈ service.tasks, task.Live → ¬ task.state.isTerminal
  known : ∀ handle ∈ handles, handle.released = false →
    ∃ task ∈ service.tasks, task.id = handle.id ∧ task.place = handle.place
  counted : ∀ place entry, service.registry.find? place = some entry →
    entry.references = shares handles entry.id ∧ 0 < entry.references
  served : ∀ place id, service.registry.watchId? place = some id →
    ∃ task ∈ service.tasks, task.id = id ∧ task.place = place ∧ task.stopRequested = false
  entered : ∀ task ∈ service.tasks, task.Live →
    service.registry.watchId? task.place = some task.id

theorem orderly_start (debounce : Duration) : (ofDebounce debounce).Orderly [] where
  keyed := Registry.keyed_empty
  ids := List.nodup_nil
  below := by simp [ofDebounce]
  running := by simp [ofDebounce]
  known := by simp
  counted := by simp [ofDebounce]
  served := by simp [ofDebounce]
  entered := by simp [ofDebounce]

namespace Orderly

variable {service : Service} {handles others : List Handle}

theorem task_unique (orderly : service.Orderly handles) {left right : Task}
    (hleft : left ∈ service.tasks) (hright : right ∈ service.tasks) (h : left.id = right.id) :
    left = right :=
  List.inj_on_of_nodup_map orderly.ids hleft hright h

/-- A watch is the watch of one file only. -/
theorem place_eq (orderly : service.Orderly handles) {place other : Place} {id : Nat}
    (h : service.registry.watchId? place = some id)
    (h' : service.registry.watchId? other = some id) : place = other :=
  place_of_served orderly.ids orderly.served h h'

/-- A live task has an open handle. -/
theorem shares_pos (orderly : service.Orderly handles) {task : Task}
    (htask : task ∈ service.tasks) (live : task.Live) : 0 < shares handles task.id := by
  obtain ⟨entry, hentry, hid⟩ :=
    Registry.watchId?_eq_some_iff.1 (orderly.entered task htask live)
  obtain ⟨hcount, hpos⟩ := orderly.counted task.place entry hentry
  rwa [hcount, hid] at hpos

/-- Only the open handles matter, and they by how many there are of each watch. -/
theorem congr (orderly : service.Orderly handles)
    (hshares : ∀ place entry, service.registry.find? place = some entry →
      shares others entry.id = shares handles entry.id)
    (hopen : ∀ handle ∈ others, handle.released = false → handle ∈ handles) :
    service.Orderly others where
  keyed := orderly.keyed
  ids := orderly.ids
  below := orderly.below
  running := orderly.running
  known := fun handle hmem h => orderly.known handle (hopen handle hmem h) h
  counted := by
    intro place entry h
    rw [hshares place entry h]
    exact orderly.counted place entry h
  served := orderly.served
  entered := orderly.entered

/-- Changes inside the tasks keep order if they bring no task back to life and tell none to stop. -/
theorem mapTasks (orderly : service.Orderly handles) {change : Task → Task}
    (hkeeps : ∀ task ∈ service.tasks, (change task).id = task.id ∧
      (change task).place = task.place ∧ (change task).stopRequested = task.stopRequested)
    (hlive : ∀ task ∈ service.tasks, (change task).Live →
      task.Live ∧ ¬ (change task).state.isTerminal) :
    Orderly { service with tasks := service.tasks.map change } handles where
  keyed := orderly.keyed
  ids := by
    have hids : service.tasks.map (Task.id ∘ change) = service.tasks.map Task.id :=
      List.map_congr_left fun task htask => (hkeeps task htask).1
    simpa only [List.map_map, hids] using orderly.ids
  below := by
    intro task htask
    obtain ⟨old, hold, rfl⟩ := List.mem_map.1 htask
    rw [(hkeeps old hold).1]
    exact orderly.below old hold
  running := by
    intro task htask live
    obtain ⟨old, hold, rfl⟩ := List.mem_map.1 htask
    exact (hlive old hold live).2
  known := by
    intro handle hmem hopen
    obtain ⟨task, htask, hid, hplace⟩ := orderly.known handle hmem hopen
    obtain ⟨hid', hplace', -⟩ := hkeeps task htask
    exact ⟨change task, List.mem_map_of_mem htask, hid'.trans hid, hplace'.trans hplace⟩
  counted := orderly.counted
  served := by
    intro place id h
    obtain ⟨task, htask, hid, hplace, hstop⟩ := orderly.served place id h
    obtain ⟨hid', hplace', hstop'⟩ := hkeeps task htask
    exact ⟨change task, List.mem_map_of_mem htask, hid'.trans hid, hplace'.trans hplace,
      hstop'.trans hstop⟩
  entered := by
    intro task htask live
    obtain ⟨old, hold, rfl⟩ := List.mem_map.1 htask
    obtain ⟨hid, hplace, -⟩ := hkeeps old hold
    rw [hid, hplace]
    exact orderly.entered old hold (hlive old hold live).1

/-- What tasks find in their queues keeps order. -/
theorem requeue (orderly : service.Orderly handles) {change : Task → Task}
    (hchange : ∀ task, ∃ queue, change task = { task with queue }) :
    Orderly { service with tasks := service.tasks.map change } handles := by
  apply orderly.mapTasks
  · intro task _
    obtain ⟨queue, h⟩ := hchange task
    rw [h]
    exact ⟨rfl, rfl, rfl⟩
  · intro task htask live
    obtain ⟨queue, h⟩ := hchange task
    rw [h] at live ⊢
    exact ⟨live, orderly.running task htask live⟩

theorem poll (orderly : service.Orderly handles) {task : Task} (htask : task ∈ service.tasks)
    (now : Nat) : (service.poll now task).2.Orderly handles := by
  rw [poll_snd]
  apply orderly.mapTasks
  · intro other hother
    by_cases h : other.id = task.id
    · rw [if_pos h, orderly.task_unique hother htask h]
      exact task.step_keeps service.debounce.millis now
    · simp [h]
  · intro other hother
    by_cases h : other.id = task.id
    · rw [if_pos h, orderly.task_unique hother htask h]
      exact Task.live_step (orderly.running task htask) service.debounce.millis now
    · rw [if_neg h]
      exact fun live => ⟨live, orderly.running other hother live⟩

/-- The entry of a watch goes when its task is live no more. -/
theorem withdraw (orderly : service.Orderly handles) {place : Place} {id : Nat}
    (hwatched : service.registry.watchId? place = some id) {change : Task → Task}
    (hkeeps : ∀ task, (change task).id = task.id ∧ (change task).place = task.place)
    (hothers : ∀ task ∈ service.tasks, task.id ≠ id → change task = task)
    (hdead : ∀ task ∈ service.tasks, task.id = id → ¬ (change task).Live)
    (hshares : ∀ other, other ≠ id → shares others other = shares handles other)
    (hopen : ∀ handle ∈ others, handle.released = false → handle ∈ handles) :
    Orderly
      { service with
        registry := service.registry.erase place
        tasks := service.tasks.map change } others := by
  have hother : ∀ other number, other ≠ place →
      service.registry.watchId? other = some number → number ≠ id := by
    rintro other number hne h rfl
    exact hne (orderly.place_eq h hwatched)
  have hids : service.tasks.map (Task.id ∘ change) = service.tasks.map Task.id :=
    List.map_congr_left fun task _ => (hkeeps task).1
  refine
    { keyed := orderly.keyed.erase place
      ids := by simpa only [List.map_map, hids] using orderly.ids
      below := ?_
      running := ?_
      known := ?_
      counted := ?_
      served := ?_
      entered := ?_ }
  · intro task htask
    obtain ⟨old, hold, rfl⟩ := List.mem_map.1 htask
    rw [(hkeeps old).1]
    exact orderly.below old hold
  · intro task htask live
    obtain ⟨old, hold, rfl⟩ := List.mem_map.1 htask
    have hne : old.id ≠ id := fun h => hdead old hold h live
    rw [hothers old hold hne] at live ⊢
    exact orderly.running old hold live
  · intro handle hmem h
    obtain ⟨task, htask, hid, hplace⟩ := orderly.known handle (hopen handle hmem h) h
    exact ⟨change task, List.mem_map_of_mem htask, (hkeeps task).1.trans hid,
      (hkeeps task).2.trans hplace⟩
  · intro other entry h
    rw [Registry.find?_erase] at h
    split at h
    · cases h
    · rename_i hne
      have hwatched' := Registry.watchId?_eq_some_iff.2 ⟨entry, h, rfl⟩
      rw [hshares entry.id (hother other entry.id hne hwatched')]
      exact orderly.counted other entry h
  · intro other number h
    rw [Registry.watchId?_erase] at h
    split at h
    · cases h
    · rename_i hne
      obtain ⟨task, htask, hid, hplace, hstop⟩ := orderly.served other number h
      have hnumber := hother other number hne h
      have hsame := hothers task htask (hid ▸ hnumber)
      exact ⟨task, hsame ▸ List.mem_map_of_mem htask, hid, hplace, hstop⟩
  · intro task htask live
    obtain ⟨old, hold, rfl⟩ := List.mem_map.1 htask
    have hne : old.id ≠ id := fun h => hdead old hold h live
    rw [hothers old hold hne] at live ⊢
    have hentered := orderly.entered old hold live
    have hplace : old.place ≠ place := by
      intro h
      rw [h, hwatched] at hentered
      exact hne (Option.some.inj hentered).symm
    rw [Registry.watchId?_erase, if_neg hplace]
    exact hentered

/-- A task that has ended leaves. -/
theorem leave (orderly : service.Orderly handles) {task : Task} (htask : task ∈ service.tasks)
    (hended : task.state.isTerminal) : (service.leave task).Orderly handles := by
  by_cases hwatched : service.registry.watchId? task.place = some task.id
  · obtain ⟨entry, hentry, hid⟩ := Registry.watchId?_eq_some_iff.1 hwatched
    have hleave : service.leave task = { service with
        registry := service.registry.erase task.place
        tasks := service.tasks.map fun task => task } := by
      simp [Service.leave, Registry.forget, hentry, hid]
    rw [hleave]
    refine orderly.withdraw hwatched (fun _ => ⟨rfl, rfl⟩) (fun _ _ _ => rfl) ?_
      (fun _ _ => rfl) fun _ hmem _ => hmem
    intro other hother hid live
    rw [orderly.task_unique hother htask hid] at live
    exact orderly.running task htask live hended
  · rw [Service.leave, Registry.forget_stale hwatched]
    exact orderly

/-- A live task has the entry of its file, whose watch has not ended. -/
theorem current?_of_live (orderly : service.Orderly handles) {task : Task}
    (htask : task ∈ service.tasks) (live : task.Live) :
    service.current? task.place ≠ none := by
  obtain ⟨entry, hentry, hid⟩ :=
    Registry.watchId?_eq_some_iff.1 (orderly.entered task htask live)
  have hstate : service.taskState entry.id = task.state := by
    rw [taskState, hid, task?_of_mem orderly.ids htask]
    rfl
  simp [current?, hentry, hstate, orderly.running task htask live]

/-- A successful watch joins the entry of its file, whose task has not ended; or it starts a task
for a file with no live one. -/
theorem watchOn_cases (orderly : service.Orderly handles) {platform : Platform}
    {files : FileSystem} {path : String} {now : Nat} {handle : Handle} {after : Service}
    (h : service.watchOn platform files path now = .ok (handle, after)) :
    ∃ place,
      (∃ entry, service.registry.find? place = some entry ∧ handle = ⟨place, entry.id, false⟩ ∧
        after = { service with registry := service.registry.join place }) ∨
      (∀ task ∈ service.tasks, task.place = place → ¬ task.Live) ∧
        handle = ⟨place, service.registry.nextId, false⟩ ∧
        after = { service with
          registry := (service.registry.enter place).2
          tasks := service.tasks ++
            [Task.start service.registry.nextId place service.debounce.millis now] } := by
  obtain ⟨place, node, -, ⟨entry, hcurrent, hjoined⟩ | ⟨hfree, -, hstarted⟩⟩ :=
    Service.watchOn_cases h
  · exact ⟨place, .inl ⟨entry, find?_of_current? hcurrent, hjoined⟩⟩
  · refine ⟨place, .inr ⟨?_, hstarted⟩⟩
    rintro task htask rfl live
    exact orderly.current?_of_live htask live hfree

theorem join (orderly : service.Orderly handles) {place : Place} {entry : Entry}
    (hentry : service.registry.find? place = some entry) :
    Orderly { service with registry := service.registry.join place }
      (handles ++ [⟨place, entry.id, false⟩]) where
  keyed := orderly.keyed.join place
  ids := orderly.ids
  below := orderly.below
  running := orderly.running
  known := by
    intro handle hmem hopen
    rcases List.mem_append.1 hmem with hmem | hmem
    · exact orderly.known handle hmem hopen
    · rw [List.mem_singleton.1 hmem]
      obtain ⟨task, htask, hid, hplace, -⟩ := orderly.served place entry.id
        (Registry.watchId?_eq_some_iff.2 ⟨entry, hentry, rfl⟩)
      exact ⟨task, htask, hid, hplace⟩
  counted := by
    intro other found hfound
    rw [Registry.find?_join] at hfound
    rw [shares_append_open]
    by_cases h : other = place
    · subst other
      obtain ⟨hcount, hpos⟩ := orderly.counted place entry hentry
      simp only [hentry, if_true, Option.map_some, Option.some.injEq] at hfound
      subst found
      simp [hcount]
    · rw [if_neg h] at hfound
      have hne : found.id ≠ entry.id := fun hid => h (orderly.place_eq
        (Registry.watchId?_eq_some_iff.2 ⟨found, hfound, hid⟩)
        (Registry.watchId?_eq_some_iff.2 ⟨entry, hentry, rfl⟩))
      simpa [hne] using orderly.counted other found hfound
  served := by
    intro other id h
    rw [Registry.watchId?_join] at h
    exact orderly.served other id h
  entered := by
    intro task htask live
    rw [Registry.watchId?_join]
    exact orderly.entered task htask live

/-- No handle bears the number of the next watch. -/
theorem shares_nextId (orderly : service.Orderly handles) :
    shares handles service.registry.nextId = 0 := by
  refine Nat.eq_zero_of_not_pos fun h => ?_
  obtain ⟨handle, hmem, hopen, hid⟩ := shares_pos_iff.1 h
  obtain ⟨task, htask, htaskId, -⟩ := orderly.known handle hmem hopen
  have := orderly.below task htask
  omega

theorem enter (orderly : service.Orderly handles) {place : Place}
    (hfree : ∀ task ∈ service.tasks, task.place = place → ¬ task.Live) (now : Nat) :
    Orderly
      { service with
        registry := (service.registry.enter place).2
        tasks := service.tasks ++
          [Task.start service.registry.nextId place service.debounce.millis now] }
      (handles ++ [⟨place, service.registry.nextId, false⟩]) where
  keyed := orderly.keyed.enter place
  ids := by
    have hfresh : service.registry.nextId ∉ service.tasks.map Task.id := by
      intro h
      obtain ⟨task, htask, hid⟩ := List.mem_map.1 h
      have := orderly.below task htask
      omega
    simpa [Task.start, List.nodup_append, orderly.ids] using hfresh
  below := by
    intro task htask
    rw [Registry.nextId_enter]
    rcases List.mem_append.1 htask with htask | htask
    · exact (orderly.below task htask).trans (Nat.lt_succ_self _)
    · rw [List.mem_singleton.1 htask]
      exact Nat.lt_succ_self _
  running := by
    intro task htask live
    rcases List.mem_append.1 htask with htask | htask
    · exact orderly.running task htask live
    · rw [List.mem_singleton.1 htask]
      simp [Task.start, State.isTerminal]
  known := by
    intro handle hmem hopen
    rcases List.mem_append.1 hmem with hmem | hmem
    · obtain ⟨task, htask, h⟩ := orderly.known handle hmem hopen
      exact ⟨task, List.mem_append_left _ htask, h⟩
    · rw [List.mem_singleton.1 hmem]
      exact ⟨_, List.mem_append_right _ (List.mem_singleton_self _), rfl, rfl⟩
  counted := by
    intro other found hfound
    rw [Registry.find?_enter] at hfound
    rw [shares_append_open]
    by_cases h : other = place
    · subst other
      simp only [if_true, Option.some.injEq] at hfound
      simp [← hfound, orderly.shares_nextId]
    · rw [if_neg h] at hfound
      obtain ⟨task, htask, hid, -, -⟩ := orderly.served other found.id
        (Registry.watchId?_eq_some_iff.2 ⟨found, hfound, rfl⟩)
      have hne : found.id ≠ service.registry.nextId := by
        have := orderly.below task htask
        omega
      simpa [hne] using orderly.counted other found hfound
  served := by
    intro other id h
    rw [Registry.watchId?_enter] at h
    by_cases hother : other = place
    · subst other
      simp only [if_true, Option.some.injEq] at h
      exact ⟨_, List.mem_append_right _ (List.mem_singleton_self _), h, rfl, rfl⟩
    · rw [if_neg hother] at h
      obtain ⟨task, htask, hrest⟩ := orderly.served other id h
      exact ⟨task, List.mem_append_left _ htask, hrest⟩
  entered := by
    intro task htask live
    rw [Registry.watchId?_enter]
    rcases List.mem_append.1 htask with htask | htask
    · rw [if_neg fun hplace => hfree task htask hplace live]
      exact orderly.entered task htask live
    · rw [List.mem_singleton.1 htask]
      exact if_pos rfl

theorem watchOn (orderly : service.Orderly handles) {platform : Platform} {files : FileSystem}
    {path : String} {now : Nat} {handle : Handle} {after : Service}
    (h : service.watchOn platform files path now = .ok (handle, after)) :
    after.Orderly (handles ++ [handle]) := by
  obtain ⟨place, ⟨entry, hentry, rfl, rfl⟩ | ⟨hfree, rfl, rfl⟩⟩ := orderly.watchOn_cases h
  · exact orderly.join hentry
  · exact orderly.enter hfree now

section Release

variable {index : Nat} {handle : Handle}

/-- The release of an open handle takes it from the entry of its watch, ends the watch if it was the
last one, and does nothing if the watch is not that of the file any more. -/
theorem release_cases (orderly : service.Orderly handles) (hopen : handle.released = false) :
    service.registry.watchId? handle.place ≠ some handle.id ∧
        service.release handle = ({ handle with released := true }, service) ∨
      service.registry.watchId? handle.place = some handle.id ∧
        (shares handles handle.id = 1 ∧
            service.release handle = ({ handle with released := true },
              modifyTask { service with registry := service.registry.erase handle.place } handle.id
                Task.requestStop) ∨
          1 < shares handles handle.id ∧
            service.release handle = ({ handle with released := true },
              { service with registry := service.registry.part handle.place })) := by
  by_cases hwatched : service.registry.watchId? handle.place = some handle.id
  · refine .inr ⟨hwatched, ?_⟩
    obtain ⟨entry, hentry, hid⟩ := Registry.watchId?_eq_some_iff.1 hwatched
    obtain ⟨hcount, hpos⟩ := orderly.counted handle.place entry hentry
    rw [hid] at hcount
    by_cases hlast : entry.references ≤ 1
    · refine .inl ⟨by omega, ?_⟩
      simp [Service.release, hopen, ← hid, Registry.release_last hentry hlast]
    · refine .inr ⟨by omega, ?_⟩
      simp [Service.release, hopen, ← hid, Registry.release_shared hentry hlast]
  · refine .inl ⟨hwatched, ?_⟩
    simp [Service.release, hopen, Registry.release_stale hwatched]

/-- When a handle is released the open ones are among those that were there. -/
theorem mem_of_mem_set_released {later : Handle}
    (hmem : later ∈ handles.set index { handle with released := true })
    (hopen : later.released = false) : later ∈ handles := by
  rcases List.mem_or_eq_of_mem_set hmem with hmem | rfl
  · exact hmem
  · cases hopen

theorem part (orderly : service.Orderly handles) (hget : handles[index]? = some handle)
    (hopen : handle.released = false)
    (hwatched : service.registry.watchId? handle.place = some handle.id)
    (hshared : 1 < shares handles handle.id) :
    Orderly { service with registry := service.registry.part handle.place }
      (handles.set index { handle with released := true }) where
  keyed := orderly.keyed.part handle.place
  ids := orderly.ids
  below := orderly.below
  running := orderly.running
  known := fun later hmem h => orderly.known later (mem_of_mem_set_released hmem h) h
  counted := by
    intro place found hfound
    rw [Registry.find?_part] at hfound
    rw [shares_set_released hget hopen]
    by_cases h : place = handle.place
    · subst place
      obtain ⟨entry, hentry, rfl⟩ := Option.map_eq_some_iff.1 (by simpa using hfound)
      obtain ⟨hcount, hpos⟩ := orderly.counted handle.place entry hentry
      have hid : entry.id = handle.id := by simpa [Registry.watchId?, hentry] using hwatched
      rw [hid] at hcount
      simp only [hcount, hid, if_true, true_and]
      omega
    · rw [if_neg h] at hfound
      have hne : found.id ≠ handle.id := fun hid => h (orderly.place_eq
        (Registry.watchId?_eq_some_iff.2 ⟨found, hfound, hid⟩) hwatched)
      simpa [hne] using orderly.counted place found hfound
  served := by
    intro place id h
    rw [Registry.watchId?_part] at h
    exact orderly.served place id h
  entered := by
    intro task htask live
    rw [Registry.watchId?_part]
    exact orderly.entered task htask live

theorem finish (orderly : service.Orderly handles) (hget : handles[index]? = some handle)
    (hopen : handle.released = false)
    (hwatched : service.registry.watchId? handle.place = some handle.id) :
    Orderly
      (modifyTask { service with registry := service.registry.erase handle.place } handle.id
        Task.requestStop)
      (handles.set index { handle with released := true }) := by
  refine orderly.withdraw hwatched ?_ (fun _ _ hne => if_neg hne) ?_ ?_
    fun _ => mem_of_mem_set_released
  · intro task
    by_cases h : task.id = handle.id <;> simp [h, Task.requestStop]
  · intro task _ hid live
    rw [if_pos hid] at live
    cases live.1
  · intro other hne
    rw [shares_set_released hget hopen, if_neg hne, Nat.sub_zero]

theorem release (orderly : service.Orderly handles) (hget : handles[index]? = some handle) :
    (service.release handle).2.Orderly (handles.set index (service.release handle).1) := by
  by_cases hopen : handle.released
  · have hself : handles.set index handle = handles := by
      obtain ⟨hlt, rfl⟩ := List.getElem?_eq_some_iff.1 hget
      exact List.set_getElem_self hlt
    simpa [Service.release, hopen, hself] using orderly
  · have hopen : handle.released = false := by simpa using hopen
    rcases orderly.release_cases hopen with
      ⟨hstale, hrelease⟩ | ⟨hwatched, ⟨-, hrelease⟩ | ⟨hshared, hrelease⟩⟩
    · rw [hrelease]
      refine orderly.congr ?_ fun _ => mem_of_mem_set_released
      intro place entry hentry
      have hne : entry.id ≠ handle.id := by
        intro hid
        obtain ⟨task, htask, htaskId, hplace, -⟩ := orderly.served place handle.id
          (Registry.watchId?_eq_some_iff.2 ⟨entry, hentry, hid⟩)
        obtain ⟨task', htask', htaskId', hplace'⟩ :=
          orderly.known handle (List.mem_of_getElem? hget) hopen
        rw [orderly.task_unique htask htask' (htaskId.trans htaskId'.symm), hplace'] at hplace
        subst hplace
        exact hstale (Registry.watchId?_eq_some_iff.2 ⟨entry, hentry, hid⟩)
      rw [shares_set_released hget hopen, if_neg hne, Nat.sub_zero]
    · rw [hrelease]
      exact orderly.finish hget hopen hwatched
    · rw [hrelease]
      exact orderly.part hget hopen hwatched hshared

end Release

end Orderly

end Service

namespace Usage

/-- The watches of a usage are in order with the handles that it has handed out. -/
def Orderly (usage : Usage) : Prop := usage.service.Orderly usage.handles

namespace Orderly

variable {usage : Usage}

theorem release (orderly : usage.Orderly) (index : Nat) : (usage.release index).Orderly := by
  unfold Usage.release
  split
  · exact orderly
  · rename_i handle hget
    exact Service.Orderly.release orderly hget

theorem apply (orderly : usage.Orderly) (move : Move) : (usage.apply move).Orderly := by
  cases move with
  | watch platform files path now =>
    simp only [Usage.apply]
    split
    · exact orderly
    · rename_i handle service h
      exact Service.Orderly.watchOn orderly h
  | stop index => exact orderly.release index
  | drop index => exact orderly.release index
  | report id event =>
    refine Service.Orderly.requeue orderly fun task => ?_
    by_cases h : task.id = id
    · exact ⟨_, if_pos h⟩
    · exact ⟨task.queue, if_neg h⟩
  | observe changes =>
    refine Service.Orderly.requeue orderly fun task => ?_
    by_cases h : task.state.isTerminal
    · exact ⟨task.queue, if_pos h⟩
    · exact ⟨_, if_neg h⟩
  | poll id now =>
    simp only [Usage.apply]
    split
    · exact orderly
    · rename_i task htask
      exact Service.Orderly.poll orderly (Service.mem_of_task? htask).1 now
  | leave id =>
    simp only [Usage.apply]
    split
    · exact orderly
    · rename_i task htask
      split
      · rename_i hended
        exact Service.Orderly.leave orderly (Service.mem_of_task? htask).1 hended
      · exact orderly

/-- What one occurrence preserves. -/
theorem undergo (orderly : usage.Orderly) (occurrence : Occurrence) :
    (usage.undergo occurrence).Orderly := by
  cases occurrence with
  | move move => exact orderly.apply move
  | failure id =>
    refine Service.Orderly.requeue orderly fun task => ?_
    by_cases h : task.id = id
    · exact ⟨_, if_pos h⟩
    · exact ⟨task.queue, if_neg h⟩

end Orderly

end Usage

end CredentialWatch.Watch
