import CredentialWatch.Proofs.RegistryBalance

/-!
# Open handles determine the registry

What a balanced service has in its registry depends on nothing but the handles that are open. So
handles that were given out and are released again leave no trace there, and a service that has
given out handles differs from what it was by them alone.
-/
namespace CredentialWatch.Watch

namespace Service

/-- The tasks of a service are still there, unless they were told to stop. -/
def Spares (before after : Service) : Prop :=
  ∀ task ∈ before.tasks, task ∈ after.tasks ∨ task.requestStop ∈ after.tasks

namespace Spares

variable {first second third : Service}

theorem refl (service : Service) : service.Spares service := fun _ h => .inl h

theorem trans (left : first.Spares second) (right : second.Spares third) : first.Spares third := by
  intro task h
  rcases left task h with h | h
  · exact right task h
  · exact .inr ((right _ h).elim id id)

theorem release (service : Service) (handle : Handle) :
    service.Spares (service.release handle).2 := by
  intro task h
  rcases service.tasks_release handle with hsame | hstopped
  · rw [hsame]
    exact .inl h
  · rw [hstopped]
    by_cases hid : task.id = handle.id
    · exact .inr (List.mem_map.2 ⟨task, h, if_pos hid⟩)
    · exact .inl (List.mem_map.2 ⟨task, h, if_neg hid⟩)

end Spares

namespace Balanced

variable {service other : Service} {handles : List Handle}

/-- Only the open handles matter to a balance. -/
theorem congr (balanced : service.Balanced handles) {others : List Handle}
    (hcount : ∀ place, holders others place = holders handles place)
    (hopen : ∀ handle ∈ others, handle.released = false → handle ∈ handles) :
    service.Balanced others where
  keyed := balanced.keyed
  ids := balanced.ids
  below := balanced.below
  sound := balanced.sound
  counted := by
    intro place entry h
    rw [hcount]
    exact balanced.counted place entry h
  served := balanced.served
  entered := balanced.entered
  held := fun handle hmem h => balanced.held handle (hopen handle hmem h) h

/-- The entry of a file on which a handle is open. -/
theorem find?_held (balanced : service.Balanced handles) {handle : Handle}
    (hmem : handle ∈ handles) (hopen : handle.released = false) :
    service.registry.find? handle.place =
      some ⟨handle.place, handle.id, holders handles handle.place⟩ := by
  obtain ⟨⟨place, id, references⟩, hfind, hid⟩ :=
    Registry.watchId?_eq_some_iff.1 (balanced.held handle hmem hopen)
  obtain ⟨hcount, -⟩ := balanced.counted handle.place _ hfind
  have hplace := Registry.place_of_find? hfind
  simp only at hid hcount hplace
  rw [hfind, hid, hcount, hplace]

theorem find?_eq_none (balanced : service.Balanced handles) {place : Place}
    (hnone : holders handles place = 0) : service.registry.find? place = none := by
  have := balanced.isSome_find?_iff place
  rw [hnone] at this
  simpa using this

/-- A service that is balanced with no handles has nothing in its registry. -/
theorem entries_eq_nil (balanced : service.Balanced []) : service.registry.entries = [] := by
  refine List.eq_nil_iff_forall_not_mem.2 fun entry h => ?_
  have hfind := balanced.keyed.mem_iff.1 h
  rw [balanced.find?_eq_none (by rfl)] at hfind
  cases hfind

/-- A file that is watched before and after, with a handle that is open all the time, keeps its
watch. -/
theorem watchId?_kept (balanced : service.Balanced handles) {others : List Handle}
    (balanced' : other.Balanced others) {handle : Handle} (hmem : handle ∈ handles)
    (hmem' : handle ∈ others) (hopen : handle.released = false) :
    other.registry.watchId? handle.place = service.registry.watchId? handle.place :=
  (balanced'.held handle hmem' hopen).trans (balanced.held handle hmem hopen).symm

/-- The task of a file whose watch is spared is untouched. -/
theorem task_kept (balanced : service.Balanced handles) {others : List Handle}
    (balanced' : other.Balanced others) (spares : service.Spares other) {place : Place} {id : Nat}
    (h : service.registry.watchId? place = some id)
    (h' : other.registry.watchId? place = some id) :
    ∃ task, service.task? id = some task ∧ other.task? id = some task ∧
      task.stopRequested = false := by
  obtain ⟨task, hmem, rfl, hplace, hstop⟩ := balanced.served place id h
  obtain ⟨task', hmem', hid', -, hstop'⟩ := balanced'.served place task.id h'
  have hsame : ∀ later ∈ other.tasks, later.id = task.id → later = task' := fun later hlater hid =>
    List.inj_on_of_nodup_map balanced'.ids hlater hmem' (hid.trans hid'.symm)
  have hkept : task = task' := by
    rcases spares task hmem with hmem | hmem
    · exact hsame task hmem rfl
    · have hrequested := hsame _ hmem rfl
      rw [← hrequested] at hstop'
      cases hstop'
  exact ⟨task, task?_of_mem balanced.ids hmem, hkept ▸ hid' ▸ task?_of_mem balanced'.ids hmem',
    hstop⟩

/-- The release of an open handle takes it out of the balance. -/
theorem release_middle {left right : List Handle} {handle : Handle}
    (balanced : service.Balanced (left ++ handle :: right)) (hopen : handle.released = false) :
    (service.release handle).2.Balanced (left ++ right) := by
  have hget : (left ++ handle :: right)[left.length]? = some handle := by simp
  have hset : (left ++ handle :: right).set left.length { handle with released := true } =
      left ++ { handle with released := true } :: right := by simp
  have hreleased : (service.release handle).1 = { handle with released := true } := by
    simp [Service.release, hopen]
  have hafter := balanced.release hget
  rw [hreleased, hset] at hafter
  refine hafter.congr (fun place => ?_) fun other hmem _ => ?_
  · simp [holders]
  · rcases List.mem_append.1 hmem with h | h
    · exact List.mem_append_left _ h
    · exact List.mem_append_right _ (List.mem_cons_of_mem _ h)

end Balanced

/-- What a service is after it has given out further handles, all of them open. -/
structure Gained (before : Service) (handles gained : List Handle) (after : Service) : Prop where
  balanced : after.Balanced (handles ++ gained)
  opened : ∀ handle ∈ gained, handle.released = false
  spares : before.Spares after
  nextId : before.registry.nextId ≤ after.registry.nextId

namespace Gained

variable {first second third : Service} {handles gained more : List Handle}

theorem refl (balanced : first.Balanced handles) : first.Gained handles [] first :=
  ⟨by rwa [List.append_nil], by simp, .refl first, le_rfl⟩

theorem trans (left : first.Gained handles gained second)
    (right : second.Gained (handles ++ gained) more third) :
    first.Gained handles (gained ++ more) third where
  balanced := List.append_assoc .. ▸ right.balanced
  opened := fun handle h => (List.mem_append.1 h).elim (left.opened handle) (right.opened handle)
  spares := left.spares.trans right.spares
  nextId := left.nextId.trans right.nextId

theorem watchOn (balanced : first.Balanced handles) {platform : Platform} {files : FileSystem}
    {path : String} {now : Nat} {handle : Handle}
    (h : first.watchOn platform files path now = .ok (handle, second)) :
    first.Gained handles [handle] second := by
  have hafter := balanced.watchOn h
  obtain ⟨place, node, -, hcase⟩ := balanced.watchOn_cases h
  rcases hcase with ⟨entry, hentry, rfl, rfl⟩ | ⟨hfree, -, rfl, rfl⟩
  · exact ⟨hafter, by simp, .refl first, le_rfl⟩
  · refine ⟨hafter, by simp, fun task h => .inl (List.mem_append_left _ h), ?_⟩
    exact Nat.le_succ _

/-- Files that were watched keep their watch when handles are given out. -/
theorem watchId? (gains : first.Gained handles gained second) (balanced : first.Balanced handles)
    {place : Place} {id : Nat} (h : first.registry.watchId? place = some id) :
    second.registry.watchId? place = some id := by
  obtain ⟨entry, hentry, -⟩ := Registry.watchId?_eq_some_iff.1 h
  have hsome := (balanced.isSome_find?_iff place).1 (by simp [hentry])
  obtain ⟨handle, hmem, hopen, rfl⟩ := holders_pos_iff.1 hsome
  rw [← h]
  exact balanced.watchId?_kept gains.balanced hmem (List.mem_append_left _ hmem) hopen

end Gained

/-- A watch fails because the path leads nowhere, or because the platform refuses a file that is not
watched yet. -/
theorem Balanced.watchOn_error {service : Service} {handles : List Handle}
    (balanced : service.Balanced handles) {platform : Platform} {files : FileSystem}
    {path : String} {now : Nat} {failure : Failure}
    (h : service.watchOn platform files path now = .error failure) {place : Place} {node : Node}
    (hfind : files.find path = .ok (place, node)) :
    service.registry.find? place = none ∧ platform.refusal? place = some failure := by
  simpa only [balanced.current?_eq] using Service.watchOn_error h hfind

end Service

end CredentialWatch.Watch
