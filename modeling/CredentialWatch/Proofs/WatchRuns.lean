import CredentialWatch.Proofs.RegistryBalance

/-!
# Runs of a watch service

A run takes moves in any order from a fresh service. Each move keeps the service balanced with the
handles handed out, so after any run the registry can be read off the open handles. The clock of a
move is arbitrary: a task may be polled long after its timer has expired, and it may leave long
after its loop has ended.
-/
namespace CredentialWatch.Watch

/-- Whether a move releases the handle at a position. -/
def Move.releases (index : Nat) : Move → Bool
  | stop other => other == index
  | drop other => other == index
  | _ => false

namespace Usage

/-- The service of a usage counts the handles that it has handed out. -/
def Balanced (usage : Usage) : Prop := usage.service.Balanced usage.handles

theorem Balanced.release {usage : Usage} (balanced : usage.Balanced) (index : Nat) :
    (usage.release index).Balanced := by
  unfold Usage.release
  split
  · exact balanced
  · rename_i handle hget
    exact Service.Balanced.release balanced hget

/-- What one move preserves. -/
theorem Balanced.apply {usage : Usage} (balanced : usage.Balanced) (move : Move) :
    (usage.apply move).Balanced := by
  cases move with
  | watch platform files path now =>
    simp only [Usage.apply]
    split
    · exact balanced
    · rename_i handle service h
      exact Service.Balanced.watchOn balanced h
  | stop index => exact balanced.release index
  | drop index => exact balanced.release index
  | report id event => exact Service.Balanced.report balanced id event
  | observe changes => exact Service.Balanced.observe balanced changes
  | poll id now =>
    simp only [Usage.apply]
    split
    · exact balanced
    · rename_i task htask
      exact Service.Balanced.poll balanced (Service.mem_of_task? htask).1 now
  | leave id =>
    simp only [Usage.apply]
    split
    · exact balanced
    · rename_i task htask
      split
      · rename_i hended
        have hsame := Service.Balanced.leave_eq balanced (Service.mem_of_task? htask).1 hended
        rw [hsame]
        exact balanced
      · exact balanced

/-- What a whole run preserves. -/
theorem Balanced.run {usage : Usage} (balanced : usage.Balanced) (moves : List Move) :
    (usage.run moves).Balanced := by
  induction moves generalizing usage with
  | nil => exact balanced
  | cons move rest ih => exact ih (balanced.apply move)

/-- The second release of a handle does nothing. -/
theorem release_release (usage : Usage) (index : Nat) :
    (usage.release index).release index = usage.release index := by
  cases hget : usage.handles[index]? with
  | none => simp [release, hget]
  | some handle =>
    obtain ⟨hlt, rfl⟩ := List.getElem?_eq_some_iff.1 hget
    have hreleased : (usage.service.release usage.handles[index]).1.released = true := by
      by_cases h : usage.handles[index].released <;> simp [Service.release, h]
    generalize hresult : usage.service.release usage.handles[index] = result at hreleased
    have hagain : result.2.release result.1 = (result.1, result.2) := by
      simp only [Service.release, hreleased, if_true]
    simp [release, hlt, hresult, hagain]

theorem run_stops (usage : Usage) (index count : Nat) :
    usage.run (List.replicate count (.stop index) ++ [.drop index]) =
      usage.apply (.drop index) := by
  induction count generalizing usage with
  | zero => rfl
  | succ count ih =>
    calc usage.run (List.replicate (count + 1) (.stop index) ++ [.drop index])
        = (usage.release index).run (List.replicate count (.stop index) ++ [.drop index]) := rfl
      _ = (usage.release index).release index := ih _
      _ = usage.release index := usage.release_release index

section Handles

variable {usage : Usage} {index : Nat} {handle : Handle}

/-- A release is seen on the handle that is released, and on no other. -/
theorem handles_release (released : Nat) (h : usage.handles[index]? = some handle) :
    (usage.release released).handles[index]? =
      some { handle with released := handle.released || released == index } := by
  unfold Usage.release
  split
  · rename_i hnone
    have hne : released ≠ index := by
      rintro rfl
      rw [hnone] at h
      cases h
    rw [h, beq_false_of_ne hne, Bool.or_false]
  · rename_i found hfound
    obtain ⟨hlt, -⟩ := List.getElem?_eq_some_iff.1 hfound
    by_cases hne : released = index
    · subst hne
      obtain rfl : found = handle := Option.some.inj (hfound.symm.trans h)
      have hreleased : (usage.service.release found).1 = { found with released := true } := by
        obtain ⟨place, id, released⟩ := found
        cases released <;> rfl
      simp [hreleased, hlt]
    · simp only [beq_false_of_ne hne, Bool.or_false]
      rw [List.getElem?_set_ne hne, h]

/-- A move releases the handle that it names, and no other one. -/
theorem handles_apply (move : Move) (h : usage.handles[index]? = some handle) :
    (usage.apply move).handles[index]? =
      some { handle with released := handle.released || move.releases index } := by
  have hkept : usage.handles[index]? =
      some { handle with released := handle.released || false } := by
    rw [h, Bool.or_false]
  cases move with
  | stop other => exact handles_release other h
  | drop other => exact handles_release other h
  | report | observe => exact hkept
  | watch platform files path now =>
    simp only [Usage.apply]
    split
    · exact hkept
    · obtain ⟨hlt, -⟩ := List.getElem?_eq_some_iff.1 h
      exact (List.getElem?_append_left hlt).trans hkept
  | poll id now =>
    simp only [Usage.apply]
    split <;> exact hkept
  | leave id =>
    simp only [Usage.apply]
    split
    · exact hkept
    · split <;> exact hkept

end Handles

end Usage

namespace Service.Balanced

variable {service : Service} {handles : List Handle}

theorem count_place (balanced : service.Balanced handles) (place : Place) :
    (service.registry.entries.map Entry.place).count place =
      if 0 < holders handles place then 1 else 0 := by
  have hmem : place ∈ service.registry.entries.map Entry.place ↔ 0 < holders handles place := by
    rw [← balanced.isSome_find?_iff, Option.isSome_iff_exists]
    constructor
    · intro h
      obtain ⟨entry, hentry, rfl⟩ := List.mem_map.1 h
      exact ⟨entry, balanced.keyed.mem_iff.1 hentry⟩
    · rintro ⟨entry, hentry⟩
      have hplace := Registry.place_of_find? hentry
      subst hplace
      exact List.mem_map_of_mem (balanced.keyed.mem_iff.2 hentry)
  rw [List.Nodup.count balanced.keyed]
  simp only [hmem]

theorem active_eq (balanced : service.Balanced handles) :
    service.active =
      ((handles.filter fun handle => !handle.released).map Handle.place).toFinset.card := by
  have hplaces : (service.registry.entries.map Entry.place).toFinset =
      ((handles.filter fun handle => !handle.released).map Handle.place).toFinset := by
    ext place
    have hcount := balanced.count_place place
    have hopen : 0 < holders handles place ↔
        place ∈ (handles.filter fun handle => !handle.released).map Handle.place := by
      simp [holders_pos_iff, and_assoc]
    rw [List.mem_toFinset, List.mem_toFinset, ← hopen, ← List.count_pos_iff, hcount]
    split_ifs with h
    · exact iff_of_true Nat.one_pos h
    · exact iff_of_false (Nat.lt_irrefl 0) h
  calc service.active
      = (service.registry.entries.map Entry.place).length := (List.length_map _).symm
    _ = (service.registry.entries.map Entry.place).toFinset.card :=
        (List.toFinset_card_of_nodup balanced.keyed).symm
    _ = _ := congrArg Finset.card hplaces

theorem entry_spec (balanced : service.Balanced handles) {entry : Entry}
    (hentry : entry ∈ service.registry.entries) :
    entry.references = holders handles entry.place ∧ 1 ≤ entry.references ∧
      (∀ handle ∈ handles, handle.released = false → handle.place = entry.place →
        handle.id = entry.id) ∧
      ∃ task ∈ service.tasks, task.id = entry.id ∧ task.place = entry.place ∧
        task.stopRequested = false := by
  have hfind := balanced.keyed.mem_iff.1 hentry
  have hwatched : service.registry.watchId? entry.place = some entry.id :=
    Registry.watchId?_eq_some_iff.2 ⟨entry, hfind, rfl⟩
  obtain ⟨hcount, hpos⟩ := balanced.counted entry.place entry hfind
  refine ⟨hcount, hpos, ?_, balanced.served entry.place entry.id hwatched⟩
  intro handle hmem hopen hplace
  have hheld := balanced.held handle hmem hopen
  rw [hplace, hwatched] at hheld
  exact (Option.some.inj hheld).symm

/-- The handle of a successful watch is open, on the file that the path leads to, and under the
number of the file's watch; where there was none, under a number that no watch has had. -/
theorem watchOn_spec (balanced : service.Balanced handles) {platform : Platform}
    {files : FileSystem} {path : String} {now : Nat} {handle : Handle} {after : Service}
    (h : service.watchOn platform files path now = .ok (handle, after)) :
    (∃ node, files.find path = .ok (handle.place, node)) ∧ handle.released = false ∧
      (service.registry.watchId? handle.place = some handle.id ∨
        service.registry.watchId? handle.place = none ∧
          ∀ task ∈ service.tasks, task.id ≠ handle.id) := by
  obtain ⟨place, node, hfind, hcase⟩ := balanced.watchOn_cases h
  rcases hcase with ⟨entry, hentry, rfl, -⟩ | ⟨hfree, -, rfl, -⟩
  · exact ⟨⟨node, hfind⟩, rfl, .inl (Registry.watchId?_eq_some_iff.2 ⟨entry, hentry, rfl⟩)⟩
  · refine ⟨⟨node, hfind⟩, rfl, .inr ⟨by simp [Registry.watchId?, hfree], ?_⟩⟩
    intro task htask
    exact (balanced.below task htask).ne

end Service.Balanced

/-- After any run the registry is what the open handles make it. Each file with an open handle has
one entry and no other file has any; the entry counts the open handles, never down to zero, has
their number, and its task is not to stop; no two watches share a number. A handle is open until it
is stopped or dropped, and never again. So as many files are watched as have open handles, stops of
a handle before its drop do not count, a release or an end that names another watch than the file's
changes nothing, and neither does a watch that fails, while one that succeeds joins the file's watch
or starts one under a fresh number. -/
theorem registry_counts_open_handles (debounce : Duration) (moves : List Move) :
    let usage := (Usage.start debounce).run moves
    let service := usage.service
    let registry := service.registry
    (∀ place, (registry.entries.map Entry.place).count place =
      if 0 < holders usage.handles place then 1 else 0) ∧
    (∀ entry ∈ registry.entries,
      entry.references = holders usage.handles entry.place ∧ 1 ≤ entry.references ∧
      (∀ handle ∈ usage.handles, handle.released = false → handle.place = entry.place →
        handle.id = entry.id) ∧
      ∃ task ∈ service.tasks, task.id = entry.id ∧ task.place = entry.place ∧
        task.stopRequested = false) ∧
    (service.tasks.map Task.id).Nodup ∧
    (∀ (index : Nat) (handle : Handle), usage.handles[index]? = some handle → ∀ move,
      (usage.apply move).handles[index]? =
        some { handle with released := handle.released || move.releases index }) ∧
    service.active =
      ((usage.handles.filter fun handle => !handle.released).map Handle.place).toFinset.card ∧
    (∀ index count, usage.run (List.replicate count (.stop index) ++ [.drop index]) =
      usage.apply (.drop index)) ∧
    (∀ task ∈ service.tasks, task.stopRequested →
      registry.forget task.place task.id = registry) ∧
    (∀ place id, registry.watchId? place ≠ some id →
      registry.release place id = (false, registry) ∧ registry.forget place id = registry) ∧
    (∀ platform files path now,
      match service.watchOn platform files path now with
      | .error _ => usage.apply (.watch platform files path now) = usage
      | .ok (handle, _) =>
        (∃ node, files.find path = .ok (handle.place, node)) ∧ handle.released = false ∧
          (registry.watchId? handle.place = some handle.id ∨
            registry.watchId? handle.place = none ∧
              ∀ task ∈ service.tasks, task.id ≠ handle.id)) := by
  intro usage service registry
  have hstart : (Usage.start debounce).Balanced := Service.balanced_start debounce
  have balanced : service.Balanced usage.handles := hstart.run moves
  refine ⟨balanced.count_place, fun entry => balanced.entry_spec, balanced.ids,
    fun index handle h move => Usage.handles_apply move h, balanced.active_eq, usage.run_stops,
    fun task => balanced.forget_eq,
    fun place id h => ⟨Registry.release_stale h, Registry.forget_stale h⟩, ?_⟩
  intro platform files path now
  cases h : service.watchOn platform files path now with
  | error failure => simp only [Usage.apply, h, service]
  | ok result => exact balanced.watchOn_spec h

end CredentialWatch.Watch
