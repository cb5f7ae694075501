import CredentialWatch.Proofs.DeliveryRuns
import CredentialWatch.Proofs.LockRuns

/-!
# Subscriptions that listeners own

However listeners own subscriptions, every registration has one subscription: what is owned passes
to whoever destroys the owner, and is dropped by it. A drop that has the lock completes, unless it
destroys an owner itself.
-/
namespace CredentialWatch

/-- The number of a registration that a duty is to push. -/
def Duty.numbers : Duty → List Nat
  | push registration => [registration.id]
  | drop _ | unlock | publish _ | call _ | release _ => []

namespace Guarded

variable {state changed : Guarded} {thread id : Nat} {rest before after : List Duty} {move : Move}
  {registrations : List (Registration Unit)} {registration : Registration Unit}

section Lists

/-- What the other threads have does not count when one thread's duties change. -/
theorem count_flatMap_set {threads : List (List Duty)} (hthread : threads[thread]? = some before)
    (after : List Duty) (part : List Duty → List Nat) (number : Nat) :
    ((threads.set thread after).flatMap part).count number + (part before).count number =
      (threads.flatMap part).count number + (part after).count number := by
  induction threads generalizing thread with
  | nil => cases hthread
  | cons first others ih =>
    cases thread with
    | zero =>
      obtain rfl : first = before := Option.some.inj hthread
      simp only [List.set_cons_zero, List.flatMap_cons, List.count_append]
      omega
    | succ thread =>
      have hothers := @ih thread hthread
      simp only [List.set_cons_succ, List.flatMap_cons, List.count_append]
      omega

/-- Where numbers differ, the one found is all that is removed. -/
theorem perm_filter_id (found : registrations.find? (·.id == id) = some registration)
    (distinct : (registrations.map Registration.id).Nodup) :
    registrations.Perm (registration :: registrations.filter (·.id != id)) := by
  have hid : registration.id = id := by simpa using List.find?_some found
  obtain ⟨position, hposition⟩ := List.mem_iff_getElem?.1 (List.mem_of_find?_eq_some found)
  rw [← hid, Notifier.filter_id_ne distinct hposition]
  obtain ⟨hlength, rfl⟩ := List.getElem?_eq_some_iff.1 hposition
  exact (List.getElem_cons_eraseIdx_perm hlength).symm

theorem count_filter_id_le (registrations : List (Registration Unit)) (id number : Nat) :
    ((registrations.filter (·.id != id)).map Registration.id).count number ≤
      (registrations.map Registration.id).count number :=
  (List.filter_sublist.map _).count_le number

/-- Numbers of which none is used more often than in some others, or else is the next one, once. -/
theorem distinct_below {used later made : List Nat} {next next' : Nat} (hdistinct : used.Nodup)
    (hbelow : ∀ number ∈ used, number < next)
    (hmade : made = [] ∧ next' = next ∨ made = [next] ∧ next' = next + 1)
    (hcount : ∀ number, later.count number ≤ used.count number + made.count number) :
    later.Nodup ∧ ∀ number ∈ later, number < next' := by
  have hall : (used ++ made).Nodup ∧ ∀ number ∈ used ++ made, number < next' := by
    rcases hmade with ⟨rfl, rfl⟩ | ⟨rfl, rfl⟩
    · rw [List.append_nil]
      exact ⟨hdistinct, hbelow⟩
    · have hnew : next ∉ used := fun h => Nat.lt_irrefl next (hbelow next h)
      refine ⟨(List.perm_append_singleton next used).nodup_iff.2
        (List.nodup_cons.2 ⟨hnew, hdistinct⟩),
        fun number hnumber => ?_⟩
      rcases List.mem_append.1 hnumber with h | h
      · exact Nat.lt_succ_of_lt (hbelow number h)
      · exact List.mem_singleton.1 h ▸ Nat.lt_succ_self next
  simp only [← List.count_append] at hcount
  refine ⟨List.nodup_iff_count.2 fun number => ?_, fun number hnumber => ?_⟩
  · exact (hcount number).trans (List.nodup_iff_count.1 hall.1 number)
  · have hsome := (List.count_pos_iff.2 hnumber).trans_le (hcount number)
    exact hall.2 number (List.count_pos_iff.1 hsome)

end Lists

/-- The numbers of all registrations that are in use. -/
def numbers (state : Guarded) : List Nat :=
  (state.notifier.registrations ++ state.lingering).map Registration.id ++
    state.threads.flatMap (·.flatMap Duty.numbers)

/-- Registrations with numbers of their own, each with one subscription, and listeners that linger
only while there is a copy of them. -/
structure Balanced (state : Guarded) : Prop where
  subscribed : ∀ number, state.subscriptions.count number =
    (state.notifier.registrations.map Registration.id).count number
  distinct : state.numbers.Nodup
  below : ∀ number ∈ state.numbers, number < state.notifier.nextId
  copied : ∀ registration ∈ state.lingering, state.Copied registration.id

section Balance

theorem Balanced.distinct_registrations (balanced : Balanced state) :
    ((state.notifier.registrations ++ state.lingering).map Registration.id).Nodup :=
  (List.nodup_append.1 balanced.distinct).1

theorem Balanced.count_le (balanced : Balanced state) (number : Nat) :
    state.subscriptions.count number ≤ 1 := by
  rw [balanced.subscribed]
  have hdistinct := balanced.distinct_registrations
  rw [List.map_append] at hdistinct
  exact List.nodup_iff_count.1 (List.nodup_append.1 hdistinct).1 number

/-- A subscription that is about to be dropped has its registration. -/
theorem Balanced.find?_of_drop (balanced : Balanced state)
    (hthread : state.threads[thread]? = some (.drop id :: rest)) :
    ∃ registration, state.notifier.find? id = some registration := by
  have hmem : id ∈ state.subscriptions := by
    refine List.mem_append_left _ (List.mem_append_right _ (List.mem_flatMap.2
      ⟨_, List.mem_of_getElem? hthread, List.mem_flatMap.2 ⟨.drop id, List.mem_cons_self, ?_⟩⟩))
    exact List.mem_singleton_self id
  rw [← List.count_pos_iff, balanced.subscribed, List.count_pos_iff, List.mem_map] at hmem
  obtain ⟨registration, hregistration, hid⟩ := hmem
  rw [← Option.isSome_iff_exists, Notifier.find?, List.find?_isSome]
  exact ⟨registration, hregistration, by simpa using hid⟩

theorem count_filter_taken {held owned : List Nat} (hnodup : owned.Nodup)
    (hheld : ∀ id ∈ owned, id ∈ held) (hdistinct : ∀ number, held.count number ≤ 1) (number : Nat) :
    (held.filter (· ∉ owned)).count number + owned.count number = held.count number := by
  by_cases howned : number ∈ owned
  · have hgone : (held.filter (· ∉ owned)).count number = 0 := by simp [List.count_eq_zero, howned]
    have hone := List.nodup_iff_count.1 hnodup number
    have hsome := List.count_pos_iff.2 howned
    have hheld := List.count_pos_iff.2 (hheld number howned)
    have hmost := hdistinct number
    omega
  · rw [List.count_filter (by simpa using howned), List.count_eq_zero.2 howned, Nat.add_zero]

theorem subscriptions_orphans (orphans : List Nat) :
    (orphans.map Duty.drop).flatMap Duty.subscriptions = orphans := by
  simp [List.flatMap_map, Duty.subscriptions]

theorem subscriptions_calls (audience : List (Registration Unit)) :
    (audience.map fun registration => Duty.call registration.id).flatMap
      Duty.subscriptions = [] := by
  simp [Duty.subscriptions]

/-- A part of a thread's work makes as many subscriptions as registrations. -/
theorem Effect.count_subscriptions (effect : Effect state thread move before after changed)
    (balanced : Balanced state) (hthread : state.threads[thread]? = some before) (number : Nat) :
    changed.held.count number +
        ((changed.notifier.registrations ++ changed.lingering).flatMap
          Registration.owned).count number +
        (after.flatMap Duty.subscriptions).count number +
        (state.notifier.registrations.map Registration.id).count number =
      state.held.count number +
        ((state.notifier.registrations ++ state.lingering).flatMap
          Registration.owned).count number +
        (before.flatMap Duty.subscriptions).count number +
        (changed.notifier.registrations.map Registration.id).count number := by
  have hdistinct := balanced.distinct_registrations
  rw [List.map_append] at hdistinct
  obtain ⟨hregistrations, hlingering, -⟩ := List.nodup_append.1 hdistinct
  cases effect with
  | subscribe duties outside type source? owned nodup held =>
    have htaken := count_filter_taken nodup held (fun number => by
      have hle := balanced.count_le number
      simp only [subscriptions, List.count_append] at hle
      omega) number
    simp only [Notifier.allocate, List.flatMap_cons, Duty.subscriptions,
      List.count_append] at htaken ⊢
    omega
  | drop duties outside id held =>
    have hcount : 0 < state.held.count id := List.count_pos_iff.2 held
    simp only [List.flatMap_cons, Duty.subscriptions, List.count_append, List.count_erase,
      List.count_singleton, beq_iff_eq]
    split
    · next h => subst h; omega
    · omega
  | push registration rest =>
    simp only [Notifier.push, List.flatMap_cons, List.flatMap_nil, Duty.subscriptions,
      List.count_append,
      List.flatMap_append, List.map_append, List.map_singleton, List.count_nil]
    omega
  | removeNone id rest free missing =>
    obtain ⟨registration, found⟩ := balanced.find?_of_drop hthread
    simp [missing] at found
  | removeCopied id rest free registration found copied =>
    have hremoved := perm_filter_id found hregistrations
    have howned := (hremoved.flatMap_right Registration.owned).count_eq number
    have hnumbers := (hremoved.map Registration.id).count_eq number
    have hid : registration.id = id := by simpa using List.find?_some found
    simp only [Notifier.remove, List.flatMap_cons, List.flatMap_nil, List.flatMap_append,
      Duty.subscriptions, List.count_append, List.map_cons, List.count_cons, hid,
      List.count_nil] at howned hnumbers ⊢
    omega
  | removeLast id rest free registration found last =>
    have hremoved := perm_filter_id found hregistrations
    have howned := (hremoved.flatMap_right Registration.owned).count_eq number
    have hnumbers := (hremoved.map Registration.id).count_eq number
    have hid : registration.id = id := by simpa using List.find?_some found
    simp only [Notifier.remove, List.flatMap_cons, List.flatMap_append, Duty.subscriptions,
      subscriptions_orphans, List.count_append, List.map_cons, List.count_cons, hid,
      List.count_nil] at howned hnumbers ⊢
    omega
  | releaseLast id rest registration lingers last =>
    have howned :=
      ((perm_filter_id lingers hlingering).flatMap_right Registration.owned).count_eq number
    simp only [List.flatMap_cons, List.flatMap_append, Duty.subscriptions, subscriptions_orphans,
      List.count_append, List.count_nil] at howned ⊢
    omega
  | settle event rest =>
    simp only [List.flatMap_append, List.flatMap_cons, subscriptions_calls, Duty.subscriptions]
  | publish | unlock | call | release => simp [Duty.subscriptions]

theorem numbers_orphans (orphans : List Nat) :
    (orphans.map Duty.drop).flatMap Duty.numbers = [] := by
  simp [Duty.numbers]

theorem numbers_calls (audience : List (Registration Unit)) :
    (audience.map fun registration => Duty.call registration.id).flatMap Duty.numbers = [] := by
  simp [Duty.numbers]

/-- A part of a thread's work brings no number into use but the next one. -/
theorem Effect.count_numbers (effect : Effect state thread move before after changed)
    (balanced : Balanced state) :
    ∃ made, (made = [] ∧ changed.notifier.nextId = state.notifier.nextId ∨
        made = [state.notifier.nextId] ∧ changed.notifier.nextId = state.notifier.nextId + 1) ∧
      ∀ number,
        ((changed.notifier.registrations ++ changed.lingering).map Registration.id).count number +
            (after.flatMap Duty.numbers).count number ≤
          ((state.notifier.registrations ++ state.lingering).map Registration.id).count number +
            (before.flatMap Duty.numbers).count number + made.count number := by
  cases effect with
  | subscribe duties outside type source? owned =>
    refine ⟨[state.notifier.nextId], .inr ⟨rfl, rfl⟩, fun number => ?_⟩
    simp only [Notifier.allocate, List.flatMap_cons, Duty.numbers, List.count_append]
    omega
  | push registration rest =>
    refine ⟨[], .inl ⟨rfl, rfl⟩, fun number => ?_⟩
    simp only [Notifier.push, List.flatMap_cons, Duty.numbers, List.count_append, List.map_append,
      List.map_singleton]
    omega
  | removeNone id rest | removeLast id rest =>
    refine ⟨[], .inl ⟨rfl, rfl⟩, fun number => ?_⟩
    have hkept := count_filter_id_le state.notifier.registrations id number
    simp only [Notifier.remove, List.flatMap_cons, List.flatMap_append, Duty.numbers,
      numbers_orphans,
      List.count_append, List.map_append, List.count_nil]
    omega
  | removeCopied id rest free registration found =>
    refine ⟨[], .inl ⟨rfl, rfl⟩, fun number => ?_⟩
    have hdistinct := balanced.distinct_registrations
    rw [List.map_append] at hdistinct
    have hremoved := ((perm_filter_id found (List.nodup_append.1 hdistinct).1).map
      Registration.id).count_eq number
    simp only [Notifier.remove, List.flatMap_cons, Duty.numbers, List.count_append, List.map_append,
      List.map_cons, List.map_nil, List.count_cons, List.count_nil] at hremoved ⊢
    omega
  | releaseLast id rest registration lingers =>
    refine ⟨[], .inl ⟨rfl, rfl⟩, fun number => ?_⟩
    have hkept := count_filter_id_le state.lingering id number
    simp only [List.flatMap_cons, List.flatMap_append, Duty.numbers, numbers_orphans,
      List.count_append, List.map_append, List.count_nil]
    omega
  | settle event rest =>
    refine ⟨[], .inl ⟨rfl, rfl⟩, fun number => ?_⟩
    simp [List.flatMap_append, numbers_calls, Duty.numbers]
  | drop | publish | unlock | call | release =>
    exact ⟨[], .inl ⟨rfl, rfl⟩, fun number => by simp [Duty.numbers]⟩

/-- A copy is somewhere still if none but a certain thread's duties change, and those that have one
still do. -/
theorem Copied.proceed {number : Nat} (copied : state.Copied number)
    (hthread : state.threads[thread]? = some before)
    (hafter : (∃ duty ∈ before, duty.Holds number) → ∃ duty ∈ after, duty.Holds number) :
    (state.proceed thread after).Copied number := by
  obtain ⟨duties, hduties, hholds⟩ := copied
  obtain ⟨other, hother⟩ := List.mem_iff_getElem?.1 hduties
  by_cases h : thread = other
  · subst h
    obtain rfl : before = duties := Option.some.inj (hthread.symm.trans hother)
    exact ⟨after, List.mem_set (List.getElem?_eq_some_iff.1 hthread).1 after, hafter hholds⟩
  · have hkept : (state.threads.set thread after)[other]? = some duties := by
      rw [List.getElem?_set_ne h, hother]
    exact ⟨duties, List.mem_of_getElem? hkept, hholds⟩

theorem copied_of_proceed {number : Nat} (hthread : state.threads[thread]? = some before)
    (copied : (state.proceed thread rest).Copied number)
    (hafter : (∃ duty ∈ rest, duty.Holds number) → ∃ duty ∈ after, duty.Holds number) :
    (state.proceed thread after).Copied number := by
  have hset : (state.proceed thread rest).threads[thread]? = some rest :=
    List.getElem?_set_self (List.getElem?_eq_some_iff.1 hthread).1
  rw [← proceed_proceed state thread rest after]
  exact copied.proceed hset hafter

/-- A listener that lingers has a copy. -/
theorem Effect.copied (effect : Effect state thread move before after changed)
    (balanced : Balanced state) (hthread : state.threads[thread]? = some before) :
    ∀ registration ∈ changed.lingering, (changed.proceed thread after).Copied registration.id := by
  have hcopied : ∀ registration ∈ state.lingering,
      ((∃ duty ∈ before, duty.Holds registration.id) → ∃ duty ∈ after, duty.Holds registration.id) →
        (state.proceed thread after).Copied registration.id :=
    fun registration hlingers hafter =>
      (balanced.copied registration hlingers).proceed hthread hafter
  intro registration hlingers
  have hproceed : (changed.proceed thread after).threads =
      (state.proceed thread after).threads := by
    rw [proceed, proceed, effect.threads]
  rw [Copied, hproceed]
  cases effect with
  | subscribe | drop | publish | push | removeNone | unlock | call =>
    exact hcopied registration hlingers (by simp [Duty.Holds])
  | removeLast | settle =>
    refine hcopied registration hlingers ?_
    rintro ⟨duty, hduty, hholds⟩
    rcases List.mem_cons.1 hduty with rfl | hduty
    · cases hholds
    · exact ⟨duty, by simp [hduty], hholds⟩
  | removeCopied id rest free removed found copied =>
    rcases List.mem_append.1 hlingers with hlingers | hnew
    · exact hcopied registration hlingers (by simp [Duty.Holds])
    · obtain rfl := List.mem_singleton.1 hnew
      have hid : registration.id = id := by simpa using List.find?_some found
      exact copied_of_proceed hthread (hid ▸ copied) (by simp [Duty.Holds])
  | release id rest kept =>
    by_cases hid : registration.id = id
    · refine kept.elim (fun hnone => ?_) (fun copied => hid ▸ copied)
      exact absurd hid (by simpa using List.find?_eq_none.1 hnone registration hlingers)
    · refine hcopied registration hlingers ?_
      simp [Duty.Holds, Ne.symm hid]
  | releaseLast id rest removed lingers =>
    obtain ⟨hlingers, hid⟩ := List.mem_filter.1 hlingers
    refine hcopied registration hlingers ?_
    rintro ⟨duty, hduty, hholds⟩
    rcases List.mem_cons.1 hduty with rfl | hduty
    · have hsame : id = registration.id := hholds
      simp [hsame] at hid
    · exact ⟨duty, List.mem_append_right _ hduty, hholds⟩

theorem Balanced.effect (balanced : Balanced state)
    (hthread : state.threads[thread]? = some before)
    (effect : Effect state thread move before after changed) :
    Balanced (changed.proceed thread after) := by
  obtain ⟨made, hmade, hnumbers⟩ := effect.count_numbers balanced
  have hcount : ∀ number, (changed.proceed thread after).numbers.count number ≤
      state.numbers.count number + made.count number := by
    intro number
    have hset := count_flatMap_set hthread after (·.flatMap Duty.numbers) number
    have hpart := hnumbers number
    simp only [numbers, proceed, effect.threads, List.count_append] at hset hpart ⊢
    omega
  obtain ⟨hdistinct, hbelow⟩ := distinct_below balanced.distinct balanced.below hmade hcount
  refine ⟨fun number => ?_, hdistinct, hbelow, effect.copied balanced hthread⟩
  have hset := count_flatMap_set hthread after (·.flatMap Duty.subscriptions) number
  have hpart := effect.count_subscriptions balanced hthread number
  have hbefore := balanced.subscribed number
  simp only [subscriptions, proceed, effect.threads, List.count_append] at hset hpart hbefore ⊢
  omega

theorem Balanced.start (threads : Nat) : Balanced (start threads) := by
  have hnothing : ∀ part : List Duty → List Nat, part [] = [] →
      (List.replicate threads []).flatMap part = [] := fun part hpart => by
    simp [hpart]
  refine ⟨?_, ?_, ?_, ?_⟩ <;>
    simp [Guarded.start, Notifier.empty, subscriptions, numbers, hnothing]

theorem Balanced.run {state : Guarded} (balanced : Balanced state) (moves : List Move) :
    Balanced (state.run moves) := by
  induction moves generalizing state with
  | nil => exact balanced
  | cons move rest ih =>
    refine ih ?_
    rcases state.apply_cases move with h | ⟨thread, before, after, changed, hthread, heffect, h⟩
    · rwa [h]
    · rw [h]
      exact balanced.effect hthread heffect

/-- When there is nothing left to do, the registrations are those whose subscription is held outside
or owned by one of them: those that a destroyed listener owned are gone. -/
theorem Balanced.at_rest (balanced : Balanced state)
    (hrest : ∀ duties ∈ state.threads, duties = []) :
    (state.held ++ state.notifier.registrations.flatMap Registration.owned).Perm
      (state.notifier.registrations.map Registration.id) := by
  have hlingering : state.lingering = [] := by
    refine List.eq_nil_iff_forall_not_mem.2 fun registration hlingers => ?_
    obtain ⟨duties, hduties, duty, hduty, -⟩ := balanced.copied registration hlingers
    rw [hrest duties hduties] at hduty
    cases hduty
  have hthreads : state.threads.flatMap (·.flatMap Duty.subscriptions) = [] := by
    refine List.flatMap_eq_nil_iff.2 fun duties hduties => ?_
    rw [hrest duties hduties]
    rfl
  have hsubscribed := List.perm_iff_count.2 balanced.subscribed
  rwa [subscriptions, hlingering, hthreads, List.append_nil, List.append_nil] at hsubscribed

end Balance

section Dropping

theorem copied_proceed_iff {duty : Duty} {number : Nat}
    (hthread : state.threads[thread]? = some (duty :: rest)) (hduty : ¬duty.Holds number) :
    (state.proceed thread rest).Copied number ↔ state.Copied number := by
  have hrest : (∃ held ∈ duty :: rest, held.Holds number) ↔ ∃ held ∈ rest, held.Holds number := by
    simp [hduty]
  constructor
  · rintro ⟨duties, hduties, hholds⟩
    rcases List.mem_or_eq_of_mem_set hduties with h | rfl
    · exact ⟨duties, h, hholds⟩
    · exact ⟨_, List.mem_of_getElem? hthread, hrest.2 hholds⟩
  · exact fun copied => copied.proceed hthread hrest.1

/-- A drop that gets the lock removes its registration, and goes on under the lock with what a
listener owned that it destroys. -/
theorem go_drop (hfree : state.holder? = none)
    (hthread : state.threads[thread]? = some (.drop id :: rest)) :
    ∃ orphans : List Nat, (orphans ≠ [] ↔ state.DestroysOwner id) ∧
      (state.go thread).notifier = state.notifier.remove id ∧
      (state.go thread).holder? = some thread ∧
      (state.go thread).threads =
        state.threads.set thread (orphans.map Duty.drop ++ .unlock :: rest) := by
  rw [go_of_ready hthread fun _ => hfree, perform, remove]
  have hcopied : (state.proceed thread rest).Copied id ↔ state.Copied id :=
    copied_proceed_iff hthread (by simp [Duty.Holds])
  have hnotifier : (state.proceed thread rest).notifier = state.notifier := rfl
  rw [hnotifier]
  split
  · next missing =>
    exact ⟨[], by simp [DestroysOwner, missing], rfl, rfl, by simp [proceed]⟩
  · next registration found =>
    split
    · next copied =>
      exact ⟨[], by simp [DestroysOwner, hcopied.1 copied], rfl, rfl, by simp [proceed]⟩
    · next last =>
      refine ⟨registration.owned, ?_, rfl, rfl, by simp [proceed]⟩
      simp [DestroysOwner, found, mt hcopied.2 last]

theorem go_unlock (hthread : state.threads[thread]? = some (.unlock :: rest)) :
    state.go thread = { state with holder? := none, threads := state.threads.set thread rest } := by
  rw [go_of_ready hthread (by simp [Duty.needsLock])]
  rfl

theorem drop_completes (hfree : state.holder? = none)
    (hthread : state.threads[thread]? = some (.drop id :: rest)) (hdrop : ¬state.DestroysOwner id) :
    let completed := (state.go thread).go thread
    completed.notifier = state.notifier.remove id ∧ completed.holder? = none ∧
      completed.threads = state.threads.set thread rest := by
  obtain ⟨orphans, howner, hnotifier, -, hthreads⟩ := go_drop hfree hthread
  obtain rfl : orphans = [] := Decidable.of_not_not (mt howner.1 hdrop)
  have hunlock : (state.go thread).threads[thread]? = some (.unlock :: rest) := by
    rw [hthreads]
    exact List.getElem?_set_self (List.getElem?_eq_some_iff.1 hthread).1
  intro completed
  have hcompleted : completed = _ := go_unlock hunlock
  refine ⟨by rw [hcompleted, hnotifier], by rw [hcompleted], ?_⟩
  rw [hcompleted, hthreads, List.set_set]

theorem drop_hangs (hfree : state.holder? = none)
    (hthread : state.threads[thread]? = some (.drop id :: rest)) (hdrop : state.DestroysOwner id) :
    (state.go thread).Hangs thread := by
  obtain ⟨orphans, howner, -, hholder, hthreads⟩ := go_drop hfree hthread
  obtain ⟨orphan, others, rfl⟩ := List.exists_cons_of_ne_nil (howner.2 hdrop)
  refine ⟨hholder, orphan, others.map Duty.drop ++ .unlock :: rest, ?_⟩
  rw [hthreads]
  exact List.getElem?_set_self (List.getElem?_eq_some_iff.1 hthread).1

/-- Where no listener owns a subscription, a thread that holds the lock gives it back next. -/
theorem Orderly.goHolder (orderly : Orderly (fun _ => False) state)
    (hthread : state.threads[thread]? = some (.drop id :: rest)) :
    state.goHolder.holder? = none ∧ state.goHolder.threads[thread]? = some (.drop id :: rest) ∧
      state.goHolder.notifier = state.notifier ∧ ¬state.goHolder.DestroysOwner id := by
  have hnone : ∀ other : Guarded, other.notifier = state.notifier → ¬other.DestroysOwner id := by
    rintro other hnotifier ⟨-, registration, found, howned⟩
    rw [hnotifier] at found
    obtain ⟨orphan, horphan⟩ := List.exists_mem_of_ne_nil _ howned
    exact orderly.owned registration (List.mem_append_left _ (List.mem_of_find?_eq_some found))
      orphan horphan
  rw [Guarded.goHolder]
  split
  · next hfree => exact ⟨hfree, hthread, rfl, hnone state rfl⟩
  · next holder hholder =>
    have hlength := orderly.holder holder hholder
    obtain ⟨orphans, behind, hduties, hnobody, -⟩ :=
      (orderly.locking holder _ (List.getElem?_eq_getElem hlength)).holder hholder
    obtain rfl : orphans = [] := List.eq_nil_iff_forall_not_mem.2 hnobody
    have hunlock : state.threads[holder]? = some (.unlock :: behind) := by
      rw [List.getElem?_eq_getElem hlength, hduties]
      rfl
    have hother : holder ≠ thread := by
      rintro rfl
      rw [hunlock] at hthread
      cases hthread
    rw [go_unlock hunlock]
    refine ⟨rfl, ?_, rfl, hnone _ rfl⟩
    dsimp only
    rw [List.getElem?_set_ne hother, hthread]

theorem Orderly.not_hangs (orderly : Orderly (fun _ => False) state) (thread : Nat) :
    ¬state.Hangs thread := by
  rintro ⟨hholder, id, rest, hthread⟩
  rcases (orderly.locking thread _ hthread).head hholder with ⟨_, -, h⟩ | ⟨h, -⟩
  · exact h
  · cases h

theorem Orderly.drop_completes (orderly : Orderly (fun _ => False) state)
    (hthread : state.threads[thread]? = some (.drop id :: rest)) :
    let completed := (state.goHolder.go thread).go thread
    completed.notifier = state.notifier.remove id ∧ completed.holder? = none ∧
      completed.threads[thread]? = some rest := by
  obtain ⟨hfree, hready, hnotifier, hdrop⟩ := orderly.goHolder hthread
  obtain ⟨hremoved, hdone, hthreads⟩ := Guarded.drop_completes hfree hready hdrop
  refine ⟨hnotifier ▸ hremoved, hdone, ?_⟩
  rw [hthreads]
  exact List.getElem?_set_self (List.getElem?_eq_some_iff.1 hready).1

end Dropping

/-- In every run of any number of threads, a thread that holds the lock does nothing but drop what a
destroyed listener owned and give the lock back, and every registration has one subscription. A drop
that gets the lock removes its own registration and no other one. It completes then, unless no
delivery has a copy of the listener and this owns subscriptions: these are dropped under the lock,
for which the thread waits for ever, and nothing is registered or removed any more. When there is
nothing left to do, whatever a destroyed listener owned is removed as well. Where no listener owns a
subscription, no thread waits for itself, and every drop completes as soon as the thread that holds
the lock has gone on once. -/
theorem drops_complete_unless_they_destroy_an_owner (threads : Nat) (moves : List Move) :
    let state := (start threads).run moves
    (∀ thread duties, state.holder? = some thread → state.threads[thread]? = some duties →
      ∃ (orphans : List Nat) (rest : List Duty),
        duties = orphans.map Duty.drop ++ .unlock :: rest) ∧
    state.subscriptions.Perm (state.notifier.registrations.map Registration.id) ∧
    ((∀ duties ∈ state.threads, duties = []) →
      (state.held ++ state.notifier.registrations.flatMap Registration.owned).Perm
        (state.notifier.registrations.map Registration.id)) ∧
    (∀ thread id rest, state.holder? = none → state.threads[thread]? = some (.drop id :: rest) →
      (∃ registration, state.notifier.find? id = some registration) ∧
      (¬state.DestroysOwner id →
        let completed := (state.go thread).go thread
        completed.notifier = state.notifier.remove id ∧ completed.holder? = none ∧
          completed.threads = state.threads.set thread rest) ∧
      (state.DestroysOwner id → ∀ later, ((state.go thread).run later).Hangs thread ∧
        ((state.go thread).run later).notifier.registrations =
          (state.notifier.remove id).registrations)) ∧
    ((∀ move ∈ moves, move.owned = []) → ∀ thread, ¬state.Hangs thread ∧
      ∀ id rest, state.threads[thread]? = some (.drop id :: rest) →
        let completed := (state.goHolder.go thread).go thread
        completed.notifier = state.notifier.remove id ∧ completed.holder? = none ∧
          completed.threads[thread]? = some rest) := by
  intro state
  have orderly : Orderly (fun _ => True) state :=
    (Orderly.start threads).run moves fun _ _ _ _ => trivial
  have balanced : Balanced state := (Balanced.start threads).run moves
  refine ⟨fun thread duties hholder hthread => ?_, List.perm_iff_count.2 balanced.subscribed,
    balanced.at_rest, fun thread id rest hfree hthread => ?_, fun hmoves thread => ?_⟩
  · obtain ⟨orphans, rest, hduties, -⟩ := (orderly.locking thread duties hthread).holder hholder
    exact ⟨orphans, rest, hduties⟩
  · refine ⟨balanced.find?_of_drop hthread, drop_completes hfree hthread, fun hdrop later => ?_⟩
    have orderly' : Orderly (fun _ => True) (state.go thread) :=
      orderly.apply (.go thread) fun _ _ => trivial
    obtain ⟨-, -, hnotifier, -⟩ := go_drop hfree hthread
    rw [← hnotifier]
    exact (drop_hangs hfree hthread hdrop).run orderly' later
  · have unowned : Orderly (fun _ => False) state :=
      (Orderly.start threads).run moves fun move hmove id hid => by simp [hmoves move hmove] at hid
    exact ⟨unowned.not_hangs thread, fun id rest hthread => unowned.drop_completes hthread⟩

/-- A thread subscribes, and then subscribes with a listener that owns the first subscription. -/
def capture : List Move :=
  [.subscribe 0 .configurationChanged none [], .go 0,
    .subscribe 0 .configurationChanged none [0], .go 0]

/-- The owner is dropped while another thread is about to call it. -/
theorem copied_owner_is_dropped :
    let event : ChangeEvent := ⟨.configurationChanged, "/a", ⟨0, 0⟩⟩
    let state := (start 2).run (capture ++ [Move.publish 1 event, Move.go 1, Move.drop 0 1])
    let completed := (state.go 0).go 0
    ¬state.DestroysOwner 1 ∧ completed.holder? = none ∧
      completed.notifier.registrations.map Registration.id = [0] := by
  intro event state completed
  have hdrop : ¬state.DestroysOwner 1 := fun h => h.1 (by decide)
  obtain ⟨-, -, -, hdrops, -⟩ := drops_complete_unless_they_destroy_an_owner 2
    (capture ++ [Move.publish 1 event, Move.go 1, Move.drop 0 1])
  obtain ⟨-, hcompletes, -⟩ := hdrops 0 1 [] rfl rfl
  obtain ⟨hnotifier, hholder, -⟩ := hcompletes hdrop
  refine ⟨hdrop, hholder, ?_⟩
  rw [hnotifier]
  rfl

/-- The owner is dropped while nobody is about to call it. Both registrations were to be removed,
but the first one stays, and the thread waits for itself. -/
theorem dropped_owner_hangs :
    let state := (start 1).run (capture ++ [Move.drop 0 1])
    state.notifier.registrations.map Registration.id = [0, 1] ∧
      (state.notifier.drop [1]).registrations = [] ∧
      ∀ later, ((state.go 0).run later).Hangs 0 ∧
        ((state.go 0).run later).notifier.registrations.map Registration.id = [0] := by
  intro state
  have orderly : Orderly (fun _ => True) (state.go 0) :=
    ((Orderly.start 1).run (capture ++ [Move.drop 0 1]) fun _ _ _ _ => trivial).apply (.go 0)
      fun _ _ => trivial
  have hangs : (state.go 0).Hangs 0 := ⟨rfl, 0, [.unlock], rfl⟩
  have hfound : state.notifier.find? 1 = some ⟨1, .configurationChanged, none, (), [0]⟩ := rfl
  have hlast : (state.notifier.remove 1).find? 0 =
      some ⟨0, .configurationChanged, none, (), []⟩ := rfl
  refine ⟨rfl, ?_, fun later => ?_⟩
  · rw [Notifier.drop_found hfound, List.append_nil, Notifier.drop_alone hlast rfl]
    rfl
  · obtain ⟨hwaits, hsame⟩ := hangs.run orderly later
    rw [hsame]
    exact ⟨hwaits, rfl⟩

end Guarded

end CredentialWatch
