import CredentialWatch.Event.Locking

/-!
# What threads do under the lock

A move comes to a part of one thread's work, with one effect for each kind of part. In every run the
thread that holds the lock does nothing but drop what a destroyed listener owned, and then gives the
lock back; code from outside runs in other threads alone. If there is something to drop, that thread
asks for the lock that it holds, and from then on no move lets it go on or changes the
registrations.
-/
namespace CredentialWatch.Guarded

variable {state changed : Guarded} {thread : Nat} {duties rest before after : List Duty}

/-- What a move does to everything but the threads, when it is a part of a thread's work, and what
the thread has to do before and after it. -/
inductive Effect (state : Guarded) (thread : Nat) : Move → List Duty → List Duty → Guarded → Prop
  | subscribe (duties : List Duty) (outside : state.outside? thread = some duties)
      (type : EventType) (source? : Option String) (owned : List Nat) (nodup : owned.Nodup)
      (held : ∀ id ∈ owned, id ∈ state.held) :
      Effect state thread (.subscribe thread type source? owned) duties
        (.push ⟨state.notifier.nextId, type, source?, (), owned⟩ :: duties)
        { state with
          notifier := state.notifier.allocate.2
          held := state.held.filter (· ∉ owned) }
  | drop (duties : List Duty) (outside : state.outside? thread = some duties) (id : Nat)
      (held : id ∈ state.held) :
      Effect state thread (.drop thread id) duties (.drop id :: duties)
        { state with held := state.held.erase id }
  | publish (duties : List Duty) (outside : state.outside? thread = some duties)
      (event : ChangeEvent) :
      Effect state thread (.publish thread event) duties (.publish event :: duties) state
  | push (registration : Registration Unit) (rest : List Duty) (free : state.holder? = none) :
      Effect state thread (.go thread) (.push registration :: rest) rest
        { state with
          notifier := state.notifier.push registration
          held := state.held ++ [registration.id] }
  | removeNone (id : Nat) (rest : List Duty) (free : state.holder? = none)
      (missing : state.notifier.find? id = none) :
      Effect state thread (.go thread) (.drop id :: rest) (.unlock :: rest)
        { state with notifier := state.notifier.remove id, holder? := some thread }
  | removeCopied (id : Nat) (rest : List Duty) (free : state.holder? = none)
      (registration : Registration Unit) (found : state.notifier.find? id = some registration)
      (copied : (state.proceed thread rest).Copied id) :
      Effect state thread (.go thread) (.drop id :: rest) (.unlock :: rest)
        { state with
          notifier := state.notifier.remove id
          holder? := some thread
          lingering := state.lingering ++ [registration] }
  | removeLast (id : Nat) (rest : List Duty) (free : state.holder? = none)
      (registration : Registration Unit) (found : state.notifier.find? id = some registration)
      (last : ¬(state.proceed thread rest).Copied id) :
      Effect state thread (.go thread) (.drop id :: rest)
        (registration.owned.map Duty.drop ++ .unlock :: rest)
        { state with notifier := state.notifier.remove id, holder? := some thread }
  | unlock (rest : List Duty) :
      Effect state thread (.go thread) (.unlock :: rest) rest { state with holder? := none }
  | settle (event : ChangeEvent) (rest : List Duty) (free : state.holder? = none) :
      Effect state thread (.go thread) (.publish event :: rest)
        ((state.notifier.registrations.filter (·.accepts event)).map
          (fun registration => Duty.call registration.id) ++ rest) state
  | call (id : Nat) (rest : List Duty) :
      Effect state thread (.go thread) (.call id :: rest) (.release id :: rest) state
  | release (id : Nat) (rest : List Duty)
      (kept : state.lingering.find? (·.id == id) = none ∨ (state.proceed thread rest).Copied id) :
      Effect state thread (.go thread) (.release id :: rest) rest state
  | releaseLast (id : Nat) (rest : List Duty) (registration : Registration Unit)
      (lingers : state.lingering.find? (·.id == id) = some registration)
      (last : ¬(state.proceed thread rest).Copied id) :
      Effect state thread (.go thread) (.release id :: rest)
        (registration.owned.map Duty.drop ++ rest)
        { state with lingering := state.lingering.filter (·.id != id) }

theorem proceed_proceed (state : Guarded) (thread : Nat) (duties later : List Duty) :
    (state.proceed thread duties).proceed thread later = state.proceed thread later := by
  simp [proceed]

theorem outside?_eq_some_iff : state.outside? thread = some duties ↔
    state.threads[thread]? = some duties ∧
      (duties = [] ∨ ∃ id rest, duties = .release id :: rest) := by
  rw [outside?]
  constructor
  · intro h
    split at h
    · next hthread => cases h; exact ⟨hthread, .inl rfl⟩
    · next id rest hthread => cases h; exact ⟨hthread, .inr ⟨id, rest, rfl⟩⟩
    · cases h
  · rintro ⟨hthread, rfl | ⟨id, rest, rfl⟩⟩ <;> rw [hthread]

/-- A part that does not have to wait for the lock. -/
theorem go_of_ready {duty : Duty} (hthread : state.threads[thread]? = some (duty :: rest))
    (hready : duty.needsLock → state.holder? = none) :
    state.go thread = (state.proceed thread rest).perform thread rest duty := by
  have hgo : (duty.needsLock && state.holder?.isSome) = false := by
    cases hneeds : duty.needsLock with
    | false => rfl
    | true => rw [hready hneeds]; rfl
  rw [go, hthread]
  simp only [hgo, Bool.false_eq_true, if_false]

theorem effect_perform (thread : Nat) (rest : List Duty) {duty : Duty}
    (hready : duty.needsLock → state.holder? = none) :
    ∃ after changed, Effect state thread (.go thread) (duty :: rest) after changed ∧
      (state.proceed thread rest).perform thread rest duty = changed.proceed thread after := by
  cases duty with
  | push registration => exact ⟨_, _, .push registration rest (hready rfl), rfl⟩
  | drop id =>
    rw [perform, remove]
    have hnotifier : (state.proceed thread rest).notifier = state.notifier := rfl
    rw [hnotifier]
    split
    · next missing => exact ⟨_, _, .removeNone id rest (hready rfl) missing, by simp [proceed]⟩
    · next registration found =>
      split
      · next copied =>
        exact ⟨_, _, .removeCopied id rest (hready rfl) registration found copied,
          by simp [proceed]⟩
      · next last =>
        exact ⟨_, _, .removeLast id rest (hready rfl) registration found last, by simp [proceed]⟩
  | unlock => exact ⟨_, _, .unlock rest, rfl⟩
  | publish event =>
    exact ⟨_, _, .settle event rest (hready rfl), proceed_proceed ..⟩
  | call id => exact ⟨_, _, .call id rest, proceed_proceed ..⟩
  | release id =>
    rw [perform, release]
    have hlingering : (state.proceed thread rest).lingering = state.lingering := rfl
    rw [hlingering]
    split
    · next none => exact ⟨_, _, .release id rest (.inl none), rfl⟩
    · next registration lingers =>
      split
      · next copied => exact ⟨_, _, .release id rest (.inr copied), rfl⟩
      · next last =>
        exact ⟨_, _, .releaseLast id rest registration lingers last, by simp [proceed]⟩

/-- A move has no effect, or that of a part of some thread's work. -/
theorem apply_cases (state : Guarded) (move : Move) :
    state.apply move = state ∨
      ∃ thread before after changed, state.threads[thread]? = some before ∧
        Effect state thread move before after changed ∧
          state.apply move = changed.proceed thread after := by
  cases move with
  | subscribe thread type source? owned =>
    rw [apply, subscribe]
    split
    · exact .inl rfl
    · next duties outside =>
      split
      · next htaken =>
        exact .inr ⟨thread, duties, _, _, (outside?_eq_some_iff.1 outside).1,
          .subscribe duties outside type source? owned htaken.1 htaken.2, rfl⟩
      · exact .inl rfl
  | drop thread id =>
    rw [apply, drop]
    split
    · exact .inl rfl
    · next duties outside =>
      split
      · next held =>
        exact .inr ⟨thread, duties, _, _, (outside?_eq_some_iff.1 outside).1,
          .drop duties outside id held, rfl⟩
      · exact .inl rfl
  | publish thread event =>
    rw [apply, publish]
    split
    · exact .inl rfl
    · next duties outside =>
      exact .inr ⟨thread, duties, _, _, (outside?_eq_some_iff.1 outside).1,
        .publish duties outside event, rfl⟩
  | go thread =>
    by_cases hthread : ∃ duty rest, state.threads[thread]? = some (duty :: rest) ∧
        (duty.needsLock → state.holder? = none)
    · obtain ⟨duty, rest, hthread, hready⟩ := hthread
      obtain ⟨after, changed, heffect, hperform⟩ := effect_perform thread rest hready
      exact .inr ⟨thread, _, after, changed, hthread, heffect,
        (go_of_ready hthread hready).trans hperform⟩
    · left
      rw [apply, go]
      split
      · next duty rest hduties =>
        split
        · rfl
        · next hgo =>
          refine absurd ⟨duty, rest, hduties, fun hneeds => ?_⟩ hthread
          simpa [hneeds] using hgo
      · rfl

/-- What a thread has to do if it holds the lock, and if it does not: with the lock, it drops what a
destroyed listener owned and gives the lock back. -/
structure Locking (ownable : Nat → Prop) (holds : Prop) (duties : List Duty) : Prop where
  holder : holds → ∃ (orphans : List Nat) (rest : List Duty),
    duties = orphans.map Duty.drop ++ .unlock :: rest ∧
    (∀ id ∈ orphans, ownable id) ∧ .unlock ∉ rest
  other : ¬holds → .unlock ∉ duties

/-- Threads that do nothing with the lock but drop what a destroyed listener owned, where what
listeners own satisfies a condition. -/
structure Orderly (ownable : Nat → Prop) (state : Guarded) : Prop where
  owned : ∀ registration ∈ state.notifier.registrations ++ state.lingering,
    ∀ id ∈ registration.owned, ownable id
  pushed : ∀ duties ∈ state.threads, ∀ registration, .push registration ∈ duties →
    ∀ id ∈ registration.owned, ownable id
  locking : ∀ thread duties, state.threads[thread]? = some duties →
    Locking ownable (state.holder? = some thread) duties
  /-- The lock is held by one of the threads. -/
  holder : ∀ thread, state.holder? = some thread → thread < state.threads.length

section Order

variable {ownable : Nat → Prop}

/-- With the lock, a thread's next duty is a drop or to give the lock back. -/
theorem Locking.head {holds : Prop} {duty : Duty} (locking : Locking ownable holds (duty :: rest))
    (h : holds) : (∃ id, duty = .drop id ∧ ownable id) ∨ duty = .unlock ∧ .unlock ∉ rest := by
  obtain ⟨orphans, behind, hduties, hownable, hbehind⟩ := locking.holder h
  cases orphans with
  | nil =>
    obtain ⟨rfl, rfl⟩ := List.cons.inj hduties
    exact .inr ⟨rfl, hbehind⟩
  | cons id others =>
    obtain ⟨rfl, -⟩ := List.cons.inj hduties
    exact .inl ⟨id, rfl, hownable id List.mem_cons_self⟩

/-- Code outside runs in no thread that holds the lock. -/
theorem Orderly.not_holder_of_outside (orderly : Orderly ownable state)
    (h : state.outside? thread = some duties) : state.holder? ≠ some thread := by
  intro hholder
  obtain ⟨hthread, hnext⟩ := outside?_eq_some_iff.1 h
  have hlocking := orderly.locking thread duties hthread
  rcases hnext with rfl | ⟨id, rest, rfl⟩
  · obtain ⟨orphans, rest, hduties, -⟩ := hlocking.holder hholder
    simp at hduties
  · rcases hlocking.head hholder with ⟨_, h, -⟩ | ⟨h, -⟩ <;> cases h

variable {move : Move}

theorem Effect.threads (effect : Effect state thread move before after changed) :
    changed.threads = state.threads := by
  cases effect <;> rfl

theorem mem_remove {notifier : Notifier Unit} {id : Nat} {registration : Registration Unit}
    (h : registration ∈ (notifier.remove id).registrations) :
    registration ∈ notifier.registrations :=
  (List.mem_filter.1 h).1

/-- A registration is where it was, or the thread has pushed it. -/
theorem Effect.mem_registrations (effect : Effect state thread move before after changed)
    {registration : Registration Unit}
    (h : registration ∈ changed.notifier.registrations ++ changed.lingering) :
    registration ∈ state.notifier.registrations ++ state.lingering ∨
      .push registration ∈ before := by
  cases effect with
  | subscribe | drop | publish | unlock | settle | call | release => exact .inl h
  | push pushed rest =>
    simp only [Notifier.push, List.mem_append, List.mem_singleton] at h
    rcases h with (h | rfl) | h
    · exact .inl (List.mem_append_left _ h)
    · exact .inr List.mem_cons_self
    · exact .inl (List.mem_append_right _ h)
  | removeNone id rest | removeLast id rest =>
    left
    rcases List.mem_append.1 h with h | h
    · exact List.mem_append_left _ (mem_remove h)
    · exact List.mem_append_right _ h
  | removeCopied id rest free removed found =>
    left
    rcases List.mem_append.1 h with h | h
    · exact List.mem_append_left _ (mem_remove h)
    · rcases List.mem_append.1 h with h | h
      · exact List.mem_append_right _ h
      · obtain rfl := List.mem_singleton.1 h
        exact List.mem_append_left _ (List.mem_of_find?_eq_some found)
  | releaseLast id rest =>
    left
    rcases List.mem_append.1 h with h | h
    · exact List.mem_append_left _ h
    · exact List.mem_append_right _ (List.mem_filter.1 h).1

/-- A registration that is to be pushed was so before, or the move makes it. -/
theorem Effect.mem_push (effect : Effect state thread move before after changed)
    {registration : Registration Unit} (h : .push registration ∈ after) :
    .push registration ∈ before ∨ registration.owned = move.owned := by
  cases effect with
  | subscribe duties outside type source? owned =>
    rcases List.mem_cons.1 h with h | h
    · cases h
      exact .inr rfl
    · exact .inl h
  | push pushed rest => exact .inl (List.mem_cons_of_mem _ h)
  | _ => left; simpa using h

/-- What is owned by any listener satisfies the condition still. -/
theorem Orderly.owned_effect (orderly : Orderly ownable state)
    (hthread : state.threads[thread]? = some before)
    (effect : Effect state thread move before after changed)
    (hmove : ∀ id ∈ move.owned, ownable id) :
    (∀ registration ∈ changed.notifier.registrations ++ changed.lingering,
      ∀ id ∈ registration.owned, ownable id) ∧
    ∀ registration, .push registration ∈ after → ∀ id ∈ registration.owned, ownable id := by
  have hbefore : ∀ registration, .push registration ∈ before →
      ∀ id ∈ registration.owned, ownable id :=
    orderly.pushed before (List.mem_of_getElem? hthread)
  constructor
  · intro registration h
    rcases effect.mem_registrations h with h | h
    · exact orderly.owned registration h
    · exact hbefore registration h
  · intro registration h
    rcases effect.mem_push h with h | h
    · exact hbefore registration h
    · exact h ▸ hmove

theorem Locking.of_not_mem {holds : Prop} (h : ¬holds) (hduties : .unlock ∉ after) :
    Locking ownable holds after :=
  ⟨fun holder => absurd holder h, fun _ => hduties⟩

/-- A thread that does something else than to drop or to give back the lock does not hold it. -/
theorem Orderly.not_holder (orderly : Orderly ownable state) {duty : Duty}
    (hthread : state.threads[thread]? = some (duty :: rest)) (hdrop : ∀ id, duty ≠ .drop id)
    (hunlock : duty ≠ .unlock) : state.holder? ≠ some thread := by
  intro hholder
  rcases (orderly.locking thread _ hthread).head hholder with ⟨id, h, -⟩ | ⟨h, -⟩
  · exact hdrop id h
  · exact hunlock h

theorem Orderly.locking_effect (orderly : Orderly ownable state)
    (hthread : state.threads[thread]? = some before)
    (effect : Effect state thread move before after changed) :
    Locking ownable (changed.holder? = some thread) after := by
  have hbefore := orderly.locking thread before hthread
  cases effect with
  | subscribe duties outside | drop duties outside | publish duties outside =>
    have hholder := orderly.not_holder_of_outside outside
    exact .of_not_mem hholder (by simpa using hbefore.other hholder)
  | push | settle | call | release =>
    have hholder := orderly.not_holder hthread (by simp) (by simp)
    exact .of_not_mem hholder (by simpa using hbefore.other hholder)
  | releaseLast =>
    have hholder := orderly.not_holder hthread (by simp) (by simp)
    exact .of_not_mem hholder (by simpa using hbefore.other hholder)
  | unlock rest =>
    have hholder : state.holder? = some thread :=
      Decidable.of_not_not fun h => hbefore.other h List.mem_cons_self
    rcases hbefore.head hholder with ⟨id, h, -⟩ | ⟨-, hrest⟩
    · cases h
    · exact .of_not_mem (by simp) hrest
  | removeNone id rest free | removeCopied id rest free =>
    have hrest : .unlock ∉ rest := by simpa using hbefore.other (by simp [free])
    exact ⟨fun _ => ⟨[], rest, rfl, by simp, hrest⟩, fun h => absurd rfl h⟩
  | removeLast id rest free registration found =>
    have hrest : .unlock ∉ rest := by simpa using hbefore.other (by simp [free])
    refine ⟨fun _ => ⟨registration.owned, rest, rfl, ?_, hrest⟩, fun h => absurd rfl h⟩
    exact orderly.owned registration (List.mem_append_left _ (List.mem_of_find?_eq_some found))

theorem Effect.holder_other (effect : Effect state thread move before after changed)
    (orderly : Orderly ownable state) (hthread : state.threads[thread]? = some before)
    {other : Nat} (hother : other ≠ thread) :
    changed.holder? = some other ↔ state.holder? = some other := by
  cases effect with
  | removeNone id rest free | removeCopied id rest free | removeLast id rest free =>
    simp [free, hother.symm]
  | unlock rest =>
    have hholder : state.holder? = some thread :=
      Decidable.of_not_not fun h => (orderly.locking thread _ hthread).other h List.mem_cons_self
    simp [hholder, hother.symm]
  | _ => exact .rfl

theorem Orderly.effect (orderly : Orderly ownable state)
    (hthread : state.threads[thread]? = some before)
    (effect : Effect state thread move before after changed)
    (hmove : ∀ id ∈ move.owned, ownable id) :
    Orderly ownable (changed.proceed thread after) := by
  obtain ⟨howned, hpushed⟩ := orderly.owned_effect hthread effect hmove
  have hlength : thread < state.threads.length := (List.getElem?_eq_some_iff.1 hthread).1
  refine ⟨howned, fun duties hduties => ?_, fun other duties hother => ?_, fun other hother => ?_⟩
  · rw [proceed, effect.threads] at hduties
    rcases List.mem_or_eq_of_mem_set hduties with h | rfl
    · exact orderly.pushed duties h
    · exact hpushed
  · rw [proceed, effect.threads, List.getElem?_set] at hother
    by_cases h : thread = other
    · obtain rfl := h
      rw [if_pos rfl, if_pos hlength] at hother
      cases hother
      have hlocking := orderly.locking_effect hthread effect
      exact hlocking
    · rw [if_neg h] at hother
      have hlocking := orderly.locking other duties hother
      rwa [← effect.holder_other orderly hthread (Ne.symm h)] at hlocking
  · rw [proceed, effect.threads, List.length_set]
    by_cases h : other = thread
    · exact h ▸ hlength
    · exact orderly.holder other ((effect.holder_other orderly hthread h).1 hother)

theorem Orderly.apply (orderly : Orderly ownable state) (move : Move)
    (hmove : ∀ id ∈ move.owned, ownable id) : Orderly ownable (state.apply move) := by
  rcases state.apply_cases move with h | ⟨thread, before, after, changed, hthread, heffect, h⟩
  · rwa [h]
  · rw [h]
    exact orderly.effect hthread heffect hmove

theorem Orderly.start (threads : Nat) : Orderly ownable (start threads) where
  owned := by simp [Guarded.start, Notifier.empty]
  pushed duties hduties registration h := by
    rw [List.eq_of_mem_replicate hduties] at h
    cases h
  locking thread duties hthread := by
    obtain rfl := List.eq_of_mem_replicate (List.mem_of_getElem? hthread)
    exact .of_not_mem (by simp [Guarded.start]) (by simp)
  holder thread h := by cases h

theorem Orderly.run {state : Guarded} (orderly : Orderly ownable state) (moves : List Move)
    (hmoves : ∀ move ∈ moves, ∀ id ∈ move.owned, ownable id) :
    Orderly ownable (state.run moves) := by
  induction moves generalizing state with
  | nil => exact orderly
  | cons move rest ih =>
    exact ih (orderly.apply move (hmoves move List.mem_cons_self)) fun move hmove =>
      hmoves move (List.mem_cons_of_mem _ hmove)

end Order

section Hanging

variable {ownable : Nat → Prop} {move : Move}

/-- While the lock is held, no registration is pushed or removed. -/
theorem Effect.registrations_of_held (effect : Effect state thread move before after changed)
    (held : state.holder? ≠ none) :
    changed.notifier.registrations = state.notifier.registrations := by
  cases effect with
  | push _ _ free | removeNone _ _ free | removeCopied _ _ free | removeLast _ _ free =>
    exact absurd free held
  | _ => rfl

/-- A thread that waits for a lock of its own has no part to go on with. -/
theorem Hangs.not_effect (hangs : state.Hangs thread) (orderly : Orderly ownable state)
    (hthread : state.threads[thread]? = some before) :
    ¬Effect state thread move before after changed := by
  obtain ⟨hholder, id, rest, hdrop⟩ := hangs
  obtain rfl : before = .drop id :: rest := Option.some.inj (hthread.symm.trans hdrop)
  intro effect
  have hheld : state.holder? ≠ none := by simp [hholder]
  cases effect with
  | subscribe _ outside | drop _ outside | publish _ outside =>
    exact orderly.not_holder_of_outside outside hholder
  | removeNone _ _ free | removeCopied _ _ free | removeLast _ _ free => exact hheld free

/-- Whatever is done then, the thread waits on and the registrations stay. -/
theorem Hangs.apply (hangs : state.Hangs thread) (orderly : Orderly ownable state) (move : Move) :
    (state.apply move).Hangs thread ∧
      (state.apply move).notifier.registrations = state.notifier.registrations := by
  rcases state.apply_cases move with h | ⟨other, before, after, changed, hthread, heffect, h⟩
  · rw [h]
    exact ⟨hangs, rfl⟩
  · have hother : thread ≠ other := by
      rintro rfl
      exact hangs.not_effect orderly hthread heffect
    obtain ⟨hholder, id, rest, hdrop⟩ := hangs
    rw [h]
    refine ⟨⟨(heffect.holder_other orderly hthread hother).2 hholder, id, rest, ?_⟩,
      heffect.registrations_of_held (by simp [hholder])⟩
    rw [proceed, heffect.threads, List.getElem?_set_ne hother.symm]
    exact hdrop

theorem Hangs.run {state : Guarded} (hangs : state.Hangs thread)
    (orderly : Orderly (fun _ => True) state) (moves : List Move) :
    (state.run moves).Hangs thread ∧
      (state.run moves).notifier.registrations = state.notifier.registrations := by
  induction moves generalizing state with
  | nil => exact ⟨hangs, rfl⟩
  | cons move rest ih =>
    obtain ⟨hnext, hsame⟩ := hangs.apply orderly move
    obtain ⟨hlast, hrest⟩ := ih hnext (orderly.apply move fun _ _ => trivial)
    exact ⟨hlast, hrest.trans hsame⟩

end Hanging

end CredentialWatch.Guarded
