import CredentialWatch.Proofs.SharedRuns

/-!
# Threads that share a notifier do not get in one another's way

What threads have done to the registrations is kept in a history, and what stands at any moment is
what was pushed and not removed before. A number is never given twice as long as the counter has not
gone round, so a removal by number removes one registration, and the audience of a publication can
be read off the history.
-/
namespace CredentialWatch

namespace Publication

/-- The audience of a publication is what stood at its moment. -/
structure Settled (history : List Alteration) (publication : Publication) : Prop where
  past : publication.moment ≤ history.length
  begun : ∀ registration, registration ∈ publication.delivery.begun ↔
    .pushed registration ∈ history.take publication.moment ∧
      .removed registration.listener ∉ history.take publication.moment

variable {publication : Publication} {history : List Alteration}

/-- What happens later does not change the audience. -/
theorem Settled.append (settled : publication.Settled history)
    (later : List Alteration) : publication.Settled (history ++ later) where
  past := by
    rw [List.length_append]
    exact settled.past.trans (Nat.le_add_right ..)
  begun := by
    rw [List.take_append_of_le_length settled.past]
    exact settled.begun

/-- Calls go on with the audience that there is. -/
theorem Settled.go_on (settled : publication.Settled history) {change : Delivery Nat → Delivery Nat}
    (hbegun : ∀ delivery, (change delivery).begun = delivery.begun) :
    Settled history { publication with delivery := change publication.delivery } where
  past := settled.past
  begun := by
    rw [hbegun]
    exact settled.begun

end Publication

namespace Shared

variable {state : Shared}

section Numbers

variable (hfew : state.made.length ≤ UInt64.size)
include hfew

/-- As long as the counter has not gone round, a number is that of one listener. -/
theorem Numbered.id_eq (numbered : state.Numbered)
    {registration : Registration Nat} (h : registration ∈ state.made) :
    registration.id = registration.listener := by
  have hlt := numbered.listener_lt h
  obtain ⟨number, hnumber⟩ := List.mem_iff_getElem?.1 h
  obtain ⟨hlistener, hid⟩ := numbered.numbers _ _ hnumber
  rw [hid, ← hlistener, Nat.mod_eq_of_lt (by omega)]

/-- Numbers are given once. -/
theorem Numbered.made_nodup (numbered : state.Numbered) :
    (state.made.map Registration.id).Nodup := by
  have hrange : state.made.map Registration.id = List.range state.made.length := by
    refine List.ext_getElem (by simp) fun number hlt hlt' => ?_
    rw [List.length_map] at hlt
    have hnumber := numbered.numbers number _ (List.getElem?_eq_getElem hlt)
    rw [List.getElem_map, List.getElem_range, hnumber.2, Nat.mod_eq_of_lt (by omega)]
  rw [hrange]
  exact List.nodup_range

theorem Numbered.ids_nodup (numbered : state.Numbered) :
    (state.notifier.registrations.map Registration.id).Nodup := by
  have hsame : state.notifier.registrations.map Registration.id =
      state.notifier.registrations.map Registration.listener :=
    List.map_congr_left fun registration hmem =>
      numbered.id_eq hfew (numbered.known _ (List.mem_append_right _ hmem))
  rw [hsame]
  exact numbered.distinct.sublist ((List.sublist_append_right ..).map _)

end Numbers

section Registrations

/-- The registrations are the subscriptions that were pushed and not removed. -/
structure Registered (state : Shared) : Prop extends state.Numbered where
  registered : state.notifier.registrations = state.held
  pushed : ∀ registration, .pushed registration ∈ state.history → registration ∈ state.made
  standing : ∀ registration, registration ∈ state.held ↔
    .pushed registration ∈ state.history ∧ .removed registration.listener ∉ state.history
  gone : ∀ listener, .removed listener ∈ state.history → listener < state.made.length ∧
    ∀ registration ∈ state.numbered, registration.listener ≠ listener
  once : ∀ listener, state.history.count (.removed listener) ≤ 1

theorem registered_start : start.Registered where
  toNumbered := numbered_start
  registered := rfl
  pushed := by simp [start]
  standing := by simp [start]
  gone := by simp [start]
  once := by simp [start]

namespace Registered

theorem number (registered : state.Registered) (type : EventType) (source? : Option String) :
    (state.number type source?).Registered where
  toNumbered := registered.toNumbered.number type source?
  registered := registered.registered
  pushed := fun registration h => List.mem_append_left _ (registered.pushed registration h)
  standing := registered.standing
  gone := by
    intro listener h
    obtain ⟨hlt, hother⟩ := registered.gone listener h
    refine ⟨hlt.trans_le (by simp [Shared.number]), fun registration hmem => ?_⟩
    rcases List.mem_append.1 hmem with hmem | hmem
    · exact hother registration hmem
    · rw [List.mem_singleton.1 hmem]
      exact registered.counted ▸ hlt.ne'
  once := registered.once

theorem push (registered : state.Registered) (position : Nat) :
    (state.push position).Registered := by
  have hnumbered := registered.toNumbered.push position
  unfold Shared.push at hnumbered ⊢
  split
  · exact registered
  rename_i made hmade
  have hmem : made ∈ state.numbered := List.mem_of_getElem? hmade
  rw [hmade] at hnumbered
  refine
    { toNumbered := hnumbered
      registered := congrArg (· ++ [made]) registered.registered
      pushed := ?_
      standing := ?_
      gone := ?_
      once := ?_ }
  · intro registration h
    rcases List.mem_append.1 h with h | h
    · exact registered.pushed registration h
    · obtain rfl : registration = made := by simpa using h
      exact registered.known registration (List.mem_append_left _ hmem)
  · intro registration
    have hkept : .removed made.listener ∉ state.history :=
      fun h => (registered.gone made.listener h).2 made hmem rfl
    by_cases hsame : registration = made
    · simp [hsame, hkept]
    · simp [hsame, registered.standing]
  · intro listener h
    obtain ⟨hbelow, hother⟩ := registered.gone listener (by simpa using h)
    exact ⟨hbelow, fun registration h => hother registration (List.mem_of_mem_eraseIdx h)⟩
  · intro listener
    simpa using registered.once listener

section Drop

variable (hfew : state.made.length ≤ UInt64.size) {position : Nat} {subscription : Registration Nat}
include hfew

/-- A removal by number takes the registration of the subscription and no other. -/
theorem registrations_remove (registered : state.Registered)
    (h : state.held[position]? = some subscription) :
    (state.notifier.remove subscription.id).registrations = state.held.eraseIdx position := by
  have hids := registered.ids_nodup hfew
  rw [registered.registered] at hids
  rw [Notifier.remove, registered.registered, Notifier.filter_id_ne hids h]

theorem drop (registered : state.Registered) (position : Nat) :
    (state.drop position).Registered := by
  have hnumbered := registered.toNumbered.drop position
  unfold Shared.drop at hnumbered ⊢
  split
  · exact registered
  rename_i subscription hsubscription
  rw [hsubscription] at hnumbered
  obtain ⟨hlt, hget⟩ := List.getElem?_eq_some_iff.1 hsubscription
  have hmem : subscription ∈ state.held := List.mem_of_getElem? hsubscription
  have hheld : state.held.Perm (subscription :: state.held.eraseIdx position) :=
    (hget ▸ List.getElem_cons_eraseIdx_perm hlt).symm
  have hfresh : ∀ registration ∈ state.numbered ++ state.held.eraseIdx position,
      registration.listener ≠ subscription.listener := by
    have hnodup := registered.distinct
    rw [registered.registered, ((hheld.append_left _).trans List.perm_middle |>.map _).nodup_iff,
      List.map_cons, List.nodup_cons] at hnodup
    intro registration h hsame
    exact hnodup.1 (hsame ▸ List.mem_map_of_mem h)
  refine
    { toNumbered := hnumbered
      registered := registered.registrations_remove hfew hsubscription
      pushed := fun registration h => registered.pushed registration (by simpa using h)
      standing := ?_
      gone := ?_
      once := ?_ }
  · intro registration
    have hleft : registration ∈ state.held.eraseIdx position ↔
        registration ∈ state.held ∧ registration.listener ≠ subscription.listener := by
      rw [hheld.mem_iff, List.mem_cons]
      constructor
      · exact fun h => ⟨.inr h, hfresh registration (List.mem_append_right _ h)⟩
      · rintro ⟨rfl | h, hother⟩
        · exact absurd rfl hother
        · exact h
    rw [hleft, registered.standing]
    simp [and_assoc]
  · intro listener h
    rcases List.mem_append.1 h with h | h
    · exact registered.gone listener h
    · obtain rfl : listener = subscription.listener := by simpa using h
      have hknown : subscription ∈ state.made := by
        refine registered.known subscription (List.mem_append_right _ ?_)
        rwa [registered.registered]
      exact ⟨registered.listener_lt hknown,
        fun registration h => hfresh registration (List.mem_append_left _ h)⟩
  · intro listener
    rw [List.count_append]
    by_cases hsame : listener = subscription.listener
    · have hbefore := ((registered.standing subscription).1 hmem).2
      rw [hsame, List.count_eq_zero.2 hbefore]
      simp
    · have hother : List.count (Alteration.removed listener) [.removed subscription.listener] = 0 :=
        List.count_eq_zero.2 (by simpa using hsame)
      rw [hother]
      exact registered.once listener

end Drop

/-- What one move preserves. -/
theorem apply (registered : state.Registered) (hfew : state.made.length ≤ UInt64.size)
    (move : Move) :
    (state.apply move).Registered := by
  cases move with
  | number type source? => exact registered.number type source?
  | push position => exact registered.push position
  | drop position => exact registered.drop hfew position
  | publish event =>
    exact { registered with toNumbered := registered.toNumbered.apply (.publish event) }
  | call publication =>
    exact { registered with toNumbered := registered.toNumbered.apply (.call publication) }
  | finish publication completed =>
    exact { registered with
      toNumbered := registered.toNumbered.apply (.finish publication completed) }

end Registered

/-- The publications keep what stood when they began. -/
def Settled (state : Shared) : Prop :=
  ∀ publication ∈ state.publications, publication.Settled state.history

theorem Settled.apply (settled : state.Settled) (registered : state.Registered) (move : Move) :
    (state.apply move).Settled := by
  cases move with
  | number type source? => exact settled
  | push position =>
    show (state.push position).Settled
    unfold push
    split
    · exact settled
    · exact fun publication hmem => (settled publication hmem).append _
  | drop position =>
    show (state.drop position).Settled
    unfold drop
    split
    · exact settled
    · exact fun publication hmem => (settled publication hmem).append _
  | publish event =>
    intro publication hmem
    rcases List.mem_append.1 hmem with hmem | hmem
    · exact settled publication hmem
    · rw [List.mem_singleton.1 hmem]
      refine ⟨le_rfl, ?_⟩
      show ∀ registration, registration ∈ state.notifier.registrations ↔
        .pushed registration ∈ state.history.take state.history.length ∧
          .removed registration.listener ∉ state.history.take state.history.length
      rw [registered.registered, List.take_length]
      exact registered.standing
  | call publication =>
    exact forall_modify settled (fun _ settled => settled.go_on Delivery.begun_call) publication
  | finish publication completed =>
    exact forall_modify settled (fun _ settled => settled.go_on (Delivery.begun_finish completed))
      publication

theorem length_made_apply (state : Shared) (move : Move) : (state.apply move).made.length =
    state.made.length + if move.takesNumber then 1 else 0 := by
  cases move with
  | number type source? => exact List.length_append
  | push position =>
    show (state.push position).made.length = _
    unfold push
    split <;> rfl
  | drop position =>
    show (state.drop position).made.length = _
    unfold drop
    split <;> rfl
  | publish event => rfl
  | call publication => rfl
  | finish publication completed => rfl

theorem length_made_run (state : Shared) (moves : List Move) :
    (state.run moves).made.length = state.made.length + moves.countP Move.takesNumber := by
  induction moves generalizing state with
  | nil => rfl
  | cons move rest ih =>
    have hlength : (state.run (move :: rest)).made.length =
        (state.apply move).made.length + rest.countP Move.takesNumber := ih (state.apply move)
    rw [hlength, length_made_apply, List.countP_cons]
    omega

/-- What a whole run preserves in which the counter does not go round. -/
theorem registered_run (registered : state.Registered) (settled : state.Settled) (moves : List Move)
    (hfew : state.made.length + moves.countP Move.takesNumber ≤ UInt64.size) :
    (state.run moves).Registered ∧ (state.run moves).Settled := by
  induction moves generalizing state with
  | nil => exact ⟨registered, settled⟩
  | cons move rest ih =>
    have hlength := state.length_made_apply move
    rw [List.countP_cons] at hfew
    refine ih (registered.apply (by omega) move) (settled.apply registered move) ?_
    omega

theorem Registered.count_eq (registered : state.Registered)
    (hempty : ∀ registration, .pushed registration ∈ state.history →
      .removed registration.listener ∈ state.history) : state.notifier.count = 0 := by
  rw [Notifier.count, registered.registered, List.length_eq_zero_iff,
    List.eq_nil_iff_forall_not_mem]
  intro registration hmem
  obtain ⟨hpushed, hkept⟩ := (registered.standing registration).1 hmem
  exact hkept (hempty registration hpushed)

/-- Those in an audience are those for whom the publication is due. -/
theorem Settled.isFor_iff (settled : state.Settled) {publication : Publication}
    (hpublication : publication ∈ state.publications) (registration : Registration Nat) :
    publication.IsFor registration ↔ state.Due publication registration := by
  rw [Publication.IsFor, (settled publication hpublication).begun, and_assoc]
  rfl

end Registrations

/-- Whatever the order in which threads take their steps, as long as the counter does not go round:
numbers are given once, the registrations are what was pushed and not removed, a subscription
removes its own registration, once, and a publication calls those whose registrations are for it
once and nobody else. -/
theorem interleavings_keep_registrations_apart (moves : List Move)
    (hfew : moves.countP Move.takesNumber ≤ UInt64.size) :
    let state := start.run moves
    (state.made.map Registration.id).Nodup ∧
      (∀ registration, .pushed registration ∈ state.history → registration ∈ state.made) ∧
      (state.notifier.registrations.map Registration.id).Nodup ∧
      (∀ registration, registration ∈ state.notifier.registrations ↔
        .pushed registration ∈ state.history ∧ .removed registration.listener ∉ state.history) ∧
      (∀ (position : Nat) (subscription : Registration Nat),
        state.held[position]? = some subscription →
          state.notifier.registrations[position]? = some subscription ∧
            (state.drop position).notifier.registrations =
              state.notifier.registrations.eraseIdx position) ∧
      (∀ listener, state.history.count (.removed listener) ≤ 1) ∧
      (∀ (number : Nat) (publication : Publication) (registration : Registration Nat),
        state.publications[number]? = some publication → .pushed registration ∈ state.history →
          state.calls.count (number, registration.listener) ≤
              (if state.Due publication registration then 1 else 0) ∧
            (publication.isOver → state.calls.count (number, registration.listener) =
              if state.Due publication registration then 1 else 0)) ∧
      (∀ call ∈ state.calls, ∃ publication registration,
        state.publications[call.1]? = some publication ∧
        state.Due publication registration ∧ registration.listener = call.2) ∧
      ((∀ registration, .pushed registration ∈ state.history →
        .removed registration.listener ∈ state.history) → state.notifier.count = 0) := by
  intro state
  have hmade : state.made.length ≤ UInt64.size := by
    rw [length_made_run]
    simpa [start] using hfew
  have sound : state.Sound := sound_start.run moves
  obtain ⟨registered, settled⟩ : state.Registered ∧ state.Settled :=
    registered_run registered_start (by simp [Settled, start]) moves (by simpa [start] using hfew)
  refine ⟨registered.made_nodup hmade, registered.pushed, registered.ids_nodup hmade, ?_, ?_,
    registered.once, ?_, ?_, registered.count_eq⟩
  · rw [registered.registered]
    exact registered.standing
  · intro position subscription h
    rw [registered.registered]
    refine ⟨h, ?_⟩
    rw [drop, h]
    exact registered.registrations_remove hmade h
  · intro number publication registration hnumber hpushed
    have hcount := sound.count_calls hnumber (registered.pushed registration hpushed)
    simpa only [settled.isFor_iff (List.mem_of_getElem? hnumber)] using hcount
  · intro call hcall
    obtain ⟨publication, registration, hpublication, hfor, hlistener⟩ := sound.exists_called hcall
    exact ⟨publication, registration, hpublication,
      (settled.isFor_iff (List.mem_of_getElem? hpublication) registration).1 hfor, hlistener⟩

/-- The second of two registrations is pushed first and dropped while a publication is about to call
it; the first one is pushed too late to be called. In the end both are dropped. -/
theorem dropped_while_it_is_called :
    let moves : List Move := [.number .configurationChanged none,
      .number .configurationChanged (some "/store.jks"), .push 1,
      .publish ⟨.configurationChanged, "/store.jks", ⟨0, 0⟩⟩, .push 0, .drop 0, .call 0,
      .finish 0 true,
      .drop 0]
    let late : Registration Nat := ⟨0, .configurationChanged, none, 0, []⟩
    let early : Registration Nat := ⟨1, .configurationChanged, some "/store.jks", 1, []⟩
    let state := start.run moves
    moves.countP Move.takesNumber ≤ UInt64.size ∧
      state.history = [.pushed early, .pushed late, .removed 1, .removed 0] ∧
      state.calls.count (0, 1) = 1 ∧ state.calls.count (0, 0) = 0 ∧ state.notifier.count = 0 := by
  intro moves late early state
  have hfew : moves.countP Move.takesNumber ≤ UInt64.size := by decide
  have hhistory : state.history = [.pushed early, .pushed late, .removed 1, .removed 0] := by decide
  let publication : Publication :=
    ⟨1, ⟨⟨.configurationChanged, "/store.jks", ⟨0, 0⟩⟩, [early], [⟨1, true⟩], none, [], 1⟩⟩
  have hpublication : state.publications[0]? = some publication := by rfl
  have hearly : state.Due publication early := by decide
  have hlate : ¬ state.Due publication late := by decide
  obtain ⟨-, -, -, -, -, -, hcalls, -, hcount⟩ := interleavings_keep_registrations_apart moves hfew
  refine ⟨hfew, hhistory, ?_, ?_, ?_⟩
  · rw [(hcalls 0 publication early hpublication (by decide)).2 rfl, if_pos hearly]
  · exact Nat.le_zero.1
      ((hcalls 0 publication late hpublication (by decide)).1.trans_eq (if_neg hlate))
  · refine hcount fun registration h => ?_
    change .pushed registration ∈ state.history at h
    rw [hhistory] at h
    obtain rfl | rfl : registration = early ∨ registration = late := by simpa using h
    · decide
    · decide

end Shared

end CredentialWatch
