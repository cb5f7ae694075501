import CredentialWatch.Proofs.ExchangeRuns
import CredentialWatch.Proofs.SharedRuns

/-!
# One thread alone

What one thread does with a notifier, nested publications included, is a run of a shared notifier in
which nobody comes between: every registration is pushed as soon as it has its number, and the
publications under way are those of the nesting. So what is said of all orders in which threads take
their steps holds of exchanges.
-/
namespace CredentialWatch

variable {Listener : Type}

/-- A registration as a shared notifier has it, where a listener is known by its number. -/
def Registration.numbered (registration : Registration Listener) : Registration Nat :=
  ⟨registration.id, registration.type, registration.source?, registration.id, registration.owned⟩

def Notifier.numbered (notifier : Notifier Listener) : Notifier Nat :=
  ⟨notifier.registrations.map Registration.numbered, notifier.nextId⟩

theorem Notifier.length_audience_numbered (notifier : Notifier Listener) (event : ChangeEvent) :
    (notifier.numbered.audience event).length = (notifier.audience event).length := by
  have haccepts : (fun registration : Registration Nat => registration.accepts event) ∘
      Registration.numbered =
        fun registration : Registration Listener => registration.accepts event := rfl
  simp [audience, Notifier.numbered, List.filter_map, haccepts]

namespace Delivery

/-- A delivery to numbers that has come as far as one to listeners. -/
structure Shows (shown : Delivery Nat) (delivery : Delivery Listener) : Prop where
  event : shown.event = delivery.event
  begun : shown.begun = delivery.begun.map Registration.numbered
  completed : shown.calls.map Call.completed = delivery.calls.map Call.completed
  running : shown.running?.isSome = delivery.running?.isSome
  waiting : shown.waiting.length = delivery.waiting.length

theorem shows_begin (event : ChangeEvent) (notifier : Notifier Listener) :
    (begin event notifier.numbered).Shows (begin event notifier) where
  event := rfl
  begun := rfl
  completed := rfl
  running := rfl
  waiting := notifier.length_audience_numbered event

namespace Shows

variable {shown : Delivery Nat} {delivery : Delivery Listener}

theorem call (shows : shown.Shows delivery) : shown.call.Shows delivery.call := by
  obtain ⟨event, begun, calls, running?, waiting, delivered⟩ := delivery
  obtain ⟨event', begun', calls', running?', waiting', delivered'⟩ := shown
  obtain ⟨hevent, hbegun, hcompleted, hrunning, hwaiting⟩ := shows
  cases running? with
  | some listener =>
    obtain ⟨other, rfl⟩ : ∃ other, running?' = some other := Option.isSome_iff_exists.1 hrunning
    exact ⟨hevent, hbegun, hcompleted, hrunning, hwaiting⟩
  | none =>
    obtain rfl : running?' = none := by simpa using hrunning
    cases waiting with
    | nil =>
      obtain rfl : waiting' = [] := List.length_eq_zero_iff.1 hwaiting
      exact ⟨hevent, hbegun, hcompleted, hrunning, hwaiting⟩
    | cons listener rest =>
      obtain ⟨other, rest', rfl⟩ := List.exists_cons_of_length_eq_add_one hwaiting
      exact ⟨hevent, hbegun, hcompleted, rfl, Nat.succ.inj hwaiting⟩

theorem finish (shows : shown.Shows delivery) (completed : Bool) :
    (shown.finish completed).Shows (delivery.finish completed) := by
  obtain ⟨event, begun, calls, running?, waiting, delivered⟩ := delivery
  obtain ⟨event', begun', calls', running?', waiting', delivered'⟩ := shown
  obtain ⟨hevent, hbegun, hcompleted, hrunning, hwaiting⟩ := shows
  cases running? with
  | none =>
    obtain rfl : running?' = none := by simpa using hrunning
    exact ⟨hevent, hbegun, hcompleted, hrunning, hwaiting⟩
  | some listener =>
    obtain ⟨other, rfl⟩ : ∃ other, running?' = some other := Option.isSome_iff_exists.1 hrunning
    exact ⟨hevent, hbegun, by simpa [Delivery.finish] using hcompleted, rfl, hwaiting⟩

end Shows

end Delivery

namespace Shared

/-- A shared notifier that one thread alone has used as deliveries have been: it has the same
registrations, and its publications have the same numbers. -/
structure Shows (shared : Shared) (state : Deliveries Listener) : Prop where
  notifier : shared.notifier = state.notifier.numbered
  numbered : shared.numbered = []
  held : shared.held = state.live.map Registration.numbered
  begun : shared.publications.length = state.begun
  opened : ∀ entry ∈ state.opened, ∃ publication,
    shared.publications[entry.1]? = some publication ∧ publication.delivery.Shows entry.2

theorem shows_start : start.Shows (Deliveries.start : Deliveries Listener) :=
  ⟨rfl, rfl, rfl, rfl, by simp [Deliveries.start]⟩

namespace Shows

variable {shared : Shared} {state : Deliveries Listener}

theorem subscribe (shows : shared.Shows state) (type : EventType) (source? : Option String)
    (listener : Listener) (hfew : state.notifier.nextId < UInt64.size) :
    (shared.run [.number type source?, .push 0]).Shows
      (state.subscribe type source? listener []) := by
  have hnext : shared.notifier.nextId = state.notifier.nextId :=
    congrArg Notifier.nextId shows.notifier
  let made : Registration Listener := ⟨state.notifier.nextId, type, source?, listener, []⟩
  have hmade : (⟨shared.notifier.nextId % UInt64.size, type, source?, shared.notifier.nextId, []⟩ :
      Registration Nat) = made.numbered := by
    rw [hnext, Nat.mod_eq_of_lt hfew]
    rfl
  have hnumbered : (shared.number type source?).numbered[0]? = some made.numbered := by
    rw [← hmade, number, Notifier.allocate]
    simp [shows.numbered]
  have hpushed : shared.run [.number type source?, .push 0] =
      { shared.number type source? with
        notifier := (shared.number type source?).notifier.push made.numbered
        numbered := (shared.number type source?).numbered.eraseIdx 0
        held := shared.held ++ [made.numbered]
        history := shared.history ++ [.pushed made.numbered] } := by
    show (shared.number type source?).push 0 = _
    rw [push, hnumbered]
    rfl
  rw [hpushed, Deliveries.subscribe_nil]
  refine ⟨?_, ?_, ?_, shows.begun, shows.opened⟩
  · show (⟨shared.notifier.registrations ++ [made.numbered], shared.notifier.nextId + 1⟩ :
      Notifier Nat) = _
    rw [shows.notifier]
    simp [Notifier.numbered, Notifier.register, Notifier.allocate, Notifier.push, made]
  · show (shared.numbered ++ [_]).eraseIdx 0 = []
    simp [shows.numbered]
  · show shared.held ++ [made.numbered] = (state.live ++ [made]).map Registration.numbered
    rw [shows.held, List.map_append]
    rfl

theorem drop (shows : shared.Shows state) (sound : state.Sound) (position : Nat) :
    (shared.drop position).Shows (state.drop position) := by
  have hheld : shared.held[position]? = state.live[position]?.map Registration.numbered := by
    rw [shows.held, List.getElem?_map]
  unfold Shared.drop Deliveries.drop
  cases hlive : state.live[position]? with
  | none =>
    rw [hlive, Option.map_none] at hheld
    rw [hheld]
    exact shows
  | some subscription =>
    rw [hlive, Option.map_some] at hheld
    rw [hheld]
    refine ⟨?_, shows.numbered, ?_, shows.begun, shows.opened⟩
    · have hremoved : (state.notifier.registrations.map Registration.numbered).filter
          (·.id != subscription.numbered.id) =
            (state.live.eraseIdx position).map Registration.numbered := by
        rw [sound.registered, List.filter_map, ← Notifier.filter_id_ne sound.distinct hlive]
        rfl
      dsimp only
      rw [sound.remove_eq hlive, shows.notifier]
      simpa [Notifier.remove, Notifier.numbered] using hremoved
    · show shared.held.eraseIdx position = (state.live.eraseIdx position).map Registration.numbered
      rw [shows.held, List.eraseIdx_map]

theorem publish (shows : shared.Shows state) (event : ChangeEvent) :
    (shared.publish event).Shows (state.publish event) := by
  refine ⟨shows.notifier, shows.numbered, shows.held, ?_, fun entry hmem => ?_⟩
  · rw [Shared.publish, List.length_append, shows.begun]
    rfl
  obtain rfl | hmem := List.mem_cons.1 hmem
  · refine ⟨⟨shared.history.length, Delivery.begin event shared.notifier⟩, ?_, ?_⟩
    · rw [← shows.begun]
      exact List.getElem?_concat_length
    · rw [shows.notifier]
      exact Delivery.shows_begin event state.notifier
  · obtain ⟨publication, hpublication, hshows⟩ := shows.opened entry hmem
    have hlt := (List.getElem?_eq_some_iff.1 hpublication).1
    exact ⟨publication, (List.getElem?_append_left hlt).trans hpublication, hshows⟩

/-- What happens to the innermost publication happens to the one with its number. -/
theorem modify (shows : shared.Shows state) (recorded : state.Recorded) {number : Nat}
    {delivery : Delivery Listener} {outer : List (Nat × Delivery Listener)}
    (hopened : state.opened = (number, delivery) :: outer) {change : Delivery Nat → Delivery Nat}
    {delivery' : Delivery Listener}
    (hchange : ∀ shown : Delivery Nat, shown.Shows delivery → (change shown).Shows delivery') :
    (shared.modify number change).Shows
      { state with opened := (number, delivery') :: outer } := by
  have hshown := shows.opened
  rw [hopened] at hshown
  refine ⟨shows.notifier, shows.numbered, shows.held, ?_, fun entry hmem => ?_⟩
  · rw [Shared.modify, List.length_modify]
    exact shows.begun
  obtain rfl | hmem := List.mem_cons.1 hmem
  · obtain ⟨publication, hpublication, hshows⟩ := hshown _ List.mem_cons_self
    refine ⟨{ publication with delivery := change publication.delivery }, ?_, hchange _ hshows⟩
    rw [Shared.modify, List.getElem?_modify, hpublication]
    simp
  · obtain ⟨publication, hpublication, hshows⟩ := hshown entry (List.mem_cons_of_mem _ hmem)
    have hne : number ≠ entry.1 := (recorded.ne_number hopened
      (List.mem_append_left _ (List.mem_map_of_mem hmem))).symm
    refine ⟨publication, ?_, hshows⟩
    rw [Shared.modify, List.getElem?_modify, hpublication]
    simp [hne]

theorem call (shows : shared.Shows state) (recorded : state.Recorded) :
    ∃ moves, (shared.run moves).Shows state.call := by
  unfold Deliveries.call
  split
  · exact ⟨[], shows⟩
  · rename_i number delivery outer hopened
    split
    · exact ⟨[], shows⟩
    · have hafter := shows.modify recorded hopened fun shown => Delivery.Shows.call
      exact ⟨[.call number], hafter.notifier, hafter.numbered, hafter.held, hafter.begun,
        hafter.opened⟩

theorem finish (shows : shared.Shows state) (recorded : state.Recorded) (completed : Bool) :
    ∃ moves, (shared.run moves).Shows (state.finish completed) := by
  unfold Deliveries.finish
  cases hopened : state.opened with
  | nil =>
    refine ⟨[], ?_⟩
    rw [List.modifyHead_nil, ← hopened]
    exact shows
  | cons innermost outer =>
    exact ⟨[.finish innermost.1 completed],
      shows.modify recorded hopened fun shown hshows => hshows.finish completed⟩

theorem leave (shows : shared.Shows state) : shared.Shows state.leave := by
  unfold Deliveries.leave
  split
  · exact shows
  · rename_i number delivery outer hopened
    split
    · exact shows
    · have hshown := shows.opened
      rw [hopened] at hshown
      exact ⟨shows.notifier, shows.numbered, shows.held, shows.begun,
        fun entry hmem => hshown entry (List.mem_cons_of_mem _ hmem)⟩

/-- One move of a single thread is a number of moves of a shared notifier. -/
theorem apply (shows : shared.Shows state) (sound : state.Sound) (recorded : state.Recorded)
    (unowned : state.Unowned) {move : Deliveries.Move Listener} (hmove : move.owned = [])
    (hfew : (state.apply move).notifier.nextId ≤ UInt64.size) :
    ∃ moves, (shared.run moves).Shows (state.apply move) := by
  rw [unowned.apply_eq] at hfew ⊢
  cases move with
  | subscribe type source? listener owned =>
    obtain rfl : owned = [] := hmove
    refine ⟨_, shows.subscribe type source? listener ?_⟩
    have hnext : (state.subscribe type source? listener []).notifier.nextId =
        state.notifier.nextId + 1 := by
      rw [Deliveries.subscribe_nil]
      rfl
    rw [← Nat.succ_le_iff, Nat.succ_eq_add_one, ← hnext]
    exact hfew
  | drop position => exact ⟨[.drop position], shows.drop sound position⟩
  | publish event => exact ⟨[.publish event], shows.publish event⟩
  | leave => exact ⟨[], shows.leave⟩
  | call => exact shows.call recorded
  | finish completed => exact shows.finish recorded completed

end Shows

end Shared

namespace Deliveries

variable {state : Deliveries Listener}

/-- Numbers are only ever taken. -/
theorem nextId_le_apply (state : Deliveries Listener) (move : Move Listener) :
    state.notifier.nextId ≤ (state.apply move).notifier.nextId := by
  unfold Deliveries.apply
  split
  · exact le_rfl
  cases move with
  | subscribe type source? listener owned =>
    show _ ≤ (state.subscribe type source? listener owned).notifier.nextId
    unfold Deliveries.subscribe
    split
    · exact Nat.le_succ _
    · exact le_rfl
  | drop position =>
    show _ ≤ (state.drop position).notifier.nextId
    unfold Deliveries.drop
    split <;> exact le_rfl
  | publish | finish => exact le_rfl
  | call =>
    show _ ≤ state.call.notifier.nextId
    unfold Deliveries.call
    split
    · exact le_rfl
    · split <;> exact le_rfl
  | leave =>
    show _ ≤ state.leave.notifier.nextId
    unfold Deliveries.leave
    split
    · exact le_rfl
    · split <;> exact le_rfl

theorem nextId_le_run (state : Deliveries Listener) (moves : List (Move Listener)) :
    state.notifier.nextId ≤ (state.run moves).notifier.nextId := by
  induction moves generalizing state with
  | nil => exact le_rfl
  | cons move rest ih => exact (state.nextId_le_apply move).trans (ih _)

/-- What a single thread does to the end of a run, as long as the counter does not go round. -/
theorem Sound.shows_run (sound : state.Sound) (recorded : state.Recorded)
    (unowned : state.Unowned) {shared : Shared} (shows : shared.Shows state)
    {moves : List (Move Listener)} (hmoves : ∀ move ∈ moves, move.owned = [])
    (hfew : (state.run moves).notifier.nextId ≤ UInt64.size) :
    ∃ moves', (shared.run moves').Shows (state.run moves) := by
  induction moves generalizing state shared with
  | nil => exact ⟨[], shows⟩
  | cons move rest ih =>
    obtain ⟨hmove, hrest⟩ := List.forall_mem_cons.1 hmoves
    obtain ⟨first, hbetween⟩ := shows.apply sound recorded unowned hmove
      ((nextId_le_run (state.apply move) rest).trans hfew)
    obtain ⟨last, hlast⟩ := ih (sound.apply move) (recorded.apply move) (unowned.apply hmove)
      hbetween hrest hfew
    refine ⟨first ++ last, ?_⟩
    rw [Shared.run, List.foldl_append]
    exact hlast

end Deliveries

/-- An exchange, whatever was done with it and whatever its listeners do when they are called, has
the notifier that a run of a shared one leads to, except that listeners are known by their numbers
there. -/
theorem Exchange.Reachable.exists_run {exchange : Exchange} (reachable : exchange.Reachable)
    (hfew : exchange.notifier.nextId ≤ UInt64.size) :
    ∃ moves, (Shared.start.run moves).notifier = exchange.notifier.numbered := by
  obtain ⟨state, ⟨before, hmoves, rfl⟩, hnotifier, -⟩ :=
    reachable.leads Deliveries.start Deliveries.sound_start Deliveries.unowned_start rfl
  rw [← hnotifier] at hfew ⊢
  obtain ⟨moves, shows⟩ := Deliveries.sound_start.shows_run Deliveries.recorded_start
    Deliveries.unowned_start Shared.shows_start hmoves hfew
  exact ⟨moves, shows.notifier⟩

end CredentialWatch
