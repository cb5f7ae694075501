import Mathlib
import CredentialWatch.Event.Delivery

/-!
# Runs of deliveries

Every move keeps the registrations equal to the live subscriptions and every delivery equal to the
audience it began with, cut into those called, the one being called and those still waiting.
Listeners that drop, register or publish in between only add moves.
-/
namespace CredentialWatch

variable {Listener : Type}

namespace Notifier

variable {notifier : Notifier Listener} {id : Nat}

theorem drop_none (h : notifier.find? id = none) : notifier.drop [id] = notifier := by
  rw [drop]
  split
  · rw [drop]
  · simp_all

theorem drop_found {registration : Registration Listener} {rest : List Nat}
    (h : notifier.find? id = some registration) :
    notifier.drop (id :: rest) = (notifier.remove id).drop (registration.owned ++ rest) := by
  rw [drop]
  split
  · simp_all
  · rename_i found hfound
    obtain rfl : registration = found := by
      rw [h] at hfound
      exact Option.some.inj hfound
    rfl

theorem drop_alone {registration : Registration Listener}
    (h : notifier.find? id = some registration) (howned : registration.owned = []) :
    notifier.drop [id] = notifier.remove id := by
  rw [drop_found h, howned, List.nil_append, drop]

section DistinctNumbers

variable {registrations : List (Registration Listener)} {registration : Registration Listener}

/-- Where numbers are distinct, removing by a number removes at its position. -/
theorem filter_id_ne (hdistinct : (registrations.map Registration.id).Nodup) {position : Nat}
    (h : registrations[position]? = some registration) :
    registrations.filter (·.id != registration.id) = registrations.eraseIdx position := by
  induction registrations generalizing position with
  | nil => rfl
  | cons first others ih =>
    rw [List.map_cons, List.nodup_cons] at hdistinct
    obtain ⟨hfirst, hothers⟩ := hdistinct
    cases position with
    | zero =>
      obtain rfl : first = registration := by simpa using h
      have hkept : ∀ other ∈ others, (other.id != first.id) = true := by
        intro other hmem
        refine bne_iff_ne.2 fun hid => hfirst ?_
        rw [← hid]
        exact List.mem_map_of_mem hmem
      rw [List.filter_cons_of_neg (by simp), List.eraseIdx_cons_zero, List.filter_eq_self.2 hkept]
    | succ position =>
      have h : others[position]? = some registration := by simpa using h
      have hne : (first.id != registration.id) = true := by
        refine bne_iff_ne.2 fun hid => hfirst ?_
        rw [hid]
        exact List.mem_map_of_mem (List.mem_of_getElem? h)
      have hsame : others.filter (·.id != registration.id) = others.eraseIdx position :=
        ih hothers h
      rw [List.eraseIdx_cons_succ, ← hsame]
      exact List.filter_cons_of_pos hne

end DistinctNumbers

end Notifier

namespace Registration

/-- The listeners that an event reaches among registrations, in their order: those for its type that
name no path or its path. -/
def reached (registrations : List (Registration Listener)) (event : ChangeEvent) : List Listener :=
  (registrations.filter fun registration => registration.type = event.type ∧
    ∀ source ∈ registration.source?, Path.same source event.path).map listener

theorem audience_eq (notifier : Notifier Listener) (event : ChangeEvent) :
    notifier.audience event = reached notifier.registrations event := by
  have haccepts : ∀ registration : Registration Listener, registration.accepts event =
      decide (registration.type = event.type ∧
        ∀ source ∈ registration.source?, Path.same source event.path) := by
    intro registration
    cases hsource : registration.source? with
    | none => simp [accepts, hsource]
    | some source => simp [accepts, hsource]
  rw [Notifier.audience, reached, List.filter_congr fun registration _ => haccepts registration]

end Registration

namespace Delivery

/-- The audience is cut into those called, the one being called and those still waiting, and the
calls that came to their end are counted. -/
structure Sound (delivery : Delivery Listener) : Prop where
  audience : delivery.calls.map Call.listener ++ delivery.running?.toList ++ delivery.waiting =
    Registration.reached delivery.begun delivery.event
  counted : delivery.delivered = delivery.calls.countP Call.completed

theorem sound_begin (event : ChangeEvent) (notifier : Notifier Listener) :
    (begin event notifier).Sound :=
  ⟨Registration.audience_eq notifier event, rfl⟩

theorem Sound.call {delivery : Delivery Listener} (sound : delivery.Sound) :
    delivery.call.Sound := by
  unfold Delivery.call
  split
  · rename_i listener rest hrunning hwaiting
    refine ⟨?_, sound.counted⟩
    rw [← sound.audience, hrunning, hwaiting]
    simp
  · exact sound

theorem Sound.finish {delivery : Delivery Listener} (sound : delivery.Sound) (completed : Bool) :
    (delivery.finish completed).Sound := by
  unfold Delivery.finish
  split
  · exact sound
  · rename_i listener hrunning
    constructor
    · rw [← sound.audience, hrunning]
      simp
    · cases completed with
      | true => simp [sound.counted]
      | false => simp [sound.counted]

/-- Those that have been called, the one being called included. -/
def begunCalls (delivery : Delivery Listener) : List Listener :=
  delivery.calls.map Call.listener ++ delivery.running?.toList

theorem begunCalls_call {delivery : Delivery Listener} {listener : Listener}
    (h : delivery.next? = some listener) :
    delivery.call.begunCalls = delivery.begunCalls ++ [listener] := by
  unfold next? at h
  split at h
  · rename_i hrunning hwaiting
    obtain rfl := Option.some.inj h
    simp [begunCalls, Delivery.call, hrunning, hwaiting]
  · cases h

theorem begunCalls_finish (delivery : Delivery Listener) (completed : Bool) :
    (delivery.finish completed).begunCalls = delivery.begunCalls := by
  unfold Delivery.finish
  split
  · rfl
  · rename_i listener hrunning
    simp [begunCalls, hrunning]

end Delivery

namespace Published

/-- The whole audience was called, and the number returned is that of the calls that came to their
end. -/
structure Sound (published : Published Listener) : Prop where
  audience : published.calls.map Call.listener =
    Registration.reached published.begun published.event
  counted : published.returned = published.calls.countP Call.completed

end Published

namespace Delivery

variable {delivery : Delivery Listener} {result : Published Listener}

theorem Sound.published (sound : delivery.Sound) (h : delivery.published? = some result) :
    result.Sound := by
  unfold published? at h
  split at h
  · rename_i hrunning hwaiting
    obtain rfl := Option.some.inj h
    refine ⟨?_, sound.counted⟩
    have haudience := sound.audience
    rw [hrunning, hwaiting] at haudience
    simpa using haudience
  · cases h

theorem calls_of_published? (h : delivery.published? = some result) :
    result.calls.map Call.listener = delivery.begunCalls := by
  unfold published? at h
  split at h
  · rename_i hrunning hwaiting
    obtain rfl := Option.some.inj h
    simp [begunCalls, hrunning]
  · cases h

end Delivery

namespace Deliveries

variable {state : Deliveries Listener}

/-- The registrations are the live subscriptions, and every delivery has its audience. -/
structure Sound (state : Deliveries Listener) : Prop where
  registered : state.notifier.registrations = state.live
  distinct : (state.live.map Registration.id).Nodup
  below : ∀ registration ∈ state.live, registration.id < state.notifier.nextId
  opened : ∀ entry ∈ state.opened, entry.2.Sound
  published : ∀ entry ∈ state.published, entry.2.Sound

theorem sound_start : (start : Deliveries Listener).Sound where
  registered := rfl
  distinct := List.nodup_nil
  below := by simp [start]
  opened := by simp [start]
  published := by simp [start]

namespace Sound

theorem subscribe (sound : state.Sound) (type : EventType) (source? : Option String)
    (listener : Listener) (owned : List Nat) :
    (state.subscribe type source? listener owned).Sound := by
  unfold Deliveries.subscribe
  split
  swap
  · exact sound
  let made : Registration Listener := ⟨state.notifier.nextId, type, source?, listener, owned⟩
  refine ⟨?_, ?_, ?_, sound.opened, sound.published⟩
  · show state.notifier.registrations ++ [made] = state.live ++ [made]
    rw [sound.registered]
  · show ((state.live ++ [made]).map Registration.id).Nodup
    rw [List.map_append, List.nodup_append]
    refine ⟨sound.distinct, List.nodup_singleton made.id, ?_⟩
    intro id hid other hother
    obtain ⟨registration, hmem, rfl⟩ := List.mem_map.1 hid
    obtain rfl := List.mem_singleton.1 hother
    exact (sound.below registration hmem).ne
  · intro registration hmem
    obtain hmem | hmem := List.mem_append.1 hmem
    · exact Nat.lt_succ_of_lt (sound.below registration hmem)
    · obtain rfl := List.mem_singleton.1 hmem
      exact Nat.lt_succ_self state.notifier.nextId

/-- Removing the registration of a live subscription removes no other. -/
theorem remove_eq (sound : state.Sound) {position : Nat} {subscription : Registration Listener}
    (h : state.live[position]? = some subscription) :
    state.notifier.remove subscription.id =
      { state.notifier with registrations := state.live.eraseIdx position } := by
  rw [Notifier.remove, sound.registered, Notifier.filter_id_ne sound.distinct h]

theorem drop (sound : state.Sound) (position : Nat) : (state.drop position).Sound := by
  unfold Deliveries.drop
  split
  · exact sound
  · rename_i subscription h
    rw [sound.remove_eq h]
    have hsub : (state.live.eraseIdx position).Sublist state.live := List.eraseIdx_sublist ..
    exact ⟨rfl, sound.distinct.sublist (hsub.map _),
      fun registration hmem => sound.below registration (hsub.subset hmem), sound.opened,
      sound.published⟩

theorem publish (sound : state.Sound) (event : ChangeEvent) : (state.publish event).Sound where
  registered := sound.registered
  distinct := sound.distinct
  below := sound.below
  opened := by
    intro entry hmem
    obtain rfl | hmem := List.mem_cons.1 hmem
    · exact Delivery.sound_begin event state.notifier
    · exact sound.opened entry hmem
  published := sound.published

theorem call (sound : state.Sound) : state.call.Sound := by
  unfold Deliveries.call
  split
  · exact sound
  · rename_i number delivery outer hopened
    split
    · exact sound
    · refine ⟨sound.registered, sound.distinct, sound.below, ?_, sound.published⟩
      have hsound := sound.opened
      rw [hopened] at hsound
      intro entry hmem
      obtain rfl | hmem := List.mem_cons.1 hmem
      · exact (hsound (number, delivery) List.mem_cons_self).call
      · exact hsound entry (List.mem_cons_of_mem _ hmem)

theorem finish (sound : state.Sound) (completed : Bool) : (state.finish completed).Sound where
  registered := sound.registered
  distinct := sound.distinct
  below := sound.below
  opened := by
    have hsound := sound.opened
    cases hopened : state.opened with
    | nil => simp [Deliveries.finish, hopened]
    | cons innermost outer =>
      rw [hopened] at hsound
      intro entry hmem
      simp only [Deliveries.finish, hopened, List.modifyHead_cons] at hmem
      obtain rfl | hmem := List.mem_cons.1 hmem
      · exact (hsound innermost List.mem_cons_self).finish completed
      · exact hsound entry (List.mem_cons_of_mem _ hmem)
  published := sound.published

theorem leave (sound : state.Sound) : state.leave.Sound := by
  unfold Deliveries.leave
  split
  · exact sound
  · rename_i number delivery outer hopened
    have hsound := sound.opened
    rw [hopened] at hsound
    split
    · exact sound
    · rename_i result hresult
      refine ⟨sound.registered, sound.distinct, sound.below, ?_, ?_⟩
      · exact fun entry hmem => hsound entry (List.mem_cons_of_mem _ hmem)
      · intro entry hmem
        obtain hmem | hmem := List.mem_append.1 hmem
        · exact sound.published entry hmem
        · obtain rfl := List.mem_singleton.1 hmem
          exact (hsound (number, delivery) List.mem_cons_self).published hresult

/-- What one move preserves. -/
theorem apply (sound : state.Sound) (move : Move Listener) : (state.apply move).Sound := by
  unfold Deliveries.apply
  split
  · exact sound
  cases move with
  | subscribe type source? listener owned => exact sound.subscribe type source? listener owned
  | drop position => exact sound.drop position
  | publish event => exact sound.publish event
  | call => exact sound.call
  | finish completed => exact sound.finish completed
  | leave => exact sound.leave

/-- What a whole run preserves. -/
theorem run (sound : state.Sound) (moves : List (Move Listener)) : (state.run moves).Sound := by
  induction moves generalizing state with
  | nil => exact sound
  | cons move rest ih => exact ih (sound.apply move)

end Sound

/-- The history has what every publication has called so far, and the numbers of publications are
distinct. -/
structure Recorded (state : Deliveries Listener) : Prop where
  distinct : (state.opened.map Prod.fst ++ state.published.map Prod.fst).Nodup
  below : ∀ number ∈ state.opened.map Prod.fst ++ state.published.map Prod.fst,
    number < state.begun
  noted : ∀ note ∈ state.history, note.publication < state.begun
  opened : ∀ entry ∈ state.opened, state.called entry.1 = entry.2.begunCalls
  published : ∀ entry ∈ state.published, state.called entry.1 = entry.2.calls.map Call.listener

theorem recorded_start : (start : Deliveries Listener).Recorded where
  distinct := List.nodup_nil
  below := by simp [start]
  noted := by simp [start]
  opened := by simp [start]
  published := by simp [start]

namespace Recorded

/-- Nothing is noted yet of the publication that comes next. -/
theorem called_begun (recorded : state.Recorded) : state.called state.begun = [] := by
  refine List.filterMap_eq_nil_iff.2 fun note hnote => ?_
  have hlt := recorded.noted note hnote
  cases note with
  | called number event listener => exact if_neg hlt.ne
  | returned number event delivered => rfl

theorem publish (recorded : state.Recorded) (event : ChangeEvent) :
    (state.publish event).Recorded where
  distinct := by
    show (state.begun :: (state.opened.map Prod.fst ++ state.published.map Prod.fst)).Nodup
    exact List.nodup_cons.2
      ⟨fun hmem => (recorded.below _ hmem).ne rfl, recorded.distinct⟩
  below := by
    intro number hmem
    obtain rfl | hmem := List.mem_cons.1 hmem
    · exact Nat.lt_succ_self state.begun
    · exact Nat.lt_succ_of_lt (recorded.below number hmem)
  noted := fun note hnote => Nat.lt_succ_of_lt (recorded.noted note hnote)
  opened := by
    intro entry hmem
    obtain rfl | hmem := List.mem_cons.1 hmem
    · exact recorded.called_begun
    · exact recorded.opened entry hmem
  published := recorded.published

section Innermost

variable {number : Nat} {delivery : Delivery Listener} {outer : List (Nat × Delivery Listener)}

theorem number_lt (recorded : state.Recorded) (h : state.opened = (number, delivery) :: outer) :
    number < state.begun :=
  recorded.below number (by simp [h])

theorem ne_number (recorded : state.Recorded) (h : state.opened = (number, delivery) :: outer)
    {other : Nat} (hother : other ∈ outer.map Prod.fst ++ state.published.map Prod.fst) :
    other ≠ number := by
  have hdistinct := recorded.distinct
  rw [h, List.map_cons, List.cons_append, List.nodup_cons] at hdistinct
  rintro rfl
  exact hdistinct.1 hother

end Innermost

theorem call (recorded : state.Recorded) : state.call.Recorded := by
  unfold Deliveries.call
  split
  · exact recorded
  · rename_i number delivery outer hopened
    split
    · exact recorded
    · rename_i listener hnext
      have hdistinct := recorded.distinct
      have hbelow := recorded.below
      have hcalls := recorded.opened
      rw [hopened] at hdistinct hbelow hcalls
      have hkept : ∀ other ≠ number,
          (state.history ++ [Note.called number delivery.event listener]).filterMap
            (Note.calledBy? other) = state.called other := by
        intro other hother
        simp [List.filterMap_append, Note.calledBy?, hother.symm, called]
      refine ⟨hdistinct, hbelow, ?_, ?_, ?_⟩
      · intro note hnote
        obtain hnote | hnote := List.mem_append.1 hnote
        · exact recorded.noted note hnote
        · obtain rfl := List.mem_singleton.1 hnote
          exact recorded.number_lt hopened
      · intro entry hmem
        obtain rfl | hmem := List.mem_cons.1 hmem
        · rw [Delivery.begunCalls_call hnext, ← hcalls _ List.mem_cons_self]
          simp [called, List.filterMap_append, Note.calledBy?]
        · have hne := recorded.ne_number hopened
            (List.mem_append_left _ (List.mem_map_of_mem hmem))
          exact (hkept entry.1 hne).trans (hcalls entry (List.mem_cons_of_mem _ hmem))
      · intro entry hmem
        have hne := recorded.ne_number hopened
          (List.mem_append_right _ (List.mem_map_of_mem hmem))
        exact (hkept entry.1 hne).trans (recorded.published entry hmem)

theorem finish (recorded : state.Recorded) (completed : Bool) :
    (state.finish completed).Recorded := by
  have hdistinct := recorded.distinct
  have hbelow := recorded.below
  have hcalls := recorded.opened
  cases hopened : state.opened with
  | nil =>
    have hsame : state.finish completed = state := by
      rw [Deliveries.finish, hopened, List.modifyHead_nil, ← hopened]
    rwa [hsame]
  | cons innermost outer =>
    rw [hopened] at hdistinct hbelow hcalls
    have hfinish : (state.finish completed).opened =
        (innermost.1, innermost.2.finish completed) :: outer := by
      rw [Deliveries.finish, hopened]
      rfl
    refine ⟨?_, ?_, recorded.noted, ?_, recorded.published⟩
    · rw [hfinish]
      exact hdistinct
    · rw [hfinish]
      exact hbelow
    · rw [hfinish]
      intro entry hmem
      obtain rfl | hmem := List.mem_cons.1 hmem
      · rw [Delivery.begunCalls_finish]
        exact hcalls innermost List.mem_cons_self
      · exact hcalls entry (List.mem_cons_of_mem _ hmem)

theorem leave (recorded : state.Recorded) : state.leave.Recorded := by
  unfold Deliveries.leave
  split
  · exact recorded
  · rename_i number delivery outer hopened
    split
    · exact recorded
    · rename_i result hresult
      have hdistinct := recorded.distinct
      have hbelow := recorded.below
      have hcalls := recorded.opened
      rw [hopened] at hdistinct hbelow hcalls
      have hkept : ∀ other,
          (state.history ++ [Note.returned number result.event result.returned]).filterMap
            (Note.calledBy? other) = state.called other := by
        intro other
        simp [List.filterMap_append, Note.calledBy?, called]
      have hperm : (outer.map Prod.fst ++ (state.published ++ [(number, result)]).map Prod.fst).Perm
          (number :: (outer.map Prod.fst ++ state.published.map Prod.fst)) := by
        rw [List.map_append, ← List.append_assoc]
        exact List.perm_append_singleton ..
      refine ⟨hperm.nodup_iff.2 hdistinct, fun other hmem => hbelow other (hperm.mem_iff.1 hmem),
        ?_, ?_, ?_⟩
      · intro note hnote
        obtain hnote | hnote := List.mem_append.1 hnote
        · exact recorded.noted note hnote
        · obtain rfl := List.mem_singleton.1 hnote
          exact recorded.number_lt hopened
      · intro entry hmem
        exact (hkept entry.1).trans (hcalls entry (List.mem_cons_of_mem _ hmem))
      · intro entry hmem
        obtain hmem | hmem := List.mem_append.1 hmem
        · exact (hkept entry.1).trans (recorded.published entry hmem)
        · obtain rfl := List.mem_singleton.1 hmem
          rw [Delivery.calls_of_published? hresult, ← hcalls _ List.mem_cons_self]
          exact hkept number

/-- What one move preserves. -/
theorem apply (recorded : state.Recorded) (move : Move Listener) :
    (state.apply move).Recorded := by
  unfold Deliveries.apply
  split
  · exact recorded
  cases move with
  | subscribe type source? listener owned =>
    show (state.subscribe type source? listener owned).Recorded
    unfold Deliveries.subscribe
    split <;> exact ⟨recorded.distinct, recorded.below, recorded.noted, recorded.opened,
      recorded.published⟩
  | drop position =>
    show (state.drop position).Recorded
    unfold Deliveries.drop
    split <;> exact ⟨recorded.distinct, recorded.below, recorded.noted, recorded.opened,
      recorded.published⟩
  | publish event => exact recorded.publish event
  | call => exact recorded.call
  | finish completed => exact recorded.finish completed
  | leave => exact recorded.leave

/-- What a whole run preserves. -/
theorem run (recorded : state.Recorded) (moves : List (Move Listener)) :
    (state.run moves).Recorded := by
  induction moves generalizing state with
  | nil => exact recorded
  | cons move rest ih => exact ih (recorded.apply move)

end Recorded

/-- No listener owns subscriptions, and so nothing hangs. -/
structure Unowned (state : Deliveries Listener) : Prop where
  live : ∀ registration ∈ state.live, registration.owned = []
  hung : state.hung = false

theorem unowned_start : (start : Deliveries Listener).Unowned :=
  ⟨by simp [start], rfl⟩

theorem subscribe_nil (state : Deliveries Listener) (type : EventType) (source? : Option String)
    (listener : Listener) :
    state.subscribe type source? listener [] = { state with
      notifier := (state.notifier.register type source? listener []).2
      live := state.live ++ [⟨state.notifier.nextId, type, source?, listener, []⟩] } := by
  have hown : state.CanOwn [] := ⟨List.nodup_nil, by simp⟩
  rw [Deliveries.subscribe, if_pos hown]
  rfl

theorem Unowned.apply_eq (unowned : state.Unowned) (move : Move Listener) :
    state.apply move = state.step move :=
  if_neg (by simp [unowned.hung])

/-- Moves that make no listener own subscriptions. -/
theorem Unowned.apply (unowned : state.Unowned) {move : Move Listener} (h : move.owned = []) :
    (state.apply move).Unowned := by
  rw [unowned.apply_eq]
  cases move with
  | subscribe type source? listener owned =>
    obtain rfl : owned = [] := h
    show (state.subscribe type source? listener []).Unowned
    rw [subscribe_nil]
    refine ⟨fun registration hmem => ?_, unowned.hung⟩
    obtain hmem | hmem := List.mem_append.1 hmem
    · exact unowned.live registration hmem
    · obtain rfl := List.mem_singleton.1 hmem
      rfl
  | drop position =>
    show (state.drop position).Unowned
    unfold Deliveries.drop
    split
    · exact unowned
    · rename_i subscription hposition
      have hnone := unowned.live subscription (List.mem_of_getElem? hposition)
      refine ⟨fun registration hmem =>
        unowned.live registration (List.mem_of_mem_eraseIdx hmem), ?_⟩
      simp [DestroysOwner, hnone]
  | publish | finish => exact ⟨unowned.live, unowned.hung⟩
  | call =>
    show state.call.Unowned
    unfold Deliveries.call
    split
    · exact unowned
    · split <;> exact ⟨unowned.live, unowned.hung⟩
  | leave =>
    show state.leave.Unowned
    unfold Deliveries.leave
    split
    · exact unowned
    · split <;> exact ⟨unowned.live, unowned.hung⟩

theorem Unowned.run (unowned : state.Unowned) {moves : List (Move Listener)}
    (h : ∀ move ∈ moves, move.owned = []) : (state.run moves).Unowned := by
  induction moves generalizing state with
  | nil => exact unowned
  | cons move rest ih =>
    obtain ⟨hmove, hrest⟩ := List.forall_mem_cons.1 h
    exact ih (unowned.apply hmove) hrest

/-- Some moves, none of which makes a listener own subscriptions, lead from one state to another. -/
def Reaches (state later : Deliveries Listener) : Prop :=
  ∃ moves, (∀ move ∈ moves, move.owned = []) ∧ state.run moves = later

theorem Reaches.refl (state : Deliveries Listener) : state.Reaches state := ⟨[], by simp, rfl⟩

theorem Reaches.apply (state : Deliveries Listener) {move : Move Listener} (h : move.owned = []) :
    state.Reaches (state.apply move) := ⟨[move], by simp [h], rfl⟩

theorem Reaches.trans {middle later : Deliveries Listener} (first : state.Reaches middle)
    (second : middle.Reaches later) : state.Reaches later := by
  obtain ⟨before, hbefore, rfl⟩ := first
  obtain ⟨after, hafter, rfl⟩ := second
  refine ⟨before ++ after, fun move hmem => ?_, List.foldl_append ..⟩
  exact (List.mem_append.1 hmem).elim (hbefore move) (hafter move)

theorem Reaches.sound {later : Deliveries Listener} (reaches : state.Reaches later)
    (sound : state.Sound) : later.Sound := by
  obtain ⟨moves, -, rfl⟩ := reaches
  exact sound.run moves

theorem Reaches.recorded {later : Deliveries Listener} (reaches : state.Reaches later)
    (recorded : state.Recorded) : later.Recorded := by
  obtain ⟨moves, -, rfl⟩ := reaches
  exact recorded.run moves

theorem Reaches.unowned {later : Deliveries Listener} (reaches : state.Reaches later)
    (unowned : state.Unowned) : later.Unowned := by
  obtain ⟨moves, hmoves, rfl⟩ := reaches
  exact unowned.run hmoves

end Deliveries

end CredentialWatch
