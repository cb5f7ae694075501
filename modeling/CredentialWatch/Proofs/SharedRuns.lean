import CredentialWatch.Event.Shared
import CredentialWatch.Proofs.DeliveryRuns

/-!
# Runs of a shared notifier

Every registration is made with a listener of its own. A publication keeps the registrations that
there were when it began, and whom it calls are those of them that its event is for, once each,
however the registrations change meanwhile. All of this holds even if the counter goes round, so
that numbers return.
-/
namespace CredentialWatch

/-- What is found in a list with one element more was there before, or is the new element. -/
theorem getElem?_concat_cases {α : Type} {list : List α} {last found : α} {position : Nat}
    (h : (list ++ [last])[position]? = some found) :
    list[position]? = some found ∨ position = list.length ∧ found = last := by
  rcases Nat.lt_or_ge position list.length with hlt | hge
  · exact .inl (List.getElem?_append_left hlt ▸ h)
  · obtain ⟨hlt, hfound⟩ := List.getElem?_eq_some_iff.1 h
    have hposition : position = list.length := by
      rw [List.length_append, List.length_singleton] at hlt
      omega
    subst hposition
    exact .inr ⟨rfl, by simpa using hfound.symm⟩

namespace Delivery

variable {Listener : Type}

@[simp] theorem begun_call (delivery : Delivery Listener) :
    delivery.call.begun = delivery.begun := by
  unfold call
  split <;> rfl

@[simp] theorem begun_finish (completed : Bool) (delivery : Delivery Listener) :
    (delivery.finish completed).begun = delivery.begun := by
  unfold finish
  split <;> rfl

@[simp] theorem event_call (delivery : Delivery Listener) :
    delivery.call.event = delivery.event := by
  unfold call
  split <;> rfl

@[simp] theorem event_finish (completed : Bool) (delivery : Delivery Listener) :
    (delivery.finish completed).event = delivery.event := by
  unfold finish
  split <;> rfl

/-- The listeners that a delivery has called, the one that is running included. -/
def called (delivery : Delivery Listener) : List Listener :=
  delivery.calls.map Call.listener ++ delivery.running?.toList

theorem called_call (delivery : Delivery Listener) :
    delivery.call.called = delivery.called ++ delivery.next?.toList := by
  cases hrunning : delivery.running? with
  | some listener => simp [called, call, next?, hrunning]
  | none =>
    cases hwaiting : delivery.waiting with
    | nil => simp [called, call, next?, hrunning, hwaiting]
    | cons listener rest => simp [called, call, next?, hrunning, hwaiting]

@[simp] theorem called_finish (completed : Bool) (delivery : Delivery Listener) :
    (delivery.finish completed).called = delivery.called := by
  unfold finish
  split
  · rfl
  · rename_i listener hrunning
    simp [called, hrunning]

end Delivery

namespace Publication

/-- Whether a publication has a registration in its audience. -/
def IsFor (publication : Publication) (registration : Registration Nat) : Prop :=
  registration ∈ publication.delivery.begun ∧ registration.type = publication.delivery.event.type ∧
    ∀ source ∈ registration.source?, Path.same source publication.delivery.event.path

instance (publication : Publication) (registration : Registration Nat) :
    Decidable (publication.IsFor registration) :=
  inferInstanceAs (Decidable (_ ∧ _))

/-- A publication calls its audience in order, which are registrations with listeners of their
own. -/
structure Sound (made : List (Registration Nat)) (publication : Publication) : Prop where
  sound : publication.delivery.Sound
  known : ∀ registration ∈ publication.delivery.begun, registration ∈ made
  distinct : (publication.delivery.begun.map Registration.listener).Nodup

/-- What a publication is later: its event and its audience are what they were, and it is over if it
was. -/
structure Precedes (publication later : Publication) : Prop where
  event : later.delivery.event = publication.delivery.event
  begun : later.delivery.begun = publication.delivery.begun
  ended : publication.isOver → later.isOver

variable {publication : Publication}

theorem isOver_iff : publication.isOver ↔
    publication.delivery.running? = none ∧ publication.delivery.waiting = [] := by
  unfold isOver Delivery.published?
  split
  · simp_all
  · rename_i hnot
    simpa using hnot

theorem Precedes.refl (publication : Publication) : publication.Precedes publication :=
  ⟨rfl, rfl, id⟩

theorem precedes_call (publication : Publication) :
    publication.Precedes { publication with delivery := publication.delivery.call } where
  event := publication.delivery.event_call
  begun := publication.delivery.begun_call
  ended := by
    intro hover
    obtain ⟨hrunning, hwaiting⟩ := isOver_iff.1 hover
    have hsame : publication.delivery.call = publication.delivery := by
      simp [Delivery.call, hrunning, hwaiting]
    rwa [hsame]

theorem precedes_finish (publication : Publication) (completed : Bool) :
    publication.Precedes
      { publication with delivery := publication.delivery.finish completed } where
  event := publication.delivery.event_finish completed
  begun := publication.delivery.begun_finish completed
  ended := by
    intro hover
    have hsame : publication.delivery.finish completed = publication.delivery := by
      simp [Delivery.finish, (isOver_iff.1 hover).1]
    rwa [hsame]

/-- A publication that calls somebody is not over. -/
theorem not_isOver {listener : Nat} (h : publication.delivery.next? = some listener) :
    ¬ publication.isOver := by
  intro hover
  obtain ⟨hrunning, hwaiting⟩ := isOver_iff.1 hover
  simp [Delivery.next?, hrunning, hwaiting] at h

/-- Calls go on with the audience that there is. -/
theorem Sound.go_on {made : List (Registration Nat)} (sound : publication.Sound made)
    {change : Delivery Nat → Delivery Nat}
    (hbegun : ∀ delivery, (change delivery).begun = delivery.begun)
    (hsound : ∀ delivery : Delivery Nat, delivery.Sound → (change delivery).Sound) :
    Sound made { publication with delivery := change publication.delivery } where
  sound := hsound _ sound.sound
  known := by
    rw [hbegun]
    exact sound.known
  distinct := by
    rw [hbegun]
    exact sound.distinct

namespace Sound

variable {made : List (Registration Nat)} (sound : publication.Sound made)
include sound

/-- Whom a publication has called comes first among those that it reaches. -/
theorem called_prefix :
    publication.delivery.called <+:
      Registration.reached publication.delivery.begun publication.delivery.event :=
  ⟨publication.delivery.waiting, sound.sound.audience⟩

theorem called_eq (hover : publication.isOver) :
    publication.delivery.called =
      Registration.reached publication.delivery.begun publication.delivery.event := by
  rw [← sound.sound.audience, (isOver_iff.1 hover).2, List.append_nil]
  rfl

end Sound

theorem mem_reached {listener : Nat} :
    listener ∈ Registration.reached publication.delivery.begun publication.delivery.event ↔
      ∃ registration, publication.IsFor registration ∧ registration.listener = listener := by
  simp [Registration.reached, IsFor]

end Publication

namespace Shared

variable {state : Shared}

section Numbers

/-- Registrations are made with a listener of their own each, and those that stand or are still to
be pushed are among them. -/
structure Numbered (state : Shared) : Prop where
  counted : state.made.length = state.notifier.nextId
  numbers : ∀ (number : Nat) (registration : Registration Nat),
    state.made[number]? = some registration →
      registration.listener = number ∧ registration.id = number % UInt64.size
  known : ∀ registration ∈ state.numbered ++ state.notifier.registrations, registration ∈ state.made
  distinct : ((state.numbered ++ state.notifier.registrations).map Registration.listener).Nodup

theorem numbered_start : start.Numbered where
  counted := rfl
  numbers := by simp [start]
  known := by simp [start, Notifier.empty]
  distinct := List.nodup_nil

namespace Numbered

/-- A listener is that of one registration. -/
theorem eq_of_listener_eq (numbered : state.Numbered) {left right : Registration Nat}
    (hleft : left ∈ state.made) (hright : right ∈ state.made) (h : left.listener = right.listener) :
    left = right := by
  obtain ⟨number, hnumber⟩ := List.mem_iff_getElem?.1 hleft
  obtain ⟨number', hnumber'⟩ := List.mem_iff_getElem?.1 hright
  rw [(numbered.numbers _ _ hnumber).1, (numbered.numbers _ _ hnumber').1] at h
  subst h
  exact Option.some.inj (hnumber.symm.trans hnumber')

theorem listener_lt (numbered : state.Numbered) {registration : Registration Nat}
    (h : registration ∈ state.made) : registration.listener < state.made.length := by
  obtain ⟨number, hnumber⟩ := List.mem_iff_getElem?.1 h
  rw [(numbered.numbers _ _ hnumber).1]
  exact (List.getElem?_eq_some_iff.1 hnumber).1

theorem number (numbered : state.Numbered) (type : EventType) (source? : Option String) :
    (state.number type source?).Numbered := by
  let made : Registration Nat :=
    ⟨state.notifier.nextId % UInt64.size, type, source?, state.notifier.nextId, []⟩
  have hcounted := numbered.counted
  have hlistener : made.listener = state.made.length := hcounted.symm
  refine ⟨?_, ?_, ?_, ?_⟩
  · show (state.made ++ [made]).length = state.notifier.nextId + 1
    rw [List.length_append, List.length_singleton, hcounted]
  · intro number registration h
    change (state.made ++ [made])[number]? = some registration at h
    rcases getElem?_concat_cases h with h | ⟨hnumber, rfl⟩
    · exact numbered.numbers number registration h
    · rw [hnumber, hcounted]
      exact ⟨rfl, rfl⟩
  · intro registration hmem
    change registration ∈ state.numbered ++ [made] ++ state.notifier.registrations at hmem
    rw [List.append_assoc, List.singleton_append, List.perm_middle.mem_iff] at hmem
    rcases List.mem_cons.1 hmem with rfl | hmem
    · exact List.mem_append_right _ (List.mem_singleton_self made)
    · exact List.mem_append_left _ (numbered.known registration hmem)
  · show ((state.numbered ++ [made] ++ state.notifier.registrations).map
      Registration.listener).Nodup
    rw [List.append_assoc, List.singleton_append, (List.perm_middle.map _).nodup_iff, List.map_cons,
      List.nodup_cons]
    refine ⟨fun h => ?_, numbered.distinct⟩
    obtain ⟨registration, hmem, hsame⟩ := List.mem_map.1 h
    have := numbered.listener_lt (numbered.known registration hmem)
    omega

theorem push (numbered : state.Numbered) (position : Nat) : (state.push position).Numbered := by
  unfold Shared.push
  split
  · exact numbered
  rename_i made hmade
  obtain ⟨hlt, hget⟩ := List.getElem?_eq_some_iff.1 hmade
  have hperm : (state.numbered.eraseIdx position ++ (state.notifier.registrations ++ [made])).Perm
      (state.numbered ++ state.notifier.registrations) := by
    have herase : (made :: state.numbered.eraseIdx position).Perm state.numbered :=
      hget ▸ List.getElem_cons_eraseIdx_perm hlt
    rw [← List.append_assoc]
    exact List.perm_append_comm.trans (herase.append_right state.notifier.registrations)
  exact
    { counted := numbered.counted
      numbers := numbered.numbers
      known := fun registration h => numbered.known registration (hperm.mem_iff.1 h)
      distinct := (hperm.map _).nodup_iff.2 numbered.distinct }

theorem drop (numbered : state.Numbered) (position : Nat) : (state.drop position).Numbered := by
  unfold Shared.drop
  split
  · exact numbered
  rename_i subscription _
  have hsub : (state.numbered ++ (state.notifier.remove subscription.id).registrations).Sublist
      (state.numbered ++ state.notifier.registrations) :=
    (List.Sublist.refl _).append List.filter_sublist
  exact
    { counted := numbered.counted
      numbers := numbered.numbers
      known := fun registration h => numbered.known registration (hsub.subset h)
      distinct := numbered.distinct.sublist (hsub.map _) }

/-- What one move preserves. -/
theorem apply (numbered : state.Numbered) (move : Move) : (state.apply move).Numbered := by
  cases move with
  | number type source? => exact numbered.number type source?
  | push position => exact numbered.push position
  | drop position => exact numbered.drop position
  | publish | call | finish =>
    exact ⟨numbered.counted, numbered.numbers, numbered.known, numbered.distinct⟩

end Numbered

end Numbers

section Calls

theorem called_append (state : Shared) {later : Shared} {calls : List (Nat × Nat)}
    (h : later.calls = state.calls ++ calls) (publication : Nat) : later.called publication =
      state.called publication ++ (calls.filter (·.1 == publication)).map Prod.snd := by
  rw [called, h, List.filter_append, List.map_append, called]

theorem getElem?_modify {number other : Nat} {change : Delivery Nat → Delivery Nat}
    {publication : Publication}
    (h : (state.modify number change).publications[other]? = some publication) :
    ∃ before, state.publications[other]? = some before ∧
      publication = if number = other then { before with delivery := change before.delivery }
        else before := by
  rw [modify, List.getElem?_modify] at h
  obtain ⟨before, hbefore, hafter⟩ := Option.map_eq_some_iff.1 h
  exact ⟨before, hbefore, hafter.symm⟩

/-- What a change of a delivery keeps holds of all publications if it did before. -/
theorem forall_modify {holds : Publication → Prop}
    (h : ∀ publication ∈ state.publications, holds publication)
    {change : Delivery Nat → Delivery Nat}
    (hchange : ∀ publication : Publication, holds publication →
      holds { publication with delivery := change publication.delivery }) (number : Nat) :
    ∀ publication ∈ (state.modify number change).publications, holds publication := by
  intro publication hmem
  obtain ⟨other, hother⟩ := List.mem_iff_getElem?.1 hmem
  obtain ⟨before, hbefore, rfl⟩ := getElem?_modify hother
  have hholds := h before (List.mem_of_getElem? hbefore)
  split
  · exact hchange before hholds
  · exact hholds

/-- Publications stay where they are and what they are. -/
theorem exists_later {number : Nat} {publication : Publication}
    (h : state.publications[number]? = some publication) (move : Move) :
    ∃ later, (state.apply move).publications[number]? = some later ∧
      publication.Precedes later := by
  have hmodify : ∀ (other : Nat) {change : Delivery Nat → Delivery Nat},
      (∀ publication : Publication,
        publication.Precedes { publication with delivery := change publication.delivery }) →
      ∃ later, (state.modify other change).publications[number]? = some later ∧
        publication.Precedes later := by
    intro other change hchange
    rw [modify, List.getElem?_modify, h]
    by_cases hsame : other = number
    · exact ⟨_, rfl, by simpa [hsame] using hchange publication⟩
    · exact ⟨_, rfl, by simpa [hsame] using .refl publication⟩
  cases move with
  | number type source? => exact ⟨publication, h, .refl publication⟩
  | push position =>
    show ∃ later, (state.push position).publications[number]? = some later ∧ _
    unfold push
    split <;> exact ⟨publication, h, .refl publication⟩
  | drop position =>
    show ∃ later, (state.drop position).publications[number]? = some later ∧ _
    unfold drop
    split <;> exact ⟨publication, h, .refl publication⟩
  | publish event =>
    obtain ⟨hlt, -⟩ := List.getElem?_eq_some_iff.1 h
    exact ⟨publication, (List.getElem?_append_left hlt).trans h, .refl publication⟩
  | call other => exact hmodify other Publication.precedes_call
  | finish other completed => exact hmodify other (Publication.precedes_finish · completed)

/-- A move calls nobody, or it calls the listener that is next in a publication. -/
theorem calls_apply (state : Shared) (move : Move) : (state.apply move).calls = state.calls ∨
    ∃ number publication listener, state.publications[number]? = some publication ∧
      publication.delivery.next? = some listener ∧
      (state.apply move).calls = state.calls ++ [(number, listener)] := by
  cases move with
  | number | publish | finish => exact .inl rfl
  | push position =>
    refine .inl ?_
    show (state.push position).calls = state.calls
    unfold push
    split <;> rfl
  | drop position =>
    refine .inl ?_
    show (state.drop position).calls = state.calls
    unfold drop
    split <;> rfl
  | call number =>
    cases hnext : state.next? number with
    | none => exact .inl (by simp [apply, call, hnext])
    | some listener =>
      obtain ⟨publication, hpublication, hlistener⟩ := Option.bind_eq_some_iff.1 hnext
      exact .inr ⟨number, publication, listener, hpublication, hlistener,
        by simp [apply, call, hnext]⟩

/-- The publications are sound, and the calls are those that they made. -/
structure Delivered (state : Shared) : Prop where
  sound : ∀ publication ∈ state.publications, publication.Sound state.made
  called : ∀ (number : Nat) (publication : Publication),
    state.publications[number]? = some publication →
    state.called number = publication.delivery.called
  begun : ∀ call ∈ state.calls, call.1 < state.publications.length

theorem delivered_start : start.Delivered where
  sound := by simp [start]
  called := by simp [start]
  begun := by simp [start]

namespace Delivered

/-- A change of the registrations does not touch what is delivered. -/
theorem of_registrations (delivered : state.Delivered) {later : Shared}
    (hmade : ∀ registration ∈ state.made, registration ∈ later.made)
    (hpublications : later.publications = state.publications) (hcalls : later.calls = state.calls) :
    later.Delivered where
  sound := by
    rw [hpublications]
    intro publication hmem
    have hsound := delivered.sound publication hmem
    exact ⟨hsound.sound, fun registration h => hmade registration (hsound.known registration h),
      hsound.distinct⟩
  called := by
    intro number publication h
    rw [hpublications] at h
    rw [Shared.called, hcalls]
    exact delivered.called number publication h
  begun := by
    rw [hcalls, hpublications]
    exact delivered.begun

theorem publish (delivered : state.Delivered) (numbered : state.Numbered) (event : ChangeEvent) :
    (state.publish event).Delivered := by
  let made : Publication := ⟨state.history.length, Delivery.begin event state.notifier⟩
  have hmade : made.Sound state.made :=
    { sound := Delivery.sound_begin event state.notifier
      known := fun registration h => numbered.known registration (List.mem_append_right _ h)
      distinct := numbered.distinct.sublist ((List.sublist_append_right ..).map _) }
  refine ⟨?_, ?_, ?_⟩
  · intro publication hmem
    rcases List.mem_append.1 hmem with hmem | hmem
    · exact delivered.sound publication hmem
    · rw [List.mem_singleton.1 hmem]
      exact hmade
  · intro number publication h
    change (state.publications ++ [made])[number]? = some publication at h
    rcases getElem?_concat_cases h with h | ⟨hnumber, rfl⟩
    · exact delivered.called number publication h
    · have hnone : state.calls.filter (·.1 == number) = [] := by
        refine List.filter_eq_nil_iff.2 fun call hcall => ?_
        have hlt := delivered.begun call hcall
        rw [← hnumber] at hlt
        simpa using hlt.ne
      show (state.calls.filter (·.1 == number)).map Prod.snd = []
      rw [hnone, List.map_nil]
  · intro call hmem
    exact (delivered.begun call hmem).trans_le (by simp [Shared.publish])

/-- What a publication does to its delivery and whom it calls. -/
theorem modify (delivered : state.Delivered) (number : Nat) {change : Delivery Nat → Delivery Nat}
    (hsound : ∀ delivery : Delivery Nat, delivery.Sound → (change delivery).Sound)
    (hbegun : ∀ delivery, (change delivery).begun = delivery.begun) (listeners : List Nat)
    (hcalled : ∀ publication, state.publications[number]? = some publication →
      (change publication.delivery).called = publication.delivery.called ++ listeners)
    (hnone : state.publications[number]? = none → listeners = []) :
    Delivered { state.modify number change with
      calls := state.calls ++ listeners.map (number, ·) } := by
  refine ⟨?_, ?_, ?_⟩
  · exact forall_modify delivered.sound (fun publication sound => sound.go_on hbegun hsound) number
  · intro other publication h
    change (state.modify number change).publications[other]? = some publication at h
    obtain ⟨before, hbefore, rfl⟩ := getElem?_modify h
    rw [called_append state rfl other, delivered.called other before hbefore]
    split
    · rename_i hsame
      subst hsame
      rw [hcalled before hbefore]
      simp [List.filter_map, Function.comp_def]
    · rename_i hdiffers
      simp [List.filter_map, Function.comp_def, hdiffers]
  · intro call hmem
    have hlength : (state.modify number change).publications.length = state.publications.length :=
      List.length_modify ..
    show call.1 < (state.modify number change).publications.length
    rw [hlength]
    rcases List.mem_append.1 hmem with hmem | hmem
    · exact delivered.begun call hmem
    · obtain ⟨listener, hlistener, rfl⟩ := List.mem_map.1 hmem
      by_contra hge
      rw [hnone (List.getElem?_eq_none_iff.2 (by omega))] at hlistener
      cases hlistener

theorem call (delivered : state.Delivered) (number : Nat) : (state.call number).Delivered := by
  have hcalls : (((state.next? number).map (number, ·)).toList : List (Nat × Nat)) =
      (state.next? number).toList.map (number, ·) := by
    cases state.next? number <;> rfl
  rw [Shared.call, hcalls]
  refine delivered.modify number (fun _ => Delivery.Sound.call) Delivery.begun_call _ ?_ ?_
  · intro publication h
    rw [Delivery.called_call, next?, h, Option.bind_some]
  · intro h
    rw [next?, h, Option.bind_none, Option.toList_none]

theorem finish (delivered : state.Delivered) (number : Nat) (completed : Bool) :
    (state.modify number (Delivery.finish completed)).Delivered := by
  have hafter := delivered.modify number (fun _ sound => sound.finish completed)
    (Delivery.begun_finish completed) [] (by simp) fun _ => rfl
  rw [List.map_nil, List.append_nil] at hafter
  exact hafter

/-- What one move preserves. -/
theorem apply (delivered : state.Delivered) (numbered : state.Numbered) (move : Move) :
    (state.apply move).Delivered := by
  cases move with
  | number type source? =>
    exact delivered.of_registrations (fun _ => List.mem_append_left _) rfl rfl
  | push position =>
    show (state.push position).Delivered
    unfold Shared.push
    split
    · exact delivered
    · exact delivered.of_registrations (fun _ => id) rfl rfl
  | drop position =>
    show (state.drop position).Delivered
    unfold Shared.drop
    split
    · exact delivered
    · exact delivered.of_registrations (fun _ => id) rfl rfl
  | publish event => exact delivered.publish numbered event
  | call publication => exact delivered.call publication
  | finish publication completed => exact delivered.finish publication completed

end Delivered

end Calls

/-- What every move keeps, whether numbers return or not. -/
structure Sound (state : Shared) : Prop where
  numbered : state.Numbered
  delivered : state.Delivered

theorem sound_start : start.Sound := ⟨numbered_start, delivered_start⟩

theorem Sound.apply (sound : state.Sound) (move : Move) : (state.apply move).Sound :=
  ⟨sound.numbered.apply move, sound.delivered.apply sound.numbered move⟩

/-- What a whole run preserves. -/
theorem Sound.run (sound : state.Sound) (moves : List Move) : (state.run moves).Sound := by
  induction moves generalizing state with
  | nil => exact sound
  | cons move rest ih => exact ih (sound.apply move)

namespace Sound

variable (sound : state.Sound) {number : Nat} {publication : Publication}
  {registration : Registration Nat}
include sound

/-- A listener stands for its registration. -/
theorem listener_mem_reached (hpublication : publication ∈ state.publications)
    (hmade : registration ∈ state.made) :
    registration.listener ∈
        Registration.reached publication.delivery.begun publication.delivery.event ↔
      publication.IsFor registration := by
  rw [Publication.mem_reached]
  refine ⟨?_, fun h => ⟨registration, h, rfl⟩⟩
  rintro ⟨other, hother, hsame⟩
  have hknown := (sound.delivered.sound publication hpublication).known other hother.1
  obtain rfl := sound.numbered.eq_of_listener_eq hknown hmade hsame
  exact hother

theorem count_reached (hpublication : publication ∈ state.publications)
    (hmade : registration ∈ state.made) :
    (Registration.reached publication.delivery.begun publication.delivery.event).count
        registration.listener = if publication.IsFor registration then 1 else 0 := by
  have hdistinct : (Registration.reached publication.delivery.begun
      publication.delivery.event).Nodup :=
    (sound.delivered.sound publication hpublication).distinct.sublist (List.filter_sublist.map _)
  simp only [hdistinct.count, sound.listener_mem_reached hpublication hmade]

omit sound in
theorem count_called (state : Shared) (number listener : Nat) :
    (state.called number).count listener = state.calls.count (number, listener) := by
  rw [called, List.count_eq_countP, List.count_eq_countP, List.countP_map, List.countP_filter]
  refine List.countP_congr fun call _ => ?_
  simp [Prod.ext_iff, and_comm]

/-- A publication calls the registrations in its audience once, and nobody else. -/
theorem count_calls (hnumber : state.publications[number]? = some publication)
    (hmade : registration ∈ state.made) :
    state.calls.count (number, registration.listener) ≤
        (if publication.IsFor registration then 1 else 0) ∧
      (publication.isOver → state.calls.count (number, registration.listener) =
        if publication.IsFor registration then 1 else 0) := by
  have hpublication := List.mem_of_getElem? hnumber
  have hsound := sound.delivered.sound publication hpublication
  rw [← sound.count_reached hpublication hmade, ← count_called,
    sound.delivered.called number publication hnumber]
  constructor
  · exact hsound.called_prefix.sublist.count_le registration.listener
  · intro hover
    rw [hsound.called_eq hover]

theorem count_le_one (hmade : registration ∈ state.made) (number : Nat) :
    state.calls.count (number, registration.listener) ≤ 1 := by
  cases hnumber : state.publications[number]? with
  | none =>
    have hnone : (number, registration.listener) ∉ state.calls := by
      intro h
      have := sound.delivered.begun _ h
      have := List.getElem?_eq_none_iff.1 hnumber
      omega
    rw [List.count_eq_zero.2 hnone]
    exact Nat.zero_le 1
  | some publication =>
    refine (sound.count_calls hnumber hmade).1.trans ?_
    split <;> decide

/-- Whom a publication has called has a registration that it is for, and at its end nobody is left
out. -/
theorem mem_calls (hnumber : state.publications[number]? = some publication)
    (hmade : registration ∈ state.made) :
    ((number, registration.listener) ∈ state.calls → publication.IsFor registration) ∧
      (publication.isOver → publication.IsFor registration →
        (number, registration.listener) ∈ state.calls) := by
  obtain ⟨hmost, hover⟩ := sound.count_calls hnumber hmade
  constructor
  · intro hmem
    by_contra hnot
    rw [if_neg hnot] at hmost
    exact Nat.not_lt.2 hmost (List.count_pos_iff.2 hmem)
  · intro hended hfor
    rw [if_pos hfor] at hover
    exact List.count_pos_iff.1 (hover hended ▸ Nat.one_pos)

theorem exists_called {call : Nat × Nat} (hcall : call ∈ state.calls) :
    ∃ publication registration, state.publications[call.1]? = some publication ∧
      publication.IsFor registration ∧ registration.listener = call.2 := by
  obtain ⟨publication, hpublication⟩ :
      ∃ publication, state.publications[call.1]? = some publication :=
    ⟨_, List.getElem?_eq_getElem (sound.delivered.begun call hcall)⟩
  have hcalled : call.2 ∈ state.called call.1 :=
    List.mem_map.2 ⟨call, List.mem_filter.2 ⟨hcall, beq_self_eq_true call.1⟩, rfl⟩
  rw [sound.delivered.called call.1 publication hpublication] at hcalled
  have hsound := sound.delivered.sound publication (List.mem_of_getElem? hpublication)
  obtain ⟨registration, hfor, hlistener⟩ :=
    Publication.mem_reached.1 (hsound.called_prefix.subset hcalled)
  exact ⟨publication, registration, hpublication, hfor, hlistener⟩

end Sound

end Shared

end CredentialWatch
