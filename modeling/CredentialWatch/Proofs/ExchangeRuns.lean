import CredentialWatch.Event.Exchange
import CredentialWatch.Proofs.DeliveryRuns

/-!
# Exchanges as runs of deliveries

What an exchange does to its notifier is a run of moves, whatever publications are under way around
it. A publication at any number of nesting levels is a run that opens a delivery, calls its audience
and leaves. The calls of this run are the ones that the exchange makes: what its log and its
channels gain is what the history of the run gains.
-/
namespace CredentialWatch

open Deliveries (Reaches Note)

def Act.breaksOff : Act → Bool
  | breakOff => true
  | unsubscribe _ | subscribe _ _ _ | publish _ => false

/-- Whether a listener comes to its end when it is called. -/
def Listener.returns : Listener → Bool
  | script _ acts => acts.all fun act => !act.breaksOff
  | channel _ => true

def Listener.ended (listener : Listener) : Call Listener := ⟨listener, listener.returns⟩

namespace Exchange

/-- The line that a log gains by a note: a script that is called says so, and so does one whose
publication has returned. -/
def line? : Note Listener → Option String
  | .called _ event (.script name _) => some s!"{name} {event.path}"
  | .called _ _ (.channel _) => none
  | .returned _ event delivered => some s!"nested {event.path} {delivered}"

/-- The event that the receiver of a channel gains by a note. -/
def sent? (channel : Nat) : Note Listener → Option ChangeEvent
  | .called _ event (.channel number) => if channel = number then some event else none
  | .called _ _ (.script _ _) | .returned _ _ _ => none

/-- The log and the receivers have gained what the notes say, and nothing else. -/
structure Told (before after : Exchange) (notes : List (Note Listener)) : Prop where
  log : after.log = before.log ++ notes.filterMap line?
  receivers : after.receivers = before.receivers.map fun (name, receiver) =>
    (name, { receiver with events := receiver.events ++ notes.filterMap (sent? receiver.number) })

namespace Told

variable {before middle after : Exchange}

theorem of_eq (hlog : after.log = before.log) (hreceivers : after.receivers = before.receivers) :
    Told before after [] where
  log := by simp [hlog]
  receivers := by simp [hreceivers]

theorem trans {notes more : List (Note Listener)} (first : Told before middle notes)
    (second : Told middle after more) : Told before after (notes ++ more) where
  log := by rw [second.log, first.log, List.filterMap_append, List.append_assoc]
  receivers := by
    rw [second.receivers, first.receivers, List.map_map]
    simp [Function.comp_def]

theorem append (exchange : Exchange) {line : String} {note : Note Listener}
    (hline : line? note = some line) (hsent : ∀ channel, sent? channel note = none) :
    Told exchange (exchange.append line) [note] where
  log := by simp [Exchange.append, hline]
  receivers := by simp [Exchange.append, hsent]

theorem send (exchange : Exchange) (publication channel : Nat) (event : ChangeEvent) :
    Told exchange (exchange.send channel event) [.called publication event (.channel channel)] where
  log := by simp [Exchange.send, line?]
  receivers := by
    refine List.map_congr_left fun (name, receiver) _ => ?_
    by_cases hnumber : receiver.number = channel
    · simp [sent?, hnumber]
    · simp [sent?, hnumber]

end Told

/-- From deliveries with the notifier of one exchange some moves lead to deliveries with that of
another. -/
def Leads (before after : Exchange) : Prop :=
  ∀ state : Deliveries Listener, state.Sound → state.Unowned → state.notifier = before.notifier →
    ∃ later, state.Reaches later ∧ later.notifier = after.notifier ∧ later.opened = state.opened

/-- Some moves lead from one exchange to another, and it has gained what they note. -/
def Steps (before after : Exchange) : Prop :=
  ∀ state : Deliveries Listener, state.Sound → state.Unowned → state.notifier = before.notifier →
    ∃ later notes, state.Reaches later ∧ later.notifier = after.notifier ∧
      later.opened = state.opened ∧ later.history = state.history ++ notes ∧
      Told before after notes

section

variable {before middle after : Exchange}

theorem Steps.leads (steps : Steps before after) : Leads before after := by
  intro state sound unowned hnotifier
  obtain ⟨later, notes, hreaches, hafter, hopened, -⟩ := steps state sound unowned hnotifier
  exact ⟨later, hreaches, hafter, hopened⟩

theorem Leads.of_eq (h : after.notifier = before.notifier) : Leads before after :=
  fun state _ _ hnotifier => ⟨state, .refl state, hnotifier.trans h.symm, rfl⟩

theorem Leads.trans (first : Leads before middle) (second : Leads middle after) :
    Leads before after := by
  intro state sound unowned hnotifier
  obtain ⟨between, hbetween, hmiddle, hopened⟩ := first state sound unowned hnotifier
  obtain ⟨later, hlater, hafter, hkept⟩ :=
    second between (hbetween.sound sound) (hbetween.unowned unowned) hmiddle
  exact ⟨later, hbetween.trans hlater, hafter, hkept.trans hopened⟩

theorem Steps.of_eq (hnotifier : after.notifier = before.notifier) (hlog : after.log = before.log)
    (hreceivers : after.receivers = before.receivers) : Steps before after :=
  fun state _ _ h => ⟨state, [], .refl state, h.trans hnotifier.symm, rfl,
    (List.append_nil _).symm, .of_eq hlog hreceivers⟩

theorem Steps.trans (first : Steps before middle) (second : Steps middle after) :
    Steps before after := by
  intro state sound unowned hnotifier
  obtain ⟨between, notes, hbetween, hmiddle, hopened, hhistory, htold⟩ :=
    first state sound unowned hnotifier
  obtain ⟨later, more, hlater, hafter, hkept, hlast, hmore⟩ :=
    second between (hbetween.sound sound) (hbetween.unowned unowned) hmiddle
  refine ⟨later, notes ++ more, hbetween.trans hlater, hafter, hkept.trans hopened, ?_,
    htold.trans hmore⟩
  rw [hlast, hhistory, List.append_assoc]

end

theorem steps_unsubscribe (exchange : Exchange) (name : String) :
    Steps exchange (exchange.unsubscribe name) := by
  unfold unsubscribe
  split
  · exact .of_eq rfl rfl rfl
  · rename_i id hheld
    intro state sound unowned hnotifier
    have htold : Told exchange { exchange with
        notifier := exchange.notifier.drop [id]
        held := exchange.held.filter (·.1 != name) } [] := .of_eq rfl rfl
    cases hfind : state.notifier.find? id with
    | none =>
      refine ⟨state, [], .refl state, ?_, rfl, (List.append_nil _).symm, htold⟩
      rw [← hnotifier, Notifier.drop_none hfind]
    | some registration =>
      have hid : registration.id = id := by simpa using List.find?_some hfind
      have hmem : registration ∈ state.live := by
        rw [← sound.registered]
        exact List.mem_of_find?_eq_some hfind
      obtain ⟨position, hposition⟩ := List.mem_iff_getElem?.1 hmem
      have hdrop : state.apply (.drop position) = { state with
          notifier := state.notifier.drop [id]
          live := state.live.eraseIdx position
          hung := decide (state.DestroysOwner registration) } := by
        rw [unowned.apply_eq, Notifier.drop_alone hfind (unowned.live registration hmem), ← hid]
        show state.drop position = _
        rw [Deliveries.drop, hposition]
      refine ⟨state.apply (.drop position), [], .apply state rfl, ?_, ?_, ?_, htold⟩
      · rw [hdrop, ← hnotifier]
      · rw [hdrop]
      · rw [hdrop]
        exact (List.append_nil _).symm

theorem steps_hold (exchange : Exchange) (name : String) (source? : Option String)
    (listener : Listener) : Steps exchange (exchange.hold name source? listener) := by
  let registered : Exchange :=
    { exchange with
      notifier := (exchange.notifier.register .configurationChanged source? listener []).2 }
  have hregister : Steps exchange registered := by
    intro state _ unowned hnotifier
    let move := Deliveries.Move.subscribe .configurationChanged source? listener []
    have hmade : state.apply move = { state with
        notifier := (state.notifier.register .configurationChanged source? listener []).2
        live := state.live ++
          [⟨state.notifier.nextId, .configurationChanged, source?, listener, []⟩] } := by
      rw [unowned.apply_eq]
      exact Deliveries.subscribe_nil state ..
    refine ⟨state.apply move, [], .apply state rfl, ?_, ?_, ?_, .of_eq rfl rfl⟩
    · rw [hmade, hnotifier]
    · rw [hmade]
    · rw [hmade]
      exact (List.append_nil _).symm
  exact (hregister.trans (steps_unsubscribe registered name)).trans (.of_eq rfl rfl rfl)

theorem leads_openChannel (exchange : Exchange) (name : String) (source? : Option String) :
    Leads exchange (exchange.openChannel name source?) :=
  (steps_hold { exchange with nextChannel := exchange.nextChannel + 1 } name source?
    (.channel exchange.nextChannel)).leads.trans (.of_eq rfl)

/-- What a listener does that publishes again: it logs the number that is returned to it. -/
def republish (publish : Exchange → ChangeEvent → Nat × Exchange) (exchange : Exchange)
    (event : ChangeEvent) : Exchange :=
  (publish exchange event).2.append s!"nested {event.path} {(publish exchange event).1}"

section Calls

variable {publish? : Option (Exchange → ChangeEvent → Nat × Exchange)}

theorem returns_perform (time : Instant) (acts : List Act) (exchange : Exchange) :
    (perform publish? time acts exchange).1 = acts.all fun act => !act.breaksOff := by
  induction acts generalizing exchange with
  | nil => rfl
  | cons act rest ih =>
    cases act with
    | breakOff => rfl
    | unsubscribe name => exact ih _
    | subscribe name source? acts => exact ih _
    | publish path =>
      cases publish? with
      | none => exact ih _
      | some publish => exact ih _

theorem returns_call (event : ChangeEvent) (exchange : Exchange) (listener : Listener) :
    (call publish? event exchange listener).1 = listener.returns := by
  cases listener with
  | script name acts => exact returns_perform event.time acts _
  | channel number => rfl

theorem steps_perform
    (hpublish : ∀ publish ∈ publish?, ∀ exchange event,
      Steps exchange (republish publish exchange event))
    (time : Instant) (acts : List Act) (exchange : Exchange) :
    Steps exchange (perform publish? time acts exchange).2 := by
  induction acts generalizing exchange with
  | nil => exact .of_eq rfl rfl rfl
  | cons act rest ih =>
    cases act with
    | breakOff => exact .of_eq rfl rfl rfl
    | unsubscribe name => exact (steps_unsubscribe exchange name).trans (ih _)
    | subscribe name source? acts => exact (steps_hold exchange name source? _).trans (ih _)
    | publish path =>
      cases publish? with
      | none => exact ih exchange
      | some publish =>
        have hnested := hpublish publish rfl exchange ⟨.configurationChanged, path, time⟩
        exact hnested.trans (ih _)

/-- A call that a delivery makes is noted, and then what the listener does in it. -/
theorem reaches_call
    (hpublish : ∀ publish ∈ publish?, ∀ exchange event,
      Steps exchange (republish publish exchange event))
    (exchange : Exchange) {state : Deliveries Listener} (sound : state.Sound)
    (unowned : state.Unowned) (hnotifier : state.notifier = exchange.notifier) {number : Nat}
    {event : ChangeEvent} {begun : List (Registration Listener)} {calls : List (Call Listener)}
    {listener : Listener} {rest : List Listener} {delivered : Nat}
    {outer : List (Nat × Delivery Listener)}
    (hopened : state.opened =
      (number, ⟨event, begun, calls, none, listener :: rest, delivered⟩) :: outer) :
    ∃ later notes, state.Reaches later ∧
      later.notifier = (call publish? event exchange listener).2.notifier ∧
      later.opened = (number, ⟨event, begun, calls ++ [listener.ended], none, rest,
        if listener.returns then delivered + 1 else delivered⟩) :: outer ∧
      later.history = state.history ++ notes ∧
      Told exchange (call publish? event exchange listener).2 notes := by
  have hcall : state.apply .call = { state with
      opened := (number, ⟨event, begun, calls, some listener, rest, delivered⟩) :: outer
      history := state.history ++ [.called number event listener] } := by
    rw [unowned.apply_eq]
    show state.call = _
    rw [Deliveries.call, hopened]
    rfl
  obtain ⟨between, notes, hbetween, hacted, hkept, hhistory, htold⟩ :
      ∃ between notes, (state.apply .call).Reaches between ∧
        between.notifier = (call publish? event exchange listener).2.notifier ∧
        between.opened = (state.apply .call).opened ∧
        between.history = (state.apply .call).history ++ notes ∧
        Told exchange (call publish? event exchange listener).2
          (.called number event listener :: notes) := by
    cases listener with
    | channel channel =>
      refine ⟨state.apply .call, [], .refl _, ?_, rfl, (List.append_nil _).symm,
        .send exchange number channel event⟩
      rw [hcall, hnotifier]
      rfl
    | script name acts =>
      let called := exchange.append s!"{name} {event.path}"
      have hcalled : (state.apply .call).notifier = called.notifier := by
        rw [hcall, hnotifier]
        rfl
      obtain ⟨between, notes, hbetween, hacted, hkept, hhistory, htold⟩ :=
        steps_perform hpublish event.time acts called (state.apply .call) (sound.apply .call)
          (unowned.apply rfl) hcalled
      have hline : Told exchange called [.called number event (.script name acts)] :=
        .append exchange rfl fun _ => rfl
      exact ⟨between, notes, hbetween, hacted, hkept, hhistory, hline.trans htold⟩
  have hfinish : between.apply (.finish listener.returns) = { between with
      opened := (number, ⟨event, begun, calls ++ [listener.ended], none, rest,
        if listener.returns then delivered + 1 else delivered⟩) :: outer } := by
    rw [((Reaches.apply state rfl).trans hbetween).unowned unowned |>.apply_eq]
    show between.finish listener.returns = _
    rw [Deliveries.finish, hkept, hcall]
    rfl
  refine ⟨between.apply (.finish listener.returns), .called number event listener :: notes,
    ((Reaches.apply state rfl).trans hbetween).trans (.apply between rfl), ?_, ?_, ?_, htold⟩
  · rw [hfinish]
    exact hacted
  · rw [hfinish]
  · rw [hfinish, hhistory, hcall, List.append_assoc]
    rfl

/-- Calling the listeners that a delivery still waits for brings it to its end. -/
theorem reaches_callAll
    (hpublish : ∀ publish ∈ publish?, ∀ exchange event,
      Steps exchange (republish publish exchange event))
    {number : Nat} {event : ChangeEvent} {begun : List (Registration Listener)}
    {outer : List (Nat × Delivery Listener)} (listeners : List Listener) {exchange : Exchange}
    {state : Deliveries Listener} (sound : state.Sound) (unowned : state.Unowned)
    (hnotifier : state.notifier = exchange.notifier) {calls : List (Call Listener)}
    {delivered : Nat}
    (hopened : state.opened =
      (number, ⟨event, begun, calls, none, listeners, delivered⟩) :: outer) :
    ∃ later notes, state.Reaches later ∧
      later.notifier = (callAll publish? event listeners exchange).2.notifier ∧
      later.opened = (number, ⟨event, begun, calls ++ listeners.map Listener.ended, none, [],
        delivered + (callAll publish? event listeners exchange).1⟩) :: outer ∧
      later.history = state.history ++ notes ∧
      Told exchange (callAll publish? event listeners exchange).2 notes := by
  induction listeners generalizing exchange state calls delivered with
  | nil =>
    refine ⟨state, [], .refl state, hnotifier, ?_, (List.append_nil _).symm, .of_eq rfl rfl⟩
    rw [hopened, List.map_nil, List.append_nil]
    rfl
  | cons listener rest ih =>
    obtain ⟨between, notes, hbetween, hacted, hkept, hhistory, htold⟩ :=
      reaches_call hpublish exchange sound unowned hnotifier hopened
    obtain ⟨later, more, hlater, hlast, hended, hrest, hmore⟩ :=
      ih (hbetween.sound sound) (hbetween.unowned unowned) hacted hkept
    have hcount : (if listener.returns then delivered + 1 else delivered) +
        (callAll publish? event rest (call publish? event exchange listener).2).1 =
          delivered + (callAll publish? event (listener :: rest) exchange).1 := by
      simp only [callAll, returns_call]
      split
      · omega
      · rfl
    refine ⟨later, notes ++ more, hbetween.trans hlater, hlast, ?_, ?_, htold.trans hmore⟩
    · rw [hended, hcount, List.map_cons, List.append_assoc, List.singleton_append]
    · rw [hrest, hhistory, List.append_assoc]

end Calls

/-- Opening a delivery, calling its audience and leaving. -/
theorem reaches_callAudience {publish? : Option (Exchange → ChangeEvent → Nat × Exchange)}
    (hpublish : ∀ publish ∈ publish?, ∀ exchange event,
      Steps exchange (republish publish exchange event))
    (exchange : Exchange) (event : ChangeEvent) {state : Deliveries Listener}
    (sound : state.Sound) (unowned : state.Unowned)
    (hnotifier : state.notifier = exchange.notifier) :
    let audience := exchange.notifier.audience event
    let result := callAll publish? event audience exchange
    ∃ later notes, state.Reaches later ∧ later.notifier = result.2.notifier ∧
      later.opened = state.opened ∧
      later.history = state.history ++ notes ++ [.returned state.begun event result.1] ∧
      Told exchange result.2 notes ∧
      later.published.getLast? = some (state.begun,
        ⟨event, exchange.notifier.registrations, audience.map Listener.ended, result.1⟩) := by
  intro audience result
  have hpublished : state.apply (.publish event) = { state with
      begun := state.begun + 1
      opened := (state.begun, ⟨event, exchange.notifier.registrations, [], none, audience, 0⟩) ::
        state.opened } := by
    rw [unowned.apply_eq]
    show state.publish event = _
    rw [Deliveries.publish, Delivery.begin, hnotifier]
  have hbegun : state.Reaches (state.apply (.publish event)) := .apply state rfl
  obtain ⟨ended, notes, hended, hlast, hopened, hhistory, htold⟩ :=
    reaches_callAll hpublish audience (hbegun.sound sound) (hbegun.unowned unowned)
      (by rw [hpublished]; exact hnotifier) (by rw [hpublished])
  have hreaches := hbegun.trans hended
  have hleave : ended.apply .leave = { ended with
      opened := state.opened
      published := ended.published ++ [(state.begun,
        ⟨event, exchange.notifier.registrations, audience.map Listener.ended, result.1⟩)]
      history := ended.history ++ [.returned state.begun event result.1] } := by
    rw [(hreaches.unowned unowned).apply_eq]
    show ended.leave = _
    rw [Deliveries.leave, hopened]
    simp [Delivery.published?, result]
  refine ⟨ended.apply .leave, notes, hreaches.trans (.apply ended rfl), ?_, ?_, ?_, htold, ?_⟩
  · rw [hleave]
    exact hlast
  · rw [hleave]
  · rw [hleave, hhistory, hpublished]
  · rw [hleave, List.getLast?_concat]

/-- What publishing again does with some levels of nesting left. -/
def again? : Nat → Option (Exchange → ChangeEvent → Nat × Exchange)
  | 0 => none
  | levels + 1 => some (publishNested levels)

theorem publishNested_eq (levels : Nat) (exchange : Exchange) (event : ChangeEvent) :
    publishNested levels exchange event =
      callAll (again? levels) event (exchange.notifier.audience event) exchange := by
  cases levels with
  | zero => rfl
  | succ levels => rfl

theorem steps_again (levels : Nat) :
    ∀ publish ∈ again? levels, ∀ exchange event,
      Steps exchange (republish publish exchange event) := by
  induction levels with
  | zero =>
    intro publish hmem
    cases hmem
  | succ levels ih =>
    intro publish hmem exchange event state sound unowned hnotifier
    obtain rfl : publishNested levels = publish := Option.some.inj hmem
    obtain ⟨later, notes, hlater, hlast, hopened, hhistory, htold, -⟩ :=
      reaches_callAudience ih exchange event sound unowned hnotifier
    rw [← publishNested_eq] at hlast hhistory htold
    refine ⟨later, notes ++ [.returned state.begun event (publishNested levels exchange event).1],
      hlater, hlast, hopened, ?_, htold.trans (.append _ rfl fun _ => rfl)⟩
    rw [hhistory, List.append_assoc]

/-- What a publication of an exchange is as a run: it leaves behind the number that it returns. -/
theorem reaches_publishNested (levels : Nat) (exchange : Exchange) (event : ChangeEvent)
    {state : Deliveries Listener} (sound : state.Sound) (unowned : state.Unowned)
    (hnotifier : state.notifier = exchange.notifier) :
    let result := publishNested levels exchange event
    ∃ later notes, state.Reaches later ∧ later.notifier = result.2.notifier ∧
      later.opened = state.opened ∧
      later.history = state.history ++ notes ++ [.returned state.begun event result.1] ∧
      Told exchange result.2 notes ∧
      later.published.getLast? = some (state.begun, ⟨event, exchange.notifier.registrations,
        (exchange.notifier.audience event).map Listener.ended, result.1⟩) := by
  rw [publishNested_eq]
  exact reaches_callAudience (steps_again levels) exchange event sound unowned hnotifier

/-- The exchanges that operations lead to from the empty one. -/
inductive Reachable : Exchange → Prop where
  | empty : Reachable empty
  | subscribe {exchange : Exchange} (name : String) (source? : Option String) (acts : List Act) :
    Reachable exchange → Reachable (exchange.subscribe name source? acts)
  | openChannel {exchange : Exchange} (name : String) (source? : Option String) :
    Reachable exchange → Reachable (exchange.openChannel name source?)
  | unsubscribe {exchange : Exchange} (name : String) :
    Reachable exchange → Reachable (exchange.unsubscribe name)
  | publish {exchange : Exchange} (event : ChangeEvent) :
    Reachable exchange → Reachable (exchange.publish event).2
  | closeReceiver {exchange : Exchange} (name : String) :
    Reachable exchange → Reachable (exchange.closeReceiver name)
  | drain {exchange : Exchange} (name : String) :
    Reachable exchange → Reachable (exchange.drain name)
  | takeLog {exchange : Exchange} : Reachable exchange → Reachable exchange.takeLog.2

theorem leads_publish (exchange : Exchange) (event : ChangeEvent) :
    Leads exchange (exchange.publish event).2 := by
  intro state sound unowned hnotifier
  obtain ⟨later, notes, hlater, hlast, hopened, -⟩ :=
    reaches_publishNested nestingLimit exchange event sound unowned hnotifier
  exact ⟨later, hlater, hlast, hopened⟩

theorem Reachable.leads {exchange : Exchange} (reachable : exchange.Reachable) :
    Leads Exchange.empty exchange := by
  induction reachable with
  | empty => exact .of_eq rfl
  | subscribe name source? acts _ ih => exact ih.trans (steps_hold _ name source? _).leads
  | openChannel name source? _ ih => exact ih.trans (leads_openChannel _ name source?)
  | unsubscribe name _ ih => exact ih.trans (steps_unsubscribe _ name).leads
  | publish event _ ih => exact ih.trans (leads_publish _ event)
  | closeReceiver name _ ih => exact ih.trans (.of_eq rfl)
  | drain name _ ih => exact ih.trans (.of_eq rfl)
  | takeLog _ ih => exact ih.trans (.of_eq rfl)

end Exchange

end CredentialWatch
