import CredentialWatch.Event.Notifier

/-!
# Deliveries under way

A publication settles its audience and then calls one listener after the other. A listener that is
called acts like any other code: it registers listeners, drops subscriptions and publishes, which
opens a delivery inside the one that called it, until it returns or breaks off. Code can also run
between two calls, when a listener that was dropped is destroyed. So what other code does is any
sequence of moves here; a move whose time has not come changes nothing.

A listener may own subscriptions that were made before it. If a delivery still has a copy of it when
its own subscription is dropped, they live on until code drops them. Otherwise it is destroyed while
the registrations are locked, and the subscriptions that it owns wait for the lock for ever: nothing
moves any more.
-/
namespace CredentialWatch

/-- A call that is over; `completed` says whether the listener returned or broke off. -/
structure Call (Listener : Type) where
  listener : Listener
  completed : Bool

/-- A publication whose audience is being called. -/
structure Delivery (Listener : Type) where
  event : ChangeEvent
  /-- The registrations at the moment it began. -/
  begun : List (Registration Listener)
  calls : List (Call Listener)
  running? : Option Listener
  waiting : List Listener
  /-- How many listeners have returned. -/
  delivered : Nat

/-- A publication that has returned a number to its caller. -/
structure Published (Listener : Type) where
  event : ChangeEvent
  begun : List (Registration Listener)
  calls : List (Call Listener)
  returned : Nat

/-- What is noted of a publication, which is named by its number. -/
inductive Deliveries.Note (Listener : Type) where
  | called (publication : Nat) (event : ChangeEvent) (listener : Listener)
  | returned (publication : Nat) (event : ChangeEvent) (delivered : Nat)

structure Deliveries (Listener : Type) where
  notifier : Notifier Listener
  /-- What each subscription was made with that is not dropped yet, in the order of making. -/
  live : List (Registration Listener)
  /-- How many publications have begun, which is the number of the next one. -/
  begun : Nat
  /-- The publications under way with their numbers, the innermost first. -/
  opened : List (Nat × Delivery Listener)
  /-- The publications at their end with their numbers. -/
  published : List (Nat × Published Listener)
  /-- What was noted, oldest first. -/
  history : List (Deliveries.Note Listener)
  /-- Whether the lock is waited for by code that runs while it is held. -/
  hung : Bool

namespace Delivery

variable {Listener : Type}

def begin (event : ChangeEvent) (notifier : Notifier Listener) : Delivery Listener :=
  ⟨event, notifier.registrations, [], none, notifier.audience event, 0⟩

/-- The listener that a delivery calls next, if none is running. -/
def next? (delivery : Delivery Listener) : Option Listener :=
  match delivery.running?, delivery.waiting with
  | none, listener :: _ => some listener
  | _, _ => none

/-- The registrations of whose listeners a delivery still has a copy. -/
def copies (delivery : Delivery Listener) : List (Registration Listener) :=
  (delivery.begun.filter (·.accepts delivery.event)).drop delivery.calls.length

/-- Call the next listener. -/
def call (delivery : Delivery Listener) : Delivery Listener :=
  match delivery.running?, delivery.waiting with
  | none, listener :: rest => { delivery with running? := some listener, waiting := rest }
  | _, _ => delivery

/-- End the call that is running. -/
def finish (completed : Bool) (delivery : Delivery Listener) : Delivery Listener :=
  match delivery.running? with
  | none => delivery
  | some listener =>
    { delivery with
      calls := delivery.calls ++ [⟨listener, completed⟩]
      running? := none
      delivered := if completed then delivery.delivered + 1 else delivery.delivered }

/-- The publication at its end, when nobody is left to be called. -/
def published? (delivery : Delivery Listener) : Option (Published Listener) :=
  match delivery.running?, delivery.waiting with
  | none, [] => some ⟨delivery.event, delivery.begun, delivery.calls, delivery.delivered⟩
  | _, _ => none

end Delivery

namespace Deliveries

variable {Listener : Type}

/-- The listener of a call that a publication has made. -/
def Note.calledBy? (publication : Nat) : Note Listener → Option Listener
  | called number _ listener => if number = publication then some listener else none
  | returned _ _ _ => none

def Note.publication : Note Listener → Nat
  | called number _ _ => number
  | returned number _ _ => number

inductive Move (Listener : Type) where
  /-- Register a listener that takes over some subscriptions. -/
  | subscribe (type : EventType) (source? : Option String) (listener : Listener) (owned : List Nat)
  /-- Drop a live subscription, named by its position. -/
  | drop (position : Nat)
  | publish (event : ChangeEvent)
  | call
  | finish (completed : Bool)
  /-- The innermost publication returns. -/
  | leave

/-- The subscriptions that a listener is made to own. -/
def Move.owned : Move Listener → List Nat
  | subscribe _ _ _ owned => owned
  | drop _ | publish _ | call | finish _ | leave => []

def start : Deliveries Listener := ⟨Notifier.empty, [], 0, [], [], [], false⟩

/-- The registrations of whose listeners a publication under way still has a copy. -/
def copies (state : Deliveries Listener) : List (Registration Listener) :=
  state.opened.flatMap fun (_, delivery) => delivery.copies

/-- Whom a publication has called, in order. -/
def called (state : Deliveries Listener) (publication : Nat) : List Listener :=
  state.history.filterMap (Note.calledBy? publication)

/-- Whether a listener can be made to own subscriptions: they are live, and no other one owns
them. -/
def CanOwn (state : Deliveries Listener) (owned : List Nat) : Prop :=
  owned.Nodup ∧ ∀ id ∈ owned, id ∈ state.live.map Registration.id ∧
    ∀ owner ∈ state.live ++ state.copies, id ∉ owner.owned

instance (state : Deliveries Listener) (owned : List Nat) : Decidable (state.CanOwn owned) :=
  inferInstanceAs (Decidable (_ ∧ _))

def subscribe (state : Deliveries Listener) (type : EventType) (source? : Option String)
    (listener : Listener) (owned : List Nat) : Deliveries Listener :=
  if state.CanOwn owned then
    let (id, notifier) := state.notifier.register type source? listener owned
    { state with notifier, live := state.live ++ [⟨id, type, source?, listener, owned⟩] }
  else state

/-- Whether the removal of a registration destroys a listener that owns live subscriptions: no
publication has a copy of it. -/
def DestroysOwner (state : Deliveries Listener) (registration : Registration Listener) : Prop :=
  (∀ copy ∈ state.copies, copy.id ≠ registration.id) ∧
    ∃ other ∈ state.live, other.id ∈ registration.owned

instance (state : Deliveries Listener) (registration : Registration Listener) :
    Decidable (state.DestroysOwner registration) :=
  inferInstanceAs (Decidable (_ ∧ _))

def drop (state : Deliveries Listener) (position : Nat) : Deliveries Listener :=
  match state.live[position]? with
  | none => state
  | some subscription =>
    { state with
      notifier := state.notifier.remove subscription.id
      live := state.live.eraseIdx position
      hung := decide (state.DestroysOwner subscription) }

def publish (state : Deliveries Listener) (event : ChangeEvent) : Deliveries Listener :=
  { state with
    begun := state.begun + 1
    opened := (state.begun, Delivery.begin event state.notifier) :: state.opened }

/-- Let the innermost publication call the next listener. -/
def call (state : Deliveries Listener) : Deliveries Listener :=
  match state.opened with
  | [] => state
  | (number, delivery) :: outer =>
    match delivery.next? with
    | none => state
    | some listener =>
      { state with
        opened := (number, delivery.call) :: outer
        history := state.history ++ [.called number delivery.event listener] }

/-- End the call that the innermost publication waits for. -/
def finish (state : Deliveries Listener) (completed : Bool) : Deliveries Listener :=
  { state with
    opened := state.opened.modifyHead fun (number, delivery) =>
      (number, delivery.finish completed) }

def leave (state : Deliveries Listener) : Deliveries Listener :=
  match state.opened with
  | [] => state
  | (number, delivery) :: outer =>
    match delivery.published? with
    | none => state
    | some result =>
      { state with
        opened := outer
        published := state.published ++ [(number, result)]
        history := state.history ++ [.returned number result.event result.returned] }

/-- What one move does while nothing hangs. -/
def step (state : Deliveries Listener) : Move Listener → Deliveries Listener
  | .subscribe type source? listener owned => state.subscribe type source? listener owned
  | .drop position => state.drop position
  | .publish event => state.publish event
  | .call => state.call
  | .finish completed => state.finish completed
  | .leave => state.leave

def apply (state : Deliveries Listener) (move : Move Listener) : Deliveries Listener :=
  if state.hung then state else state.step move

def run (state : Deliveries Listener) (moves : List (Move Listener)) : Deliveries Listener :=
  moves.foldl apply state

end Deliveries

end CredentialWatch
