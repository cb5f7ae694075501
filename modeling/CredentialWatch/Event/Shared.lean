import CredentialWatch.Event.Delivery

/-!
# A notifier that threads share

Threads register listeners, drop subscriptions and publish at the same time, each in steps between
which the others go on. A registration takes its number in one step and is pushed in another one; a
publication settles its audience in one step and then calls one listener after the other, while
others change the registrations. What is kept here is what is under way, not which thread is at it,
and all of it may take its next step at any time; so every order in which any number of threads take
their steps is a run. A listener is known by how many registrations were given a number before its
own. Numbers have 64 bits.
-/
namespace CredentialWatch

deriving instance DecidableEq for Registration

/-- A change of the registrations. -/
inductive Alteration where
  | pushed (registration : Registration Nat)
  | removed (listener : Nat)
  deriving DecidableEq

/-- A publication, under way or at its end. -/
structure Publication where
  /-- How many changes of the registrations came before its audience was settled. -/
  moment : Nat
  delivery : Delivery Nat

structure Shared where
  notifier : Notifier Nat
  /-- Every registration that was given a number. -/
  made : List (Registration Nat)
  /-- The registrations that have a number and are not pushed yet. -/
  numbered : List (Registration Nat)
  /-- What the subscriptions were made with that are not dropped yet, in the order of pushing. -/
  held : List (Registration Nat)
  /-- Every publication, in the order in which they began. -/
  publications : List Publication
  /-- The changes of the registrations, oldest first. -/
  history : List Alteration
  /-- The calls of listeners, oldest first, each with the position of its publication. -/
  calls : List (Nat × Nat)

/-- Whether a publication has nobody left to call, so that it returns. -/
def Publication.isOver (publication : Publication) : Bool :=
  publication.delivery.published?.isSome

namespace Shared

inductive Move where
  /-- Take a number for a registration. -/
  | number (type : EventType) (source? : Option String)
  /-- Push a registration that has its number, named by its position. -/
  | push (position : Nat)
  /-- Drop a subscription, named by its position. -/
  | drop (position : Nat)
  /-- Begin a publication and settle its audience. -/
  | publish (event : ChangeEvent)
  /-- Let a publication, named by its position, call the next listener. -/
  | call (publication : Nat)
  /-- End the call that a publication waits for. -/
  | finish (publication : Nat) (completed : Bool)

/-- Whether a move takes a number. -/
def Move.takesNumber : Move → Bool
  | number _ _ => true
  | _ => false

def start : Shared := ⟨Notifier.empty, [], [], [], [], [], []⟩

def number (state : Shared) (type : EventType) (source? : Option String) : Shared :=
  let (number, notifier) := state.notifier.allocate
  let registration := ⟨number % UInt64.size, type, source?, number, []⟩
  { state with
    notifier
    made := state.made ++ [registration]
    numbered := state.numbered ++ [registration] }

def push (state : Shared) (position : Nat) : Shared :=
  match state.numbered[position]? with
  | none => state
  | some registration =>
    { state with
      notifier := state.notifier.push registration
      numbered := state.numbered.eraseIdx position
      held := state.held ++ [registration]
      history := state.history ++ [.pushed registration] }

def drop (state : Shared) (position : Nat) : Shared :=
  match state.held[position]? with
  | none => state
  | some subscription =>
    { state with
      notifier := state.notifier.remove subscription.id
      held := state.held.eraseIdx position
      history := state.history ++ [.removed subscription.listener] }

def publish (state : Shared) (event : ChangeEvent) : Shared :=
  { state with
    publications := state.publications ++
      [⟨state.history.length, Delivery.begin event state.notifier⟩] }

/-- The state with the delivery of one publication changed. -/
def modify (state : Shared) (publication : Nat) (change : Delivery Nat → Delivery Nat) : Shared :=
  { state with
    publications := state.publications.modify publication fun publication =>
      { publication with delivery := change publication.delivery } }

/-- The listener that a publication, named by its position, calls next. -/
def next? (state : Shared) (publication : Nat) : Option Nat :=
  state.publications[publication]?.bind fun publication => publication.delivery.next?

def call (state : Shared) (publication : Nat) : Shared :=
  { state.modify publication Delivery.call with
    calls := state.calls ++ ((state.next? publication).map (publication, ·)).toList }

def apply (state : Shared) : Move → Shared
  | .number type source? => state.number type source?
  | .push position => state.push position
  | .drop position => state.drop position
  | .publish event => state.publish event
  | .call publication => state.call publication
  | .finish publication completed => state.modify publication (Delivery.finish completed)

def run (state : Shared) (moves : List Move) : Shared :=
  moves.foldl apply state

/-- Whom a publication has called, in order. -/
def called (state : Shared) (publication : Nat) : List Nat :=
  (state.calls.filter (·.1 == publication)).map Prod.snd

/-- Whether a registration is for a publication: it was pushed before the audience was settled and
not removed before that, it is for events of its type, and it names no path or that of the event. -/
def Due (state : Shared) (publication : Publication) (registration : Registration Nat) : Prop :=
  .pushed registration ∈ state.history.take publication.moment ∧
    .removed registration.listener ∉ state.history.take publication.moment ∧
    registration.type = publication.delivery.event.type ∧
    ∀ source ∈ registration.source?, Path.same source publication.delivery.event.path

instance (state : Shared) (publication : Publication) (registration : Registration Nat) :
    Decidable (state.Due publication registration) :=
  inferInstanceAs (Decidable (_ ∧ _))

end Shared

end CredentialWatch
