import CredentialWatch.Event.Shared
import CredentialWatch.Watch.Record

/-!
# Watches that publish to a shared notifier

The tasks of a service publish to a notifier that threads share. A task calls the listeners of what
it publishes itself, so it takes no other turn until its publication is over; everything else goes
on meanwhile. Whatever else publishes to the notifier, be it another service, does so by moves of
the notifier alone.
-/
namespace CredentialWatch.Watch

structure Broadcast where
  usage : Usage
  shared : Shared
  /-- What the watches have published, oldest first: the number of the watch, and the position of
  the publication. -/
  announced : List (Nat × Nat)

/-- The task that takes a turn, if one does. -/
def Occurrence.turn? : Occurrence → Option Nat
  | move (.poll id _) => some id
  | _ => none

namespace Broadcast

inductive Move where
  | share (move : Shared.Move)
  /-- Something happens to the service, at a time. -/
  | undergo (occurrence : Occurrence) (time : Instant)

def start (debounce : Duration) : Broadcast := ⟨Usage.start debounce, Shared.start, []⟩

/-- Whether a publication of a watch is under way. -/
def isBusy (state : Broadcast) (id : Nat) : Bool :=
  state.announced.any fun (watch, number) =>
    watch == id && state.shared.publications[number]?.any fun publication => !publication.isOver

def undergo (state : Broadcast) (occurrence : Occurrence) (time : Instant) : Broadcast :=
  if occurrence.turn?.any state.isBusy then state
  else
    let usage := state.usage.undergo occurrence
    match state.usage.note? occurrence with
    | some (.published id place) =>
      { usage
        shared := state.shared.publish ⟨.configurationChanged, place.path, time⟩
        announced := state.announced ++ [(id, state.shared.publications.length)] }
    | _ => { state with usage }

def apply (state : Broadcast) : Move → Broadcast
  | .share move => { state with shared := state.shared.apply move }
  | .undergo occurrence time => state.undergo occurrence time

def run (state : Broadcast) (moves : List Move) : Broadcast :=
  moves.foldl apply state

/-- What a watch has published, by the positions of the publications. -/
def announcedBy (state : Broadcast) (id : Nat) : List Nat :=
  (state.announced.filter (·.1 == id)).map Prod.snd

/-- Whether nothing that a watch has published is under way. -/
def Quiet (state : Broadcast) (id : Nat) : Prop :=
  ∀ number ∈ state.announcedBy id, ∀ publication,
    state.shared.publications[number]? = some publication →
    publication.isOver

/-- The publications of a watch that a listener was called by, in the order of the calls. -/
def heard (state : Broadcast) (listener id : Nat) : List Nat :=
  (state.shared.calls.filter fun call =>
    call.2 == listener && state.announced.contains (id, call.1)).map
    Prod.fst

def event? (state : Broadcast) (number : Nat) : Option ChangeEvent :=
  state.shared.publications[number]?.map fun publication => publication.delivery.event

/-- The events of a watch that a listener was called with, in the order of the calls. A channel
keeps them as they come. -/
def received (state : Broadcast) (listener id : Nat) : List ChangeEvent :=
  (state.heard listener id).filterMap state.event?

/-- Whether a registration stood when a publication began. -/
def stood (state : Broadcast) (registration : Registration Nat) (number : Nat) : Bool :=
  state.shared.publications[number]?.any fun publication =>
    publication.delivery.begun.contains registration

/-- The events that a watch has published while a registration stood, in the order of
publication. -/
def sent (state : Broadcast) (id : Nat) (registration : Registration Nat) : List ChangeEvent :=
  ((state.announcedBy id).filter (state.stood registration)).filterMap state.event?

end Broadcast

end CredentialWatch.Watch
