import CredentialWatch.Event.Notifier

/-!
# The lock of a notifier

Threads change the registrations, and copy those that an event reaches, only under one lock, which a
thread that holds it cannot take again. A removed registration takes its listener with it unless a
delivery has a copy of it, and a listener that is destroyed drops the subscriptions it has captured:
while the lock is held if its removal destroys it, after the delivery's last copy otherwise. Threads
take their parts in any order; one that cannot get the lock stays where it is. Listeners are known
by the numbers of their registrations, of which none returns.
-/
namespace CredentialWatch

/-- What a thread has to do, in parts between which other threads go on. -/
inductive Duty where
  /-- Push a registration that has its number. -/
  | push (registration : Registration Unit)
  /-- Drop a subscription, which removes its registration. -/
  | drop (id : Nat)
  /-- Give back the lock after a removal. -/
  | unlock
  | publish (event : ChangeEvent)
  /-- Call a listener by its copy. -/
  | call (id : Nat)
  /-- End the call of a listener, and give back its copy. -/
  | release (id : Nat)

namespace Duty

def needsLock : Duty → Bool
  | push _ | drop _ | publish _ => true
  | unlock | call _ | release _ => false

/-- Whether a duty has a copy of the listener with a number. -/
def Holds (id : Nat) : Duty → Prop
  | call copied | release copied => copied = id
  | push _ | drop _ | unlock | publish _ => False

instance (id : Nat) : DecidablePred (Holds id)
  | call copied | release copied => inferInstanceAs (Decidable (copied = id))
  | push _ | drop _ | unlock | publish _ => inferInstanceAs (Decidable False)

/-- The subscriptions that a duty has. -/
def subscriptions : Duty → List Nat
  | push registration => registration.owned
  | drop id => [id]
  | unlock | publish _ | call _ | release _ => []

end Duty

/-- A notifier with its lock and the threads that share it. -/
structure Guarded where
  notifier : Notifier Unit
  /-- The thread that holds the lock. -/
  holder? : Option Nat
  /-- The registrations that are removed while a delivery still has a copy of their listener. -/
  lingering : List (Registration Unit)
  /-- The subscriptions that no listener owns and that are not being dropped. -/
  held : List Nat
  /-- What each thread has to do, the next part first. -/
  threads : List (List Duty)

namespace Guarded

/-- What a thread is made to do by code outside: by its own, or by that of the listener it is
calling. -/
inductive Move where
  /-- Subscribe with a listener that takes over some subscriptions. -/
  | subscribe (thread : Nat) (type : EventType) (source? : Option String) (owned : List Nat)
  | drop (thread : Nat) (id : Nat)
  | publish (thread : Nat) (event : ChangeEvent)
  /-- Go on with the next part. -/
  | go (thread : Nat)

/-- The subscriptions that a listener is made to own. -/
def Move.owned : Move → List Nat
  | subscribe _ _ _ owned => owned
  | drop _ _ | publish _ _ | go _ => []

def start (threads : Nat) : Guarded :=
  ⟨Notifier.empty, none, [], [], List.replicate threads []⟩

/-- The state with other duties for a thread. -/
def proceed (state : Guarded) (thread : Nat) (duties : List Duty) : Guarded :=
  { state with threads := state.threads.set thread duties }

/-- Whether a delivery has a copy of the listener with a number. -/
def Copied (state : Guarded) (id : Nat) : Prop :=
  ∃ duties ∈ state.threads, ∃ duty ∈ duties, duty.Holds id

instance (state : Guarded) (id : Nat) : Decidable (state.Copied id) :=
  inferInstanceAs (Decidable (∃ duties ∈ state.threads, ∃ duty ∈ duties, duty.Holds id))

/-- Remove a registration under the lock. If no copy keeps its listener, that is destroyed before
the lock is given back. -/
def remove (state : Guarded) (thread : Nat) (rest : List Duty) (id : Nat) : Guarded :=
  let removed := { state with notifier := state.notifier.remove id, holder? := some thread }
  match state.notifier.find? id with
  | none => removed.proceed thread (.unlock :: rest)
  | some registration =>
    if state.Copied id then
      { removed with lingering := state.lingering ++ [registration] }.proceed thread
        (.unlock :: rest)
    else removed.proceed thread (registration.owned.map Duty.drop ++ .unlock :: rest)

/-- Give back a copy of a listener. If it is the last one of a listener that is not registered any
more, that is destroyed. -/
def release (state : Guarded) (thread : Nat) (rest : List Duty) (id : Nat) : Guarded :=
  match state.lingering.find? (·.id == id) with
  | none => state
  | some registration =>
    if state.Copied id then state
    else { state with lingering := state.lingering.filter (·.id != id) }.proceed thread
      (registration.owned.map Duty.drop ++ rest)

/-- Do a duty of a thread, which has some others behind it. -/
def perform (state : Guarded) (thread : Nat) (rest : List Duty) : Duty → Guarded
  | .push registration =>
    { state with
      notifier := state.notifier.push registration
      held := state.held ++ [registration.id] }
  | .drop id => state.remove thread rest id
  | .unlock => { state with holder? := none }
  | .publish event =>
    let audience := state.notifier.registrations.filter (·.accepts event)
    state.proceed thread (audience.map (fun registration => .call registration.id) ++ rest)
  | .call id => state.proceed thread (.release id :: rest)
  | .release id => state.release thread rest id

/-- Let a thread go on, if it does not have to wait for the lock. -/
def go (state : Guarded) (thread : Nat) : Guarded :=
  match state.threads[thread]? with
  | some (duty :: rest) =>
    if duty.needsLock && state.holder?.isSome then state
    else (state.proceed thread rest).perform thread rest duty
  | _ => state

/-- The duties of a thread that is at code from outside: it has none under way, or is calling a
listener. -/
def outside? (state : Guarded) (thread : Nat) : Option (List Duty) :=
  match state.threads[thread]? with
  | some [] => some []
  | some (.release id :: rest) => some (.release id :: rest)
  | _ => none

def subscribe (state : Guarded) (thread : Nat) (type : EventType) (source? : Option String)
    (owned : List Nat) : Guarded :=
  match state.outside? thread with
  | none => state
  | some duties =>
    if owned.Nodup ∧ ∀ id ∈ owned, id ∈ state.held then
      let (id, notifier) := state.notifier.allocate
      { state with
        notifier
        held := state.held.filter (· ∉ owned) }.proceed thread
          (.push ⟨id, type, source?, (), owned⟩ :: duties)
    else state

def drop (state : Guarded) (thread : Nat) (id : Nat) : Guarded :=
  match state.outside? thread with
  | none => state
  | some duties =>
    if id ∈ state.held then
      { state with held := state.held.erase id }.proceed thread (.drop id :: duties)
    else state

def publish (state : Guarded) (thread : Nat) (event : ChangeEvent) : Guarded :=
  match state.outside? thread with
  | none => state
  | some duties => state.proceed thread (.publish event :: duties)

def apply (state : Guarded) : Move → Guarded
  | .subscribe thread type source? owned => state.subscribe thread type source? owned
  | .drop thread id => state.drop thread id
  | .publish thread event => state.publish thread event
  | .go thread => state.go thread

def run (state : Guarded) (moves : List Move) : Guarded :=
  moves.foldl apply state

/-- A thread that is to drop a subscription while it holds the lock itself. -/
def Hangs (state : Guarded) (thread : Nat) : Prop :=
  state.holder? = some thread ∧ ∃ id rest, state.threads[thread]? = some (.drop id :: rest)

/-- Whether removing a registration destroys a listener that owns subscriptions: no delivery has a
copy of it. -/
def DestroysOwner (state : Guarded) (id : Nat) : Prop :=
  ¬state.Copied id ∧
    ∃ registration, state.notifier.find? id = some registration ∧ registration.owned ≠ []

/-- Let the thread go on that holds the lock. -/
def goHolder (state : Guarded) : Guarded :=
  match state.holder? with
  | none => state
  | some holder => state.go holder

/-- The subscriptions there are: held outside, owned by a listener that is registered, lingers or is
to be pushed, or about to be dropped. -/
def subscriptions (state : Guarded) : List Nat :=
  state.held ++ state.threads.flatMap (·.flatMap Duty.subscriptions) ++
    (state.notifier.registrations ++ state.lingering).flatMap Registration.owned

end Guarded

end CredentialWatch
