import CredentialWatch.Event.Change
import CredentialWatch.Path

/-!
# Registrations of listeners

A notifier keeps registrations in the order in which they were made, each under a number of its own.
A registration may own subscriptions that were made before it; dropping it is to drop them too,
whatever that takes of the threads that share the notifier. What a listener does is not known here.
-/
namespace CredentialWatch

structure Registration (Listener : Type) where
  id : Nat
  type : EventType
  /-- The only path that is listened for, or every path. -/
  source? : Option String
  listener : Listener
  /-- The registrations whose subscriptions end with this one. -/
  owned : List Nat

/-- Whether a registration is for an event: same type, and same path if it names one. -/
def Registration.accepts {Listener : Type} (registration : Registration Listener)
    (event : ChangeEvent) : Bool :=
  registration.type == event.type && registration.source?.all (Path.same · event.path)

structure Notifier (Listener : Type) where
  registrations : List (Registration Listener)
  nextId : Nat

namespace Notifier

variable {Listener : Type}

def empty : Notifier Listener := ⟨[], 0⟩

/-- The number of registrations. -/
def count (notifier : Notifier Listener) : Nat :=
  notifier.registrations.length

/-- Take the next number for a registration. -/
def allocate (notifier : Notifier Listener) : Nat × Notifier Listener :=
  (notifier.nextId, { notifier with nextId := notifier.nextId + 1 })

/-- Add a registration behind all others. -/
def push (notifier : Notifier Listener) (registration : Registration Listener) :
    Notifier Listener :=
  { notifier with registrations := notifier.registrations ++ [registration] }

/-- Register a listener under the next number. -/
def register (notifier : Notifier Listener) (type : EventType) (source? : Option String)
    (listener : Listener) (owned : List Nat) : Nat × Notifier Listener :=
  let (id, notifier) := notifier.allocate
  (id, notifier.push ⟨id, type, source?, listener, owned⟩)

/-- Remove the registration with a number. -/
def remove (notifier : Notifier Listener) (id : Nat) : Notifier Listener :=
  { notifier with registrations := notifier.registrations.filter (·.id != id) }

/-- The registration with a number. -/
def find? (notifier : Notifier Listener) (id : Nat) : Option (Registration Listener) :=
  notifier.registrations.find? (·.id == id)

theorem count_remove_lt {notifier : Notifier Listener} {id : Nat}
    {registration : Registration Listener} (h : notifier.find? id = some registration) :
    (notifier.remove id).count < notifier.count := by
  simp only [count, remove]
  apply List.length_filter_lt_length_iff_exists.2
  refine ⟨registration, List.mem_of_find?_eq_some h, ?_⟩
  have := List.find?_some h
  simp_all

/-- Drop subscriptions by their numbers, and with each one those that its registration owns. -/
def drop (notifier : Notifier Listener) : List Nat → Notifier Listener
  | [] => notifier
  | id :: rest =>
    match _found : notifier.find? id with
    | none => drop notifier rest
    | some registration => drop (notifier.remove id) (registration.owned ++ rest)
termination_by ids => (notifier.count, ids.length)
decreasing_by
  · simp [Prod.lex_def]
  · simp [Prod.lex_def, count_remove_lt _found]

/-- The listeners that an event reaches, in the order of their registration. -/
def audience (notifier : Notifier Listener) (event : ChangeEvent) : List Listener :=
  (notifier.registrations.filter (·.accepts event)).map Registration.listener

def shown (notifier : Notifier Listener) : String :=
  Text.Quoted.record "ChangeNotifier" [("listeners", toString notifier.count)]

end Notifier

end CredentialWatch
