import CredentialWatch.Event.Notifier

/-!
# Delivery to listeners that act

An exchange is a notifier whose listeners append to a log and act: they subscribe others, drop
subscriptions that the exchange holds by name, publish again, or break off. The audience of a
publication is settled when it begins. Nested publications go a limited number of levels deep;
beyond that the act does nothing. A channel is a listener that keeps events for a receiver.
-/
namespace CredentialWatch

/-- What a listener does when it is called. -/
inductive Act where
  | breakOff
  | unsubscribe (name : String)
  | subscribe (name : String) (source? : Option String) (acts : List Act)
  | publish (path : String)

inductive Listener where
  | script (name : String) (acts : List Act)
  | channel (number : Nat)

/-- The events that a channel keeps for its receiver. -/
structure Receiver where
  number : Nat
  events : List ChangeEvent

structure Exchange where
  notifier : Notifier Listener
  /-- Subscriptions held by name. -/
  held : List (String × Nat)
  /-- Receivers held by name. -/
  receivers : List (String × Receiver)
  nextChannel : Nat
  log : List String

namespace Exchange

def empty : Exchange := ⟨Notifier.empty, [], [], 0, []⟩

/-- The subscription held by a name. -/
def subscription? (exchange : Exchange) (name : String) : Option Nat :=
  exchange.held.lookup name

/-- Drop the subscription held by a name. -/
def unsubscribe (exchange : Exchange) (name : String) : Exchange :=
  match exchange.subscription? name with
  | none => exchange
  | some id =>
    { exchange with
      notifier := exchange.notifier.drop [id]
      held := exchange.held.filter (·.1 != name) }

/-- Register a listener and hold its subscription by a name; an older one of that name is dropped
afterwards. -/
def hold (exchange : Exchange) (name : String) (source? : Option String) (listener : Listener) :
    Exchange :=
  let (id, notifier) :=
    exchange.notifier.register .configurationChanged source? listener []
  let later := { exchange with notifier }.unsubscribe name
  { later with held := later.held ++ [(name, id)] }

def subscribe (exchange : Exchange) (name : String) (source? : Option String)
    (acts : List Act) : Exchange :=
  exchange.hold name source? (.script name acts)

/-- Open a channel and hold both its ends by a name. -/
def openChannel (exchange : Exchange) (name : String) (source? : Option String) : Exchange :=
  let number := exchange.nextChannel
  let later := { exchange with nextChannel := number + 1 }.hold name source? (.channel number)
  { later with
    receivers := later.receivers.filter (·.1 != name) ++ [(name, ⟨number, []⟩)] }

def receiver? (exchange : Exchange) (name : String) : Option Receiver :=
  exchange.receivers.lookup name

/-- Drop the receiver held by a name; its subscription stays. -/
def closeReceiver (exchange : Exchange) (name : String) : Exchange :=
  { exchange with receivers := exchange.receivers.filter (·.1 != name) }

/-- Whether a registered listener can still send to a receiver. -/
def isConnected (exchange : Exchange) (receiver : Receiver) : Bool :=
  exchange.notifier.registrations.any fun registration =>
    match registration.listener with
    | .channel number => number == receiver.number
    | .script _ _ => false

/-- Take the events that a receiver has. -/
def drain (exchange : Exchange) (name : String) : Exchange :=
  { exchange with
    receivers := exchange.receivers.map fun (other, receiver) =>
      if other = name then (other, { receiver with events := [] }) else (other, receiver) }

/-- Take the oldest event that a receiver has, if it has any. -/
def take? (exchange : Exchange) (name : String) : Option (ChangeEvent × Exchange) :=
  match exchange.receiver? name with
  | some ⟨_, event :: rest⟩ =>
    some (event,
      { exchange with
        receivers := exchange.receivers.map fun (other, receiver) =>
          if other = name then (other, { receiver with events := rest }) else (other, receiver) })
  | _ => none

/-- Keep an event for the receiver of a channel, if it is still there. -/
def send (exchange : Exchange) (number : Nat) (event : ChangeEvent) : Exchange :=
  { exchange with
    receivers := exchange.receivers.map fun (name, receiver) =>
      if receiver.number = number then
        (name, { receiver with events := receiver.events ++ [event] })
      else (name, receiver) }

def append (exchange : Exchange) (line : String) : Exchange :=
  { exchange with log := exchange.log ++ [line] }

/-- Take the log. -/
def takeLog (exchange : Exchange) : List String × Exchange :=
  (exchange.log, { exchange with log := [] })

/-- How many publications may be nested in one another. -/
def nestingLimit : Nat := 3

/-- Perform acts in order; `publish` is what publishing again does, if it is still allowed. The
result says whether the listener came to its end. -/
def perform (publish? : Option (Exchange → ChangeEvent → Nat × Exchange)) (time : Instant) :
    List Act → Exchange → Bool × Exchange
  | [], exchange => (true, exchange)
  | .breakOff :: _, exchange => (false, exchange)
  | .unsubscribe name :: rest, exchange =>
    perform publish? time rest (exchange.unsubscribe name)
  | .subscribe name source? acts :: rest, exchange =>
    perform publish? time rest (exchange.subscribe name source? acts)
  | .publish path :: rest, exchange =>
    match publish? with
    | none => perform publish? time rest exchange
    | some publish =>
      let (delivered, later) := publish exchange ⟨.configurationChanged, path, time⟩
      perform publish? time rest (later.append s!"nested {path} {delivered}")

/-- Call a listener. -/
def call (publish? : Option (Exchange → ChangeEvent → Nat × Exchange)) (event : ChangeEvent)
    (exchange : Exchange) : Listener → Bool × Exchange
  | .script name acts =>
    perform publish? event.time acts (exchange.append s!"{name} {event.path}")
  | .channel number => (true, exchange.send number event)

/-- Call listeners one after the other and count those that came to their end. -/
def callAll (publish? : Option (Exchange → ChangeEvent → Nat × Exchange)) (event : ChangeEvent) :
    List Listener → Exchange → Nat × Exchange
  | [], exchange => (0, exchange)
  | listener :: rest, exchange =>
    let (completed, later) := call publish? event exchange listener
    let (delivered, last) := callAll publish? event rest later
    (if completed then delivered + 1 else delivered, last)

/-- Publish an event with some levels of nesting left: the number of listeners that came to their
end, and the exchange afterwards. -/
def publishNested : Nat → Exchange → ChangeEvent → Nat × Exchange
  | 0, exchange, event => callAll none event (exchange.notifier.audience event) exchange
  | levels + 1, exchange, event =>
    callAll (some (publishNested levels)) event (exchange.notifier.audience event) exchange

/-- Publish an event. -/
def publish (exchange : Exchange) (event : ChangeEvent) : Nat × Exchange :=
  publishNested nestingLimit exchange event

end Exchange

end CredentialWatch
