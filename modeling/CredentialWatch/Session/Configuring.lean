import CredentialWatch.Session.Watching

/-!
# Configurations in a session

Configurations are loaded with the context of the session, its time limit and its watcher. A new
context does not change what older configurations are watched with.
-/
namespace CredentialWatch.Session.State

/-- Register a password source as a provider of its own. -/
def addProvider (state : State) (name : String) (source : PasswordSource) : State :=
  { state with
    providers := put state.providers name ⟨state.nextProvider, source⟩
    nextProvider := state.nextProvider + 1 }

/-- Load from now on as settings say. Watching needs a runtime. -/
def setContext (state : State) (settings : Settings) (hasRuntime : Bool) :
    Except Watch.Failure State :=
  let context := StoreContext.ofSettings settings
  match context.service? with
  | none => .ok { state with loader := context.loader, watcher? := none }
  | some service =>
    if hasRuntime then
      .ok { state with
        loader := context.loader
        watcher? := some state.services.length
        services := state.services ++ [service] }
    else .error .noRuntime

def shownContext (state : State) : String :=
  let watcher := (state.service? state.watcher?).map Watch.Service.shown
  let loader := Text.Quoted.record "StoreLoader"
    [("watcher", Text.Quoted.optional watcher), ("timeout", state.loader.limit.text)]
  Text.Quoted.record "StoreContext"
    [("notifier", state.exchange.notifier.shown), ("loader", loader)]

/-- Release the watch of a configuration. -/
def releaseConfiguration (state : State) (held : HeldConfiguration) :
    HeldConfiguration × State :=
  let (configuration, service?) := held.configuration.stopWatching (state.service? held.service?)
  ({ held with configuration }, state.setService held.service? service?)

/-- Drop the configuration of a name. -/
def discard (state : State) (name : String) : State :=
  match state.configurations.lookup name with
  | none => state
  | some held =>
    let (_, later) := state.releaseConfiguration held
    { later with configurations := remove later.configurations name }

/-- Keep a configuration under a name. An older one of that name is dropped. -/
def keepConfiguration (state : State) (name : String) (configuration : StoreConfiguration) :
    State :=
  let later := state.discard name
  { later with
    configurations := put later.configurations name ⟨later.watcher?, configuration⟩ }

/-- Load a configuration; it is not kept yet. -/
def configure (state : State) (role : StoreRole) (location? : Option String)
    (provider : PasswordProvider) (storeType? : Option String) :
    Except LoadError StoreConfiguration × State :=
  let (result, service?) := StoreConfiguration.load state.world state.now state.loader role
    location? provider storeType? (state.service? state.watcher?)
  (result, state.setService state.watcher? service?)

/-- Load the pair of stores that settings name; it is not kept yet. -/
def configurePair (state : State) (settings : Settings) : Except LoadError StorePair × State :=
  let (result, service?) := StorePair.ofSettings state.world state.now state.loader settings
    state.nextProvider (state.service? state.watcher?)
  let later := state.setService state.watcher? service?
  (result, { later with nextProvider := later.nextProvider + 2 })

/-- Keep or drop what stands under a name. -/
def keepOrDiscard (state : State) (name : String) (configuration? : Option StoreConfiguration) :
    State :=
  match configuration? with
  | some configuration => state.keepConfiguration name configuration
  | none => state.discard name

/-- Keep both stores of a pair under names derived from one. -/
def keepPair (state : State) (name : String) (pair : StorePair) : State :=
  (state.keepOrDiscard (name ++ ".key") pair.keyStore?).keepOrDiscard (name ++ ".trust")
    pair.trustStore?

/-- Stop watching the file of a configuration, which is kept. -/
def unwatch (state : State) (name : String) (held : HeldConfiguration) : State :=
  let (held, later) := state.releaseConfiguration held
  { later with configurations := later.configurations.map fun (other, old) =>
      if other = name then (other, held) else (other, old) }

/-- For each configuration the place of the first one that equals it. -/
def firstEqual (configurations : List StoreConfiguration) : List (Option Nat) :=
  configurations.map fun configuration => configurations.findIdx? configuration.same

/-- The number of configurations that differ. -/
def distinct (configurations : List StoreConfiguration) : Nat :=
  (configurations.map StoreConfiguration.identity).eraseDups.length

end CredentialWatch.Session.State
