import CredentialWatch.Report.Summary
import CredentialWatch.Settings.Basic
import CredentialWatch.Store.Load

/-!
# Store configurations

A configuration is a loaded store with what it was loaded by: its role, location, type and password
provider, and a handle on the watch of its file. Two configurations are equal if their roles, the
paths of their sources, their types and their providers are; what they hold does not count.
-/
namespace CredentialWatch

inductive StoreRole where
  | keyStore
  | trustStore
  deriving DecidableEq, Repr

namespace StoreRole

def name : StoreRole → String
  | keyStore => "key store"
  | trustStore => "trust store"

def tag : StoreRole → String
  | keyStore => "KeyStore"
  | trustStore => "TrustStore"

end StoreRole

structure StoreConfiguration where
  role : StoreRole
  location? : Option String
  source? : Option Source
  storeType : String
  provider : PasswordProvider
  store : CredentialStore
  watch? : Option Watch.Handle

namespace StoreConfiguration

/-- What two configurations are compared by. -/
structure Identity where
  role : StoreRole
  source? : Option (List Component)
  storeType : String
  provider : Nat
  deriving DecidableEq, Repr

def identity (configuration : StoreConfiguration) : Identity :=
  ⟨configuration.role, configuration.source?.map fun source => Path.components source.path,
    configuration.storeType, configuration.provider.identity⟩

/-- Whether two configurations are equal. -/
def same (left right : StoreConfiguration) : Bool :=
  left.identity == right.identity

/-- Load a store for a role. The password is asked for before anything else. -/
def loadOn (platform : Watch.Platform) (world : World) (now : Nat) (loader : Loader)
    (role : StoreRole) (location? : Option String) (provider : PasswordProvider)
    (storeType? : Option String) (service? : Option Watch.Service) :
    Except LoadError StoreConfiguration × Option Watch.Service :=
  let storeType := storeType?.getD StoreFormat.defaultName
  match provider.source.password world with
  | .error cause => (.error ⟨location?, cause⟩, service?)
  | .ok password =>
    match loader.loadOn platform world.files now location? password storeType service? with
    | (.error error, service?) => (.error error, service?)
    | (.ok loaded, service?) =>
      let source? := location?.bind fun location => (Location.resolve location).toOption
      (.ok ⟨role, location?, source?, storeType, provider, loaded.store, loaded.watch?⟩, service?)

/-- Load a store for a role, on a platform that observes every directory. -/
def load : World → Nat → Loader → StoreRole → Option String → PasswordProvider → Option String →
    Option Watch.Service → Except LoadError StoreConfiguration × Option Watch.Service :=
  loadOn .willing

/-- Load the store that a section of settings names; `identity` is that of the new provider. -/
def ofSettings (platform : Watch.Platform) (world : World) (now : Nat) (loader : Loader)
    (role : StoreRole) (settings : StoreSettings) (identity : Nat)
    (service? : Option Watch.Service) :
    Except LoadError StoreConfiguration × Option Watch.Service :=
  match settings.passwordSource with
  | .error cause => (.error ⟨settings.location?, cause⟩, service?)
  | .ok source =>
    loadOn platform world now loader role settings.location? ⟨identity, source⟩
      settings.storeType? service?

/-- The path of the watched file, if the store is watched. -/
def watchedPath? (configuration : StoreConfiguration) : Option String :=
  configuration.watch?.map (·.place.path)

/-- The state of the watch; a store that is not watched is idle. -/
def watchState (service? : Option Watch.Service) (configuration : StoreConfiguration) :
    Watch.State :=
  match configuration.watch?, service? with
  | some handle, some service => service.handleState handle
  | _, _ => .idle

/-- Release the handle on the watch. -/
def stopWatching (configuration : StoreConfiguration) (service? : Option Watch.Service) :
    StoreConfiguration × Option Watch.Service :=
  match configuration.watch?, service? with
  | some handle, some service =>
    let (handle, service) := service.release handle
    ({ configuration with watch? := some handle }, some service)
  | _, service? => (configuration, service?)

def summary (configuration : StoreConfiguration) : Report.StoreSummary :=
  ⟨configuration.role.name, configuration.location?, configuration.storeType,
    configuration.watchedPath?,
    configuration.store.credentials.map Report.EntrySummary.ofCredential⟩

/-- A configuration's text, without passwords, keys and certificates. -/
def shown (service? : Option Watch.Service) (configuration : StoreConfiguration) : String :=
  let watch :=
    match configuration.watch?, service? with
    | some handle, some service => some (service.shownHandle handle)
    | _, _ => none
  Text.Quoted.record "StoreConfiguration"
    [("role", configuration.role.tag),
      ("location", Text.Quoted.optional (configuration.location?.map Text.Quoted.quote)),
      ("store_type", Text.Quoted.quote configuration.storeType),
      ("password_provider", configuration.provider.source.shown),
      ("entries", toString configuration.store.credentials.length),
      ("watch", Text.Quoted.optional watch)]

end StoreConfiguration

end CredentialWatch
