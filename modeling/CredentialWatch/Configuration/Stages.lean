import CredentialWatch.Configuration.Pair

/-!
# Loads in stages

The load of a pair of stores takes its time, and between its stages other things can happen. For
each store that settings name, first the password is asked for, then the file is read, then it is
watched; the key store goes first. Where the trust store fails, the watch of the key store is
released in a stage of its own.
-/
namespace CredentialWatch

/-- What one step of a load finds: what surrounds it, and what is to be loaded and how. The password
providers get the numbers from `identity` on. -/
structure LoadScene where
  platform : StoreRole → Watch.Platform
  world : World
  now : Nat
  loader : Loader
  settings : Settings
  identity : Nat

/-- The number of the provider for a role. -/
def LoadScene.provider (scene : LoadScene) : StoreRole → Nat
  | .keyStore => scene.identity
  | .trustStore => scene.identity + 1

/-- How far the load of one store has come. -/
inductive StoreStage where
  /-- Nothing is left to do. -/
  | settled (store? : Option StoreConfiguration)
  | named (settings : StoreSettings)
  | unlocked (settings : StoreSettings) (provider : PasswordSource) (password : Secret)
  | opened (settings : StoreSettings) (provider : PasswordSource) (store : CredentialStore)
      (source? : Option Source)

namespace StoreStage

/-- The first stage of the load of a section. -/
def ofSection : Option StoreSettings → StoreStage
  | none => settled none
  | some settings => named settings

/-- How many steps are left. -/
def left : StoreStage → Nat
  | settled _ => 0
  | opened .. => 1
  | unlocked .. => 2
  | named _ => 3

/-- One step: what it comes to, and the service afterwards. -/
def step (scene : LoadScene) (role : StoreRole) (service? : Option Watch.Service) :
    StoreStage → Except LoadError StoreStage × Option Watch.Service
  | settled store? => (.ok (settled store?), service?)
  | named settings =>
    match settings.passwordSource with
    | .error cause => (.error ⟨settings.location?, cause⟩, service?)
    | .ok provider =>
      match provider.password scene.world with
      | .error cause => (.error ⟨settings.location?, cause⟩, service?)
      | .ok password => (.ok (unlocked settings provider password), service?)
  | unlocked settings provider password =>
    match CredentialStore.read scene.world.files scene.loader.limit settings.location? password
        (settings.storeType?.getD StoreFormat.defaultName) with
    | .error cause => (.error ⟨settings.location?, cause⟩, service?)
    | .ok (store, source?) => (.ok (opened settings provider store source?), service?)
  | opened settings provider store source? =>
    let (watch?, service?) := Loader.startWatch (scene.platform role) scene.world.files scene.now
      source? service?
    let resolved? := settings.location?.bind fun location => (Location.resolve location).toOption
    (.ok (settled (some ⟨role, settings.location?, resolved?,
      settings.storeType?.getD StoreFormat.defaultName, ⟨scene.provider role, provider⟩, store,
      watch?⟩)), service?)

end StoreStage

/-- How far the load of a pair of stores has come. -/
inductive LoadStage where
  | keyStore (stage : StoreStage)
  | trustStore (keyStore? : Option StoreConfiguration) (stage : StoreStage)
  /-- The trust store has failed, and the key store is still watched. -/
  | failed (keyStore? : Option StoreConfiguration) (error : LoadError)
  | ended (outcome : Except LoadError StorePair)

namespace LoadStage

/-- The first stage of the load of the stores that settings name. -/
def start (settings : Settings) : LoadStage :=
  keyStore (.ofSection settings.keyStore?)

/-- How many steps are left at most. -/
def left : LoadStage → Nat
  | keyStore stage => stage.left + 6
  | trustStore _ stage => stage.left + 2
  | failed .. => 1
  | ended _ => 0

/-- One step: the next stage, and the service afterwards. -/
def step (scene : LoadScene) (service? : Option Watch.Service) :
    LoadStage → LoadStage × Option Watch.Service
  | keyStore (.settled store?) =>
    (trustStore store? (.ofSection scene.settings.trustStore?), service?)
  | keyStore stage =>
    match stage.step scene .keyStore service? with
    | (.error error, service?) => (ended (.error error), service?)
    | (.ok next, service?) => (keyStore next, service?)
  | trustStore keyStore? (.settled store?) => (ended (.ok ⟨keyStore?, store?⟩), service?)
  | trustStore keyStore? stage =>
    match stage.step scene .trustStore service? with
    | (.error error, service?) => (failed keyStore? error, service?)
    | (.ok next, service?) => (trustStore keyStore? next, service?)
  | failed keyStore? error => (ended (.error error), StorePair.release ⟨keyStore?, none⟩ service?)
  | ended outcome => (ended outcome, service?)

end LoadStage

end CredentialWatch
