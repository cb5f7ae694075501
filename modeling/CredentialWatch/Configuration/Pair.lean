import CredentialWatch.Configuration.Basic

/-!
# The pair of stores that settings name

The key store is loaded before the trust store. If the second one fails, the watch that the first
one has started or joined is released again, so that a failure leaves no watch behind.
-/
namespace CredentialWatch

structure StorePair where
  keyStore? : Option StoreConfiguration
  trustStore? : Option StoreConfiguration

namespace StorePair

/-- The stores that are there, the key store first. -/
def stores (pair : StorePair) : List StoreConfiguration :=
  pair.keyStore?.toList ++ pair.trustStore?.toList

/-- Release the watches of the stores of a pair. -/
def release (pair : StorePair) (service? : Option Watch.Service) : Option Watch.Service :=
  pair.stores.foldl (fun service? store => (store.stopWatching service?).2) service?

/-- Load a store if settings name it. -/
def loadSection (platform : Watch.Platform) (world : World) (now : Nat) (loader : Loader)
    (role : StoreRole) (settings? : Option StoreSettings) (identity : Nat)
    (service? : Option Watch.Service) :
    Except LoadError (Option StoreConfiguration) × Option Watch.Service :=
  match settings? with
  | none => (.ok none, service?)
  | some settings =>
    match StoreConfiguration.ofSettings platform world now loader role settings identity
        service? with
    | (.ok store, service?) => (.ok (some store), service?)
    | (.error error, service?) => (.error error, service?)

/-- Load both stores that settings name; the platform may answer differently for each of them. The
password providers get the numbers from `identity` on. -/
def ofSettingsOn (platform : StoreRole → Watch.Platform) (world : World) (now : Nat)
    (loader : Loader) (settings : Settings) (identity : Nat) (service? : Option Watch.Service) :
    Except LoadError StorePair × Option Watch.Service :=
  match loadSection (platform .keyStore) world now loader .keyStore settings.keyStore? identity
      service? with
  | (.error error, service?) => (.error error, service?)
  | (.ok keyStore?, service?) =>
    match loadSection (platform .trustStore) world now loader .trustStore settings.trustStore?
        (identity + 1) service? with
    | (.error error, service?) => (.error error, release ⟨keyStore?, none⟩ service?)
    | (.ok trustStore?, service?) => (.ok ⟨keyStore?, trustStore?⟩, service?)

/-- Load both stores that settings name, on a platform that observes every directory. -/
def ofSettings : World → Nat → Loader → Settings → Nat → Option Watch.Service →
    Except LoadError StorePair × Option Watch.Service :=
  ofSettingsOn fun _ => .willing

/-- Places in ascending order without repetitions. -/
def sortedPlaces (places : List Place) : List Place :=
  (places.mergeSort Place.precedes).eraseReps

/-- The files that the stores are watched at, each once, in ascending order. -/
def watchedPlaces (pair : StorePair) : List Place :=
  sortedPlaces (pair.stores.filterMap fun store => store.watch?.map Watch.Handle.place)

end StorePair

/-- What stores are loaded with: a time limit, and a watch service if they are to be watched. -/
structure StoreContext where
  loader : Loader
  service? : Option Watch.Service

namespace StoreContext

/-- The context that settings ask for. -/
def ofSettings (settings : Settings) : StoreContext :=
  ⟨⟨settings.loading.timeout⟩,
    if settings.watch.enabled then some (Watch.Service.ofDebounce settings.watch.debounce)
    else none⟩

end StoreContext

end CredentialWatch
