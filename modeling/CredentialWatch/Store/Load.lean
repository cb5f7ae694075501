import CredentialWatch.Location
import CredentialWatch.Secret
import CredentialWatch.Store.Decode
import CredentialWatch.Watch.Service
import CredentialWatch.World

/-!
# Loading a store

A store is loaded in stages, and the first stage that fails gives the cause: the type must be known,
a location must be there if the format needs one, the location must resolve, the source must be read
in time, and its bytes must be a store. A loaded store's file is then watched, if there is a service
for it; a watch that cannot be started does not make the load fail.
-/
namespace CredentialWatch

/-- The content of a source, for which a reader is waited for until a time limit. -/
def Source.read (files : FileSystem) (source : Source) (limit : Duration) :
    Except IoError Bytes :=
  if files.endsWithin source.path limit then files.read source.path else .error (.timedOut limit)

namespace CredentialStore

/-- The time limit of a load that sets none. -/
def defaultLimit : Duration := ⟨30000⟩

/-- The store at a location and its source; without a location, an empty store. -/
def read (files : FileSystem) (limit : Duration) (location? : Option String) (password : Secret)
    (storeType : String) : Except LoadCause (CredentialStore × Option Source) := do
  let format ← StoreFormat.ofName storeType
  match location? with
  | none =>
    if format.requiresLocation then throw (.invalidConfig .locationRequired)
    return (⟨storeType, []⟩, none)
  | some location =>
    let source ← (Location.resolve location).mapError LoadCause.ofSource
    let bytes ← (source.read files limit).mapError LoadCause.ofSource
    return (⟨storeType, ← format.decode bytes password.bytes⟩, some source)

end CredentialStore

/-- A store and a handle on the watch of its file, if it is watched. -/
structure LoadedStore where
  store : CredentialStore
  watch? : Option Watch.Handle

/-- Loads stores within a time limit. -/
structure Loader where
  limit : Duration
  deriving DecidableEq, Repr

namespace Loader

/-- Watch the file of a source, if there is a service for it and it can be watched. -/
def startWatch (platform : Watch.Platform) (files : FileSystem) (now : Nat)
    (source? : Option Source) (service? : Option Watch.Service) :
    Option Watch.Handle × Option Watch.Service :=
  match source?, service? with
  | some source, some service =>
    match service.watchOn platform files source.path now with
    | .ok (handle, service) => (some handle, some service)
    | .error _ => (none, some service)
  | _, service? => (none, service?)

/-- Load a store and start to watch its file, on a platform that may refuse to observe its
directory. -/
def loadOn (loader : Loader) (platform : Watch.Platform) (files : FileSystem) (now : Nat)
    (location? : Option String) (password : Secret) (storeType : String)
    (service? : Option Watch.Service) : Except LoadError LoadedStore × Option Watch.Service :=
  match CredentialStore.read files loader.limit location? password storeType with
  | .error cause => (.error ⟨location?, cause⟩, service?)
  | .ok (store, source?) =>
    let (watch?, service?) := startWatch platform files now source? service?
    (.ok ⟨store, watch?⟩, service?)

/-- Load a store and start to watch its file. -/
def load (loader : Loader) : FileSystem → Nat → Option String → Secret → String →
    Option Watch.Service → Except LoadError LoadedStore × Option Watch.Service :=
  loader.loadOn .willing

end Loader

end CredentialWatch
