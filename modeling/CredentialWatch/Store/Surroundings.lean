import CredentialWatch.Store.Load
import CredentialWatch.Watch.Usage

/-!
# Loads that are disturbed

A load reads the whole file, then follows its path to the place of the file, and then starts the
watch of this place. Before, between and after these steps others change files, of which the tasks
that observe their directories are told at once, and tasks do what they have to do.
-/
namespace CredentialWatch

/-- What others do to files. A directory with something below it is not renamed. -/
inductive FileOperation where
  | write (path : String) (content : Bytes)
  | make (path : String) (node : Node)
  | rename (path newPath : String)
  | remove (path : String)

/-- The tree after an operation, and what happened. -/
def FileOperation.perform (files : FileSystem) : FileOperation → Except IoError FileSystem.Changed
  | write path content => files.write path content
  | make path node => files.make path node
  | rename path newPath => do
    let .found source _ ← files.locate false path | throw (.system .notFound)
    if ¬ files.isEmptyDirectory source then throw (.system .notEmpty)
    files.rename path newPath
  | remove path => files.remove path

/-- What happens beside a load. -/
inductive Disturbance where
  | operation (operation : FileOperation)
  | work (work : Watch.Work)

/-- What a load meets: the files, a watch service, and the files of which its tasks have published a
change, oldest first. -/
structure Surroundings where
  files : FileSystem
  service : Watch.Service
  published : List Place

namespace Surroundings

/-- An operation that fails leaves everything as it is. -/
def apply (surroundings : Surroundings) : Disturbance → Surroundings
  | .operation operation =>
    match operation.perform surroundings.files with
    | .error _ => surroundings
    | .ok (files, changes) =>
      { surroundings with files, service := surroundings.service.observe changes }
  | .work work =>
    { surroundings with
      service := surroundings.service.work work
      published := surroundings.published ++ (surroundings.service.published? work).toList }

def run (surroundings : Surroundings) (disturbances : List Disturbance) : Surroundings :=
  disturbances.foldl apply surroundings

end Surroundings

/-- Load a store and start to watch its file, while some things happen after the file was read and
others after its path was followed. -/
def Loader.loadAmid (loader : Loader) (platform : Watch.Platform) (now : Nat)
    (location? : Option String) (password : Secret) (storeType : String)
    (afterRead afterFollow : List Disturbance) (before : Surroundings) :
    Except LoadError LoadedStore × Surroundings :=
  match CredentialStore.read before.files loader.limit location? password storeType with
  | .error cause => (.error ⟨location?, cause⟩, before)
  | .ok (store, source?) =>
    let read := before.run afterRead
    let followed := read.run afterFollow
    let (watch?, service?) := startWatch platform read.files now source? (some followed.service)
    (.ok ⟨store, watch?⟩, { followed with service := service?.getD followed.service })

/-- A load that nothing disturbs is one that takes all its steps at once. -/
theorem Loader.loadAmid_undisturbed (loader : Loader) (platform : Watch.Platform) (now : Nat)
    (location? : Option String) (password : Secret) (storeType : String) (before : Surroundings) :
    loader.loadAmid platform now location? password storeType [] [] before =
      let (loaded, service?) := loader.loadOn platform before.files now location? password storeType
        (some before.service)
      (loaded, { before with service := service?.getD before.service }) := by
  unfold loadAmid loadOn
  cases CredentialStore.read before.files loader.limit location? password storeType <;> rfl

end CredentialWatch
