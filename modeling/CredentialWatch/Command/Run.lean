import CredentialWatch.Command.Arguments
import CredentialWatch.Configuration.Pair
import CredentialWatch.Event.Change
import CredentialWatch.Settings.Load

/-!
# Running a command

Inspecting describes the stores that settings name, without watching them. Watching loads them,
names the files that are watched, and from then on reports each change and loads anew; a load that
fails is reported and leaves the stores as they were.
-/
namespace CredentialWatch

inductive CommandError where
  | settings (error : SettingsError)
  | store (error : LoadError)
  | watch (failure : Watch.Failure)
  | nothingToWatch (path : String)
  deriving DecidableEq, Repr

namespace CommandError

def message : CommandError → String
  | settings error => "Settings error: " ++ error.message
  | store error => "Store error: " ++ error.message
  | watch failure => "Watch error: " ++ failure.message
  | nothingToWatch path => s!"Invalid arguments: no watchable store file in {path}"

end CommandError

/-- The description of stores that were loaded from some settings. -/
def StorePair.report (pair : StorePair) (settingsPath : String) (json : Bool) : String :=
  let summaries := pair.stores.map StoreConfiguration.summary
  if json then Report.jsonText summaries
  else if summaries.isEmpty then s!"No stores configured in {settingsPath}"
  else String.intercalate "\n\n" (summaries.map Report.StoreSummary.text)

/-- Describe the stores that settings name. -/
def inspect (world : World) (settingsPath : String) (json : Bool) :
    Except CommandError String := do
  let settings ← (Settings.load world.files settingsPath).mapError .settings
  let loader : Loader := ⟨settings.loading.timeout⟩
  let pair ← (StorePair.ofSettings world 0 loader settings 0 none).1.mapError .store
  return pair.report settingsPath json

/-- What a running watch prints: a line of its output, or of its errors. -/
inductive Printed where
  | out (line : String)
  | err (line : String)
  deriving DecidableEq, Repr

/-- A running watch: the settings it began with, the stores as last loaded, the service that watches
their files, and the number for the next password provider. -/
structure Following where
  settings : Settings
  stores : StorePair
  service? : Option Watch.Service
  nextProvider : Nat

namespace Following

/-- Load the stores that settings name and watch their files; there must be one that can be watched.
The second part is the service as this leaves it. -/
def openOn (platform : StoreRole → Watch.Platform) (settings : Settings) (world : World)
    (now : Nat) (settingsPath : String) :
    Except CommandError Following × Option Watch.Service :=
  let context := StoreContext.ofSettings settings
  match StorePair.ofSettingsOn platform world now context.loader settings 0 context.service? with
  | (.error error, service?) => (.error (.store error), service?)
  | (.ok stores, service?) =>
    if stores.watchedPlaces.isEmpty then
      (.error (.nothingToWatch settingsPath), stores.release service?)
    else (.ok ⟨settings, stores, service?, 2⟩, service?)

/-- Begin to watch the files of the stores that the settings at a path name. -/
def start (world : World) (now : Nat) (settingsPath : String) :
    Except CommandError Following := do
  let settings ← (Settings.load world.files settingsPath).mapError .settings
  (openOn (fun _ => .willing) settings world now settingsPath).1

/-- The lines that say what is watched. -/
def announcement (following : Following) : List String :=
  (following.stores.watchedPlaces.map fun place => s!"Watching '{place.path}'...") ++
    ["Press Ctrl+C to stop"]

/-- Load the stores once more. -/
def loadOn (platform : StoreRole → Watch.Platform) (world : World) (now : Nat)
    (following : Following) : Except LoadError StorePair × Option Watch.Service :=
  StorePair.ofSettingsOn platform world now ⟨following.settings.loading.timeout⟩
    following.settings following.nextProvider following.service?

/-- Go on with what a load came to. The new stores have joined the watches before the old ones are
released; a failure leaves the stores as they were. -/
def resume (following : Following) :
    Except LoadError StorePair × Option Watch.Service → Following
  | (.error _, service?) =>
    { following with service?, nextProvider := following.nextProvider + 2 }
  | (.ok stores, service?) =>
    { following with
      stores
      service? := following.stores.release service?
      nextProvider := following.nextProvider + 2 }

/-- What is printed for a change: its line, and the line of the error if the reload failed. -/
def report (event : ChangeEvent) : Except LoadError StorePair → List Printed
  | .ok _ => [.out event.line]
  | .error error =>
    [.out event.line, .err (Style.failure.paint (CommandError.store error).message)]

/-- Take up a change: report it and load the stores anew. -/
def handleOn (platform : StoreRole → Watch.Platform) (world : World) (now : Nat)
    (event : ChangeEvent) (following : Following) : List Printed × Following :=
  let loaded := following.loadOn platform world now
  (report event loaded.1, following.resume loaded)

/-- End the watch. -/
def stop (following : Following) : Option Watch.Service :=
  following.stores.release following.service?

end Following

/-- The last line of a watch. -/
def farewell : String := "Watch ended"

end CredentialWatch
