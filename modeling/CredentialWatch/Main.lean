import CredentialWatch.Command.Program
import Std.Internal.UV.Signal
import Std.Time.DateTime.Timestamp

/-!
# The program

A command works on a tree of files; here the tree is filled with what it may look at: the settings
file, the stores and password files that settings name, and the log. A watch looks again and again.
It takes a file as changed when its bytes have changed, and ends at an interrupt.
-/
namespace CredentialWatch.Host

/-- The refusal that a failure of the system is. -/
def refusal : IO.Error → SystemError
  | .noFileOrDirectory _ _ _ => .notFound
  | .permissionDenied _ _ _ => .accessDenied
  | .resourceBusy _ _ => .busy
  | .alreadyExists _ _ _ => .alreadyExists
  | .inappropriateType _ number _ => if number = 21 then .isDirectory else .notDirectory
  | .invalidArgument _ number _ =>
    if number = 36 then .nameTooLong else if number = 40 then .loop else .invalid
  | _ => .invalid

/-- Whether a task ends before so many hundredths of a second have passed. -/
def endsWithin {α : Type} (task : Task α) : Nat → IO Bool
  | 0 => IO.hasFinished task
  | turns + 1 => do
    if ← IO.hasFinished task then return true
    IO.sleep 10
    endsWithin task turns

/-- What stands at a path without links. What cannot be read in time counts as a pipe. -/
def nodeAt (limit : Duration) (path : String) : IO Node := do
  let reading ← IO.asTask (IO.FS.readBinFile path)
  if ← endsWithin reading (limit.millis / 10 + 1) then
    match reading.get with
    | .ok bytes => return .file bytes.toList
    | .error error =>
      let refused := refusal error
      return if refused = .isDirectory then .directory else .unreadable refused
  else return .pipe

/-- The place that a path really leads to. -/
def realPlace (path : String) : IO (Except SystemError Place) := do
  try
    let real ← IO.FS.realPath path
    return .ok ((Path.split real.toString).filter (· != ""))
  catch error => return .error (refusal error)

/-- A tree with a node at a place and directories above it. -/
def plant (files : FileSystem) (place : Place) (node : Node) : FileSystem :=
  let parents := (List.range place.length).tail.map place.take
  (parents.foldl (fun files parent => files.put parent .directory) files).put place node

/-- A tree with what the pieces of a path lead to. -/
def capture (limit : Duration) (files : FileSystem) (here : Place) : List String → IO FileSystem
  | [] => return files
  | piece :: rest => do
    if piece = "" ∨ piece = "." then capture limit files here rest
    else if piece = ".." then capture limit files here.dropLast rest
    else
      let next := here ++ [piece]
      match ← realPlace next.path with
      | .error .notFound => return files
      | .error refused => return plant files next (.unreadable refused)
      | .ok real =>
        let files := plant files real (← nodeAt limit real.path)
        let files := if real = next then files else plant files next (.link real.path)
        capture limit files real rest

/-- The variables that a command looks at in any case. -/
def standardVariables : List String := ["HOME", "XDG_CONFIG_HOME", "XDG_STATE_HOME"]

/-- The named variables and what some paths lead to. -/
def surroundings (limit : Duration) (names paths : List String) : IO World := do
  let environment ← names.filterMapM fun name =>
    return (← IO.getEnv name).map fun value => (name, Text.Utf8.encode value)
  let directory ← IO.currentDir
  let here := (Path.split directory.toString).filter (· != "")
  let files ← paths.foldlM
    (fun files path => capture limit files (FileSystem.origin here path) (Path.split path))
    (plant ⟨[], here, []⟩ here .directory)
  return ⟨files, environment⟩

/-- The paths that a section names. -/
def sectionPaths (settings : StoreSettings) : List String :=
  let source? := settings.location?.bind fun location => (Location.resolve location).toOption
  (source?.map Source.path).toList ++ settings.passwordFile?.toList

/-- What a command may look at. -/
def survey (command : Command) (now : Nat) : IO World := do
  let bare ← surroundings CredentialStore.defaultLimit standardVariables []
  let logs := ((Settings.logPath bare).toOption.map fun directory =>
    Path.join directory (Program.logName now)).toList
  match Settings.resolvePath bare command.settings? with
  | .error _ => surroundings CredentialStore.defaultLimit standardVariables logs
  | .ok path =>
    let world ← surroundings CredentialStore.defaultLimit standardVariables (path :: logs)
    match Settings.load world.files path with
    | .error _ => return world
    | .ok settings =>
      let sections := settings.keyStore?.toList ++ settings.trustStore?.toList
      let names := sections.filterMap StoreSettings.passwordVariable?
      let paths := sections.flatMap sectionPaths
      surroundings settings.loading.timeout (standardVariables ++ names) (path :: logs ++ paths)

/-- Make the log file of a watch, where that is possible. -/
def makeLog (world : World) (now : Nat) : IO Unit := do
  if let .ok directory := Settings.logPath world then
    try
      IO.FS.createDirAll directory
      let _ ← IO.FS.Handle.mk (Path.join directory (Program.logName now)) .append
    catch _ => return

def printLines (out err : List String) : IO Unit := do
  out.forM IO.println
  err.forM IO.eprintln

/-- Milliseconds since the start of 1970. -/
def clock : IO Nat := do
  return (← Std.Time.Timestamp.now).toMillisecondsSinceUnixEpoch.val.toNat

/-- Report changes until a task has ended. -/
partial def follow {α : Type} (command : Command) (stop : Task α) (watching : Program.Watching) :
    IO Unit := do
  if ← IO.hasFinished stop then printLines [farewell] []
  else
    IO.sleep 50
    let now ← clock
    let world ← survey command now
    let changes := watching.following.stores.watchedPlaces.flatMap
      (watching.world.files.difference world.files)
    let taken := { watching with now, out := [], err := [] }.takeChanges (world.files, changes)
    let (_, watching) := taken.runTasks
    printLines watching.out watching.err
    follow command stop watching

/-- What is printed about the use of the program. -/
def usage : List String :=
  ["Usage: storewatch inspect [--json] [SETTINGS]", "       storewatch watch [SETTINGS]"]

/-- The number of the interrupt signal. -/
def interrupt : Int32 := 2

/-- Carry out a command and give its exit code. -/
def run (command : Command) : IO Nat := do
  let now ← clock
  let world ← survey command now
  if command.isLongRunning then makeLog world now
  match Program.begin world now command with
  | .ended result _ =>
    printLines result.out result.err
    return result.exitCode
  | .watching watching =>
    let stop ← (← Std.Internal.UV.Signal.mk interrupt false).next
    printLines watching.out watching.err
    follow command stop.result? watching
    return 0

end CredentialWatch.Host

def main (arguments : List String) : IO UInt32 := do
  match CredentialWatch.Command.ofArguments arguments with
  | .error error =>
    let lines := CredentialWatch.Host.usage
    if error = .help then CredentialWatch.Host.printLines lines []
    else CredentialWatch.Host.printLines [] lines
    return UInt32.ofNat error.exitCode
  | .ok command => return UInt32.ofNat (← CredentialWatch.Host.run command)
