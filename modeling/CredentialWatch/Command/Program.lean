import CredentialWatch.Command.Run

/-!
# Whole runs of the program

A run reads its arguments, opens its log if the command is a long one, and runs the command. A run
of a watch goes on from change to change until it is told to stop: each published change is reported
and followed by a reload. What a run prints is kept as lines.
-/
namespace CredentialWatch

/-- What a run has printed, and its exit code. -/
structure RunResult where
  exitCode : Nat
  out : List String
  err : List String
  deriving DecidableEq, Repr

/-- The lines of a printed text. -/
def printedLines (text : String) : List String :=
  go [] text.toList
where
  go : List Char → List Char → List String
    | line, [] => [String.ofList line.reverse]
    | line, char :: rest =>
      if char = '\n' then String.ofList line.reverse :: go [] rest else go (char :: line) rest

/-- The lines of the output in what is printed. -/
def Printed.outLines : Printed → List String
  | out text => printedLines text
  | err _ => []

/-- The lines of errors in what is printed. -/
def Printed.errLines : Printed → List String
  | out _ => []
  | err text => printedLines text

/-- Whether a text has nothing but white space. -/
def isWhite (text : String) : Bool :=
  text.toList.all Char.isWhitespace

namespace RunResult

/-- A run that ends with an output. -/
def ofOutput (output : String) : RunResult :=
  ⟨0, if isWhite output then [] else printedLines output, []⟩

/-- A run whose command fails. -/
def ofError (error : CommandError) : RunResult :=
  ⟨1, [], printedLines (Style.failure.paint error.message)⟩

end RunResult

namespace Program

/-- Why there is no log. -/
inductive LogError where
  | directory (error : IoError)
  | file (error : IoError)
  deriving DecidableEq, Repr

def LogError.shown : LogError → String
  | directory error => error.shown
  | file error =>
    Text.Quoted.record "InitError"
      [("context", Text.Quoted.quote "failed to create log directory"), ("source", error.shown)]

/-- The line with which a run ends that has no log. -/
def LogError.line (error : LogError) : String :=
  "Error: " ++ error.shown

/-- The name of the log file of the day of a time in milliseconds. -/
def logName (now : Nat) : String :=
  let day := Instant.dayOf (now / 86400000)
  s!"storewatch.{Instant.yearText day.year}-{Instant.padded 2 day.month}-" ++
    s!"{Instant.padded 2 day.day}.log"

/-- Open the log of the day, making its directory and file if they are not there. -/
def openLog (world : World) (now : Nat) : Except LogError FileSystem := do
  let (directory, files) ← (Settings.logDirectory world).mapError .directory
  let path := Path.join directory (logName now)
  if files.existsAt path then return files
  match files.write path [] with
  | .ok (files, _) => return files
  | .error _ => throw (.file (.system .alreadyExists))

/-- A watch under way: what surrounds it, the clock in milliseconds, and what has been printed. -/
structure Watching where
  world : World
  now : Nat
  following : Following
  out : List String
  err : List String

namespace Watching

/-- The watch as it stands when it says that it can be stopped. -/
def start (world : World) (now : Nat) (settingsPath : String) : Except CommandError Watching := do
  let following ← Following.start world now settingsPath
  return ⟨world, now, following, following.announcement, []⟩

/-- Take up what has happened to files. -/
def takeChanges (watching : Watching) (changed : FileSystem.Changed) : Watching :=
  { watching with
    world := { watching.world with files := changed.1 }
    following := { watching.following with
      service? := watching.following.service?.map fun service => service.observe changed.2 } }

/-- Report a published change and load the stores anew. -/
def handleChange (watching : Watching) (place : Place) : Watching :=
  let time := (Instant.ofMillis? watching.now).getD ⟨0, 0⟩
  let event : ChangeEvent := ⟨.configurationChanged, place.path, time⟩
  let (printed, following) :=
    watching.following.handleOn (fun _ => .willing) watching.world watching.now event
  { watching with
    following
    out := watching.out ++ printed.flatMap Printed.outLines
    err := watching.err ++ printed.flatMap Printed.errLines }

/-- Let tasks do what they can now: the changes they publish are handled in order. The number is
that of the published changes. -/
def runTasks (watching : Watching) : Nat × Watching :=
  match watching.following.service? with
  | none => (0, watching)
  | some service =>
    let (published, service) := service.settle watching.now
    let watching :=
      { watching with following := { watching.following with service? := some service } }
    (published.length, published.foldl handleChange watching)

/-- Let time pass from one due change to the next until so many changes have been handled. -/
def await : Nat → Nat → Watching → Watching
  | 0, _, watching => watching
  | steps + 1, expected, watching =>
    if expected = 0 then watching
    else
      let (handled, watching) := watching.runTasks
      match watching.following.service?.bind Watch.Service.nextDeadline? with
      | none => watching
      | some deadline =>
        await steps (expected - handled) { watching with now := max watching.now deadline }

/-- Wait for so many changes, as long as any are due. -/
def awaitChanges (watching : Watching) (expected : Nat) : Watching :=
  let tasks := (watching.following.service?.map fun service => service.tasks.length).getD 0
  await (tasks + 2) expected watching

/-- What a watch has printed when it has been told to stop. -/
def result (watching : Watching) : RunResult :=
  ⟨0, watching.out ++ [farewell], watching.err⟩

end Watching

/-- What a run comes to by itself: it ends and leaves some files, or a watch is under way. -/
inductive Outcome where
  | ended (result : RunResult) (files : FileSystem)
  | watching (watching : Watching)

/-- Begin a command at a time in milliseconds. -/
def begin (world : World) (now : Nat) (command : Command) : Outcome :=
  let settingsPath := (Settings.resolvePath world command.settings?).mapError CommandError.settings
  match command with
  | .inspect _ json =>
    match settingsPath.bind fun path => inspect world path json with
    | .ok output => .ended (.ofOutput output) world.files
    | .error error => .ended (.ofError error) world.files
  | .watch _ =>
    match openLog world now with
    | .error error => .ended ⟨1, [], [error.line]⟩ world.files
    | .ok files =>
      match settingsPath.bind fun path => Watching.start { world with files } now path with
      | .ok watching => .watching watching
      | .error error => .ended (.ofError error) files

end Program

end CredentialWatch
