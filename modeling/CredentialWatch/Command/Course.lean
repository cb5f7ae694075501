import CredentialWatch.Command.Run
import CredentialWatch.Configuration.Stages
import CredentialWatch.Event.Exchange
import CredentialWatch.Watch.Usage

/-!
# The course of a watch, move by move

While a watch is under way, files are written, the platform reports it to the tasks that observe
them, the tasks publish what has changed, and the program receives a change, loads the stores anew
and goes on with what the load has come to. All of this can happen in any order: a load takes one
stage at a time, a report may be underway for long, and a task may be polled whenever. The history
keeps when files were written and loads began and ended.
-/
namespace CredentialWatch

/-- What the program is doing: waiting for a change, about to load, or loading. -/
inductive Phase where
  | waiting
  | received (event : ChangeEvent)
  | loading (event : ChangeEvent) (stage : LoadStage)

/-- What is kept in the history of a watch. -/
inductive Mark where
  | written (place : Place)
  | began
  | ended (outcome : Except LoadError StorePair)

/-- A watch under way in the middle of things. -/
structure Course where
  world : World
  following : Following
  /-- The exchange that the tasks publish on, with the channel that the program receives from. -/
  exchange : Exchange
  /-- Reports of the platform that have not arrived yet, with the numbers of the watches they are
  for. -/
  underway : List (Nat × Watch.PlatformEvent)
  phase : Phase
  /-- The last mark comes first. -/
  history : List Mark
  printed : List Printed

inductive Course.Move where
  /-- A file is written or replaced, which leaves such files and makes the platform report so
  much. -/
  | write (place : Place) (files : FileSystem) (reports : List (Nat × Watch.PlatformEvent))
  /-- A report arrives, named by its position. -/
  | deliver (index : Nat)
  /-- A task does something, or is told of something else; what is published gets the time. -/
  | work (work : Watch.Work) (time : Instant)
  | receive
  | begin
  /-- The load takes its next step. -/
  | advance (platform : StoreRole → Watch.Platform) (now : Nat)
  | resume

namespace Course

/-- The channel that the program receives changes from. -/
def channel : String := "changes"

/-- A watch that has loaded its stores for the first time. -/
def start (world : World) (following : Following) : Course :=
  ⟨world, following, Exchange.empty.openChannel channel none, [], .waiting,
    [.ended (.ok following.stores), .began], following.announcement.map .out⟩

/-- The scene of the load that is under way, or of the next one. -/
def scene (course : Course) (platform : StoreRole → Watch.Platform) (now : Nat) : LoadScene :=
  ⟨platform, course.world, now, ⟨course.following.settings.loading.timeout⟩,
    course.following.settings, course.following.nextProvider⟩

def setService (course : Course) (service? : Option Watch.Service) : Course :=
  { course with following := { course.following with service? } }

/-- Let a task do something, and publish its change if that is what it does. -/
def work (course : Course) (work : Watch.Work) (time : Instant) : Course :=
  match course.following.service? with
  | none => course
  | some service =>
    let exchange := match service.published? work with
      | none => course.exchange
      | some place => (course.exchange.publish ⟨.configurationChanged, place.path, time⟩).2
    { course.setService (some (service.work work)) with exchange }

def apply (course : Course) : Move → Course
  | .write place files reports =>
    { course with
      world := { course.world with files }
      underway := course.underway ++ reports
      history := .written place :: course.history }
  | .deliver index =>
    match course.underway[index]? with
    | none => course
    | some (id, event) =>
      let service? := course.following.service?.map fun service => service.work (.report id event)
      { course.setService service? with underway := course.underway.eraseIdx index }
  | .work work time => course.work work time
  | .receive =>
    match course.phase, course.exchange.take? channel with
    | .waiting, some (event, exchange) =>
      { course with
        exchange
        phase := .received event
        printed := course.printed ++ [.out event.line] }
    | _, _ => course
  | .begin =>
    match course.phase with
    | .received event =>
      { course with
        phase := .loading event (.start course.following.settings)
        history := .began :: course.history }
    | _ => course
  | .advance platform now =>
    match course.phase with
    | .loading event stage =>
      let (stage, service?) := stage.step (course.scene platform now) course.following.service?
      { course.setService service? with phase := .loading event stage }
    | _ => course
  | .resume =>
    match course.phase with
    | .loading event (.ended outcome) =>
      { course with
        following := course.following.resume (outcome, course.following.service?)
        phase := .waiting
        history := .ended outcome :: course.history
        printed := course.printed ++ (Following.report event outcome).drop 1 }
    | _ => course

def run (course : Course) (moves : List Move) : Course :=
  moves.foldl apply course

end Course

end CredentialWatch
