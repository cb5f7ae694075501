import CredentialWatch.Command.Run
import CredentialWatch.Watch.Usage

/-!
# The course of a watch

A watch under way takes up one change after the other, and in between the tasks of its service are
at work. Whatever surrounds a reload may have changed since the one before: files, variables, the
clock, and what the platform lets it observe. The chronicle keeps what the reloads came to and what
was printed.
-/
namespace CredentialWatch

/-- What a watch under way meets. -/
inductive Incident where
  | change (platform : StoreRole → Watch.Platform) (world : World) (now : Nat) (event : ChangeEvent)
  | work (work : Watch.Work)

/-- The change that is taken up, if it is one. -/
def Incident.event? : Incident → Option ChangeEvent
  | change _ _ _ event => some event
  | work _ => none

structure Chronicle where
  following : Following
  /-- What the reloads came to, oldest first. -/
  reloads : List (Except LoadError StorePair)
  printed : List Printed

namespace Chronicle

/-- The chronicle of a watch that has just said that it can be stopped. -/
def start (following : Following) : Chronicle :=
  ⟨following, [], following.announcement.map .out⟩

def meet (chronicle : Chronicle) : Incident → Chronicle
  | .change platform world now event =>
    let (printed, following) := chronicle.following.handleOn platform world now event
    { following
      reloads := chronicle.reloads ++ [(chronicle.following.loadOn platform world now).1]
      printed := chronicle.printed ++ printed }
  | .work work =>
    let service? := chronicle.following.service?.map fun service => service.work work
    { chronicle with following := { chronicle.following with service? } }

def run (chronicle : Chronicle) (past : List Incident) : Chronicle :=
  past.foldl meet chronicle

end Chronicle

end CredentialWatch
