import CredentialWatch.Proofs.Debounce

/-!
# Events of other files

The observer of a directory is told of the directory itself and of the names in it. A task goes by
the last name of a path alone, which for a name in the directory is as good as the whole path. Two
runs of a task whose queues differ in events that do not concern the file take the same turns but
for those that pass over such an event. Only a directory that has the file's own name is taken for
the file.
-/
namespace CredentialWatch.Watch

namespace PlatformEvent

/-- Whether one of the paths of an event is a file's own path. -/
def isOf (event : PlatformEvent) (place : Place) : Bool :=
  event.paths.contains place

/-- What the observer of a directory is told of: the directory itself, and the names in it. -/
def Within (event : PlatformEvent) (directory : Place) : Prop :=
  ∀ path ∈ event.paths, path = directory ∨ path ≠ [] ∧ path.dropLast = directory

instance (event : PlatformEvent) (directory : Place) : Decidable (event.Within directory) :=
  inferInstanceAs (Decidable (∀ path ∈ event.paths, _))

/-- Unless the directory has the file's name, a path in it that ends in the file's name is the
file's. -/
theorem isOf_of_concerns {event : PlatformEvent} {place : Place}
    (hname : place.dropLast.getLast? ≠ place.getLast?) (hwithin : event.Within place.dropLast)
    (h : event.concerns place) : event.isOf place := by
  obtain ⟨path, hpath, hnonempty, hlast⟩ :
      ∃ path ∈ event.paths, path ≠ [] ∧ path.getLast? = place.getLast? := by
    simpa [concerns] using (Bool.and_eq_true_iff.1 h).2
  suffices hplace : path = place by simpa [isOf, hplace] using hpath
  rcases hwithin path hpath with rfl | ⟨-, hdirectory⟩
  · exact absurd hlast hname
  · have hsome : path.getLast? = some (path.getLast hnonempty) :=
      List.getLast?_eq_some_getLast hnonempty
    calc path = path.dropLast ++ [path.getLast hnonempty] :=
          (List.dropLast_append_getLast hnonempty).symm
      _ = place.dropLast ++ [path.getLast hnonempty] := by rw [hdirectory]
      _ = place := List.dropLast_append_getLast? _ (hlast ▸ hsome)

end PlatformEvent

namespace Task

/-- A task that does not find events of other files in its queue. -/
def trim (task : Task) : Task :=
  { task with queue := task.queue.filter fun event? => event?.all (·.concerns task.place) }

/-- A turn either passes over an event of another file, or is that of the trimmed task as well. -/
theorem step_trim (debounce now : Nat) (task : Task) :
    ((task.step debounce now).1 = .consumed ∧ (task.step debounce now).2.trim = task.trim) ∨
      task.trim.step debounce now =
        ((task.step debounce now).1, (task.step debounce now).2.trim) := by
  have turn := task.step_turn debounce now
  generalize task.step debounce now = result at turn ⊢
  cases turn with
  | skip event rest running unrequested next irrelevant =>
    exact .inl ⟨rfl, by simp [trim, next, irrelevant]⟩
  | idle ended => exact .inr (by simp [step, trim, ended])
  | stop running requested => exact .inr (by simp [step, trim, running, requested])
  | fail rest running unrequested next =>
    exact .inr (by simp [step, trim, running, unrequested, next])
  | take event rest running unrequested next relevant =>
    exact .inr (by simp [step, trim, running, unrequested, next, relevant])
  | publish running unrequested next due =>
    exact .inr (by simp [step, trim, running, unrequested, next, due])
  | wait running unrequested next early =>
    exact .inr (by simp [step, trim, running, unrequested, next, early])

/-- A poll publishes as often as one of the trimmed task, and leaves the same behind. -/
theorem settle_trim (debounce now : Nat) (task : Task) :
    task.trim.settle debounce now =
      ((task.settle debounce now).1, (task.settle debounce now).2.trim) := by
  fun_induction task.settle debounce now with
  | case1 task hidle =>
    rcases task.step_trim debounce now with ⟨hconsumed, -⟩ | hstep
    · rw [hidle] at hconsumed
      cases hconsumed
    · exact settle_idle (by rw [hstep, hidle])
  | case2 task hturn published last hsettle ih =>
    rw [hsettle] at ih
    rcases task.step_trim debounce now with ⟨hconsumed, hsame⟩ | hstep
    · rw [← hsame, ih, hconsumed]
      rfl
    · rw [settle_turn hstep hturn, ih]
      by_cases h : (task.step debounce now).1 = .published <;> simp [h]

theorem settle_place (debounce now : Nat) (task : Task) :
    (task.settle debounce now).2.place = task.place := by
  fun_induction task.settle debounce now with
  | case1 => rfl
  | case2 task hturn published last hsettle ih =>
    rw [hsettle] at ih
    exact ih.trans (task.step_keeps debounce now).2.1

theorem foldl_receive_place (events : List PlatformEvent) (task : Task) :
    (events.foldl receive task).place = task.place := by
  induction events generalizing task with
  | nil => rfl
  | cons event rest ih => exact ih (task.receive event)

/-- What a trimmed task finds in its queue after some events. -/
theorem trim_foldl_receive (events : List PlatformEvent) (task : Task) :
    (events.foldl receive task).trim =
      (events.filter (·.concerns task.place)).foldl receive task.trim := by
  induction events generalizing task with
  | nil => rfl
  | cons event rest ih =>
    have hplace : (task.receive event).place = task.place := rfl
    rw [List.foldl_cons, ih, hplace]
    by_cases h : event.concerns task.place <;> simp [trim, receive, h]

end Task

section Streams

/-- In a sorted stream, what has arrived by some time is all that came up to it. -/
theorem takeWhile_time (now : Nat) {arrivals : List Arrival}
    (hsorted : (arrivals.map Arrival.time).Pairwise (· ≤ ·)) :
    arrivals.takeWhile (·.time ≤ now) = arrivals.filter (·.time ≤ now) ∧
      arrivals.dropWhile (·.time ≤ now) = arrivals.filter (now < ·.time) := by
  have hsplit := arrivals.takeWhile_append_dropWhile (p := (·.time ≤ now))
  have htaken : ∀ arrival ∈ arrivals.takeWhile (·.time ≤ now), arrival.time ≤ now :=
    fun _ h => by simpa using List.mem_takeWhile_imp h
  have hleft : ∀ arrival ∈ arrivals.dropWhile (·.time ≤ now), now < arrival.time :=
    fun _ => lt_of_mem_dropWhile hsorted
  generalize arrivals.takeWhile (·.time ≤ now) = arrived at hsplit htaken ⊢
  generalize arrivals.dropWhile (·.time ≤ now) = rest at hsplit hleft ⊢
  subst hsplit
  constructor
  · rw [List.filter_append, List.filter_eq_self.2 (by simpa using htaken),
      List.filter_eq_nil_iff.2 (by simpa using hleft), List.append_nil]
  · rw [List.filter_append, List.filter_eq_nil_iff.2 (by simpa using htaken),
      List.filter_eq_self.2 (by simpa using hleft), List.nil_append]

/-- Whenever it is polled, a task publishes what it would if it met the events of its file alone. -/
theorem Task.publications_trim (debounce : Nat) (polls : List Nat) {arrivals : List Arrival}
    (hsorted : (arrivals.map Arrival.time).Pairwise (· ≤ ·)) (task : Task) :
    task.publications debounce polls arrivals =
      task.trim.publications debounce polls
        (arrivals.filter (·.event.concerns task.place)) := by
  induction polls generalizing arrivals task with
  | nil => rfl
  | cons now later ih =>
    obtain ⟨harrived, hrest⟩ := takeWhile_time now hsorted
    have hsorted' : ((arrivals.filter (now < ·.time)).map Arrival.time).Pairwise (· ≤ ·) :=
      hsorted.sublist (List.filter_sublist.map _)
    obtain ⟨hown, hownRest⟩ := takeWhile_time now
      (hsorted.sublist (List.filter_sublist (p := (·.event.concerns task.place)) |>.map _))
    have hcommute : ∀ keep : Arrival → Bool,
        (arrivals.filter (·.event.concerns task.place)).filter keep =
          (arrivals.filter keep).filter (·.event.concerns task.place) := by
      intro keep
      simp only [List.filter_filter, Bool.and_comm]
    rw [publications, publications, harrived, hrest, hown, hownRest, hcommute, hcommute]
    have hqueue : (((arrivals.filter (·.time ≤ now)).filter (·.event.concerns task.place)).map
          Arrival.event).foldl receive task.trim =
        (((arrivals.filter (·.time ≤ now)).map Arrival.event).foldl receive task).trim := by
      rw [trim_foldl_receive, List.filter_map]
      rfl
    rw [hqueue, settle_trim]
    generalize hmet : ((arrivals.filter (·.time ≤ now)).map Arrival.event).foldl receive task = met
    have hplace : (met.settle debounce now).2.place = task.place := by
      rw [settle_place, ← hmet, foldl_receive_place]
    dsimp only
    rw [ih hsorted', hplace]

/-- What is left of a stream with all the events of a file has all those that its task goes by. -/
theorem filter_concerns_eq {place : Place} {arrivals kept : List Arrival}
    (hname : place.dropLast.getLast? ≠ place.getLast?)
    (hwithin : ∀ arrival ∈ arrivals, arrival.event.Within place.dropLast)
    (hown : (arrivals.filter (·.event.isOf place)).Sublist kept) (hkept : kept.Sublist arrivals) :
    kept.filter (·.event.concerns place) = arrivals.filter (·.event.concerns place) := by
  have htwice : (arrivals.filter (·.event.isOf place)).filter (·.event.concerns place) =
      arrivals.filter (·.event.concerns place) := by
    rw [List.filter_filter]
    refine List.filter_congr fun arrival hmem => ?_
    cases h : arrival.event.concerns place with
    | false => rfl
    | true => exact PlatformEvent.isOf_of_concerns hname (hwithin arrival hmem) h
  refine (hkept.filter _).antisymm ?_
  rw [← htwice]
  exact hown.filter _

end Streams

/-- Suppose that the directory of a file does not have the file's own name. Then a stream of events
from which all or some of those are removed that are not of the file, wherever they stand in it,
makes the task of the file publish at the same times: both when the task is polled at the same
times, whatever it has in hand at first, and when it is polled whenever an event arrives and
whenever its timer expires, which are other times once events are removed. -/
theorem foreign_events_change_nothing (debounce : Nat) (place : Place)
    (arrivals kept : List Arrival) (hname : place.dropLast.getLast? ≠ place.getLast?)
    (hwithin : ∀ arrival ∈ arrivals, arrival.event.Within place.dropLast)
    (hsorted : (arrivals.map Arrival.time).Pairwise (· ≤ ·))
    (hown : (arrivals.filter (·.event.isOf place)).Sublist kept) (hkept : kept.Sublist arrivals) :
    (∀ (polls : List Nat) (task : Task), task.place = place →
      task.publications debounce polls kept = task.publications debounce polls arrivals) ∧
    (∀ id start polls polls', Punctual debounce place polls kept none →
      Punctual debounce place polls' arrivals none →
      (Task.start id place debounce start).publications debounce polls kept =
        (Task.start id place debounce start).publications debounce polls' arrivals) := by
  have hsame := filter_concerns_eq hname hwithin hown hkept
  constructor
  · rintro polls task rfl
    rw [Task.publications_trim debounce polls hsorted,
      Task.publications_trim debounce polls (hsorted.sublist (hkept.map _)), hsame]
  · intro id start polls polls' punctual punctual'
    have htimes : relevantTimes place kept = relevantTimes place arrivals :=
      congrArg (List.map Arrival.time) hsame
    calc (Task.start id place debounce start).publications debounce polls kept
        = (lulls debounce (relevantTimes place kept)).map (· + debounce) :=
          Task.publications_running id punctual (by simp)
      _ = (lulls debounce (relevantTimes place arrivals)).map (· + debounce) := by rw [htimes]
      _ = (Task.start id place debounce start).publications debounce polls' arrivals :=
          (Task.publications_running id punctual' (by simp)).symm

/-- A sibling is written just before and just after a write of the store, and access to the
directory is changed while a publication is due. -/
theorem siblings_and_directory_ignored :
    let place : Place := ["srv", "store.jks"]
    let own : Arrival := ⟨60, ⟨.modified, [place]⟩⟩
    let arrivals : List Arrival :=
      [⟨50, ⟨.created, [["srv", "other.jks"]]⟩⟩, own, ⟨70, ⟨.modified, [["srv", "other.jks"]]⟩⟩,
        ⟨160, ⟨.modified, [["srv"]]⟩⟩]
    (Task.start 1 place 100 0).publications 100 [50, 60, 70, 160] arrivals = [160] := by
  intro place own arrivals
  have punctual : Punctual 100 place [60, 160] [own] none :=
    ⟨by decide, by decide, by decide, by decide⟩
  have punctual' : Punctual 100 place [50, 60, 70, 160] arrivals none :=
    ⟨by decide, by decide, by decide, by decide⟩
  have hsame := (foreign_events_change_nothing 100 place arrivals [own] (by decide) (by decide)
    (by decide) (by decide) (by decide)).2 1 0 [60, 160] [50, 60, 70, 160] punctual punctual'
  rw [← hsame]
  exact (Task.publications_running 1 punctual (by simp)).trans (by decide)

/-- Where the directory has the file's own name, its renaming is taken for a change of the file: a
task that is polled in time publishes, though the only event is none of the file. -/
theorem renamed_directory_published :
    let place : Place := ["srv", "store.jks", "store.jks"]
    let moved : PlatformEvent := ⟨.modified, [place.dropLast]⟩
    let arrivals : List Arrival := [⟨10, moved⟩]
    let task := Task.start 1 place 100 0
    PlatformEvent.ofChange? place.dropLast ⟨.renamedFrom, place.dropLast⟩ = some moved ∧
      moved.Within place.dropLast ∧ moved.isOf place = false ∧
      task.publications 100 [10, 110] arrivals = [110] ∧
      task.publications 100 [10, 110] (arrivals.filter (·.event.isOf place)) = [] := by
  intro place moved arrivals task
  refine ⟨by decide, by decide, by decide, ?_, ?_⟩
  · have punctual : Punctual 100 place [10, 110] arrivals none :=
      ⟨by decide, by decide, by decide, by decide⟩
    exact (Task.publications_running 1 punctual (by simp)).trans (by decide)
  · have punctual : Punctual 100 place [10, 110] [] none :=
      ⟨by decide, by decide, by decide, by decide⟩
    exact (Task.publications_running 1 punctual (by simp)).trans (by decide)

end CredentialWatch.Watch
