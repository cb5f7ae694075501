import CredentialWatch.Proofs.CourseRuns
import CredentialWatch.Proofs.Overwriting

/-!
# Reloads converge

Whatever happens while a watch is under way, a load that began before the last write is followed by
another one: something is outstanding, and moves that write no file bring it to the program. When
nothing is left to happen, the stores are what a load of the files as they are comes to, or that
load has failed and the stores are those of the last one that succeeded.
-/
namespace CredentialWatch

open Watch

namespace Course

variable {course : Course} {service : Service} {events : List ChangeEvent}

section Writes

variable {files : FileSystem} {place : Place} {changes : List FileChange}
  {reports : List (Nat × PlatformEvent)}

/-- Whoever observes the directory of a file for the watch under way reports all that changes in
it. -/
def Observes (course : Course) (place : Place) (changes : List FileChange)
    (reports : List (Nat × PlatformEvent)) : Prop :=
  ∀ service id, course.following.service? = some service →
    service.registry.watchId? place = some id → ∀ change ∈ changes, ∀ event,
      PlatformEvent.ofChange? place.dropLast change = some event → (id, event) ∈ reports

/-- A write is allowed if it keeps what the locations lead to and is observed. -/
theorem allows_of_keeps {gone : Place → Prop} (keeps : course.world.files.Keeps files gone)
    (back : files.Keeps course.world.files fun _ => False)
    (hkept : ∀ other, course.Names other → ¬ gone other) (names : course.Names place)
    (hplace : place ≠ []) {kind : ChangeKind} (hkind : kind = .modified ∨ kind = .renamedTo)
    (hchange : ⟨kind, place⟩ ∈ changes) (observes : course.Observes place changes reports) :
    course.Allows (.write place files reports) := by
  refine ⟨names, fun role => ?_, fun service id hservice hwatched => ?_⟩
  · cases hsection : course.following.settings.store? role with
    | none => simp only [Option.bind_none]
    | some settings =>
      simp only [Option.bind_some, StoreSettings.place?]
      refine keeps.place? back fun other hother => hkept other ⟨role, ?_⟩
      rw [hsection]
      exact hother
  · have hevent : PlatformEvent.ofChange? place.dropLast ⟨kind, place⟩ =
        some ⟨.modified, [place]⟩ := by
      rcases hkind with rfl | rfl <;> simp [PlatformEvent.ofChange?, hplace]
    refine ⟨_, observes service id hservice hwatched _ hchange _ hevent, ?_⟩
    simp [PlatformEvent.concerns, hplace]

/-- A file may be written over in place. -/
theorem allows_overwrite {path : String} {old content : Bytes}
    (hfind : course.world.files.find path = .ok (place, .file old))
    (hwrite : course.world.files.write path content = .ok (files, changes))
    (names : course.Names place) (observes : course.Observes place changes reports) :
    course.Allows (.write place files reports) := by
  have hlocate := FileSystem.find_eq_ok_iff_locate.1 hfind
  have hold := FileSystem.node?_of_locate hlocate
  obtain ⟨rfl, rfl⟩ : course.world.files.put place (.file content) = files ∧
      [⟨.modified, place⟩] = changes := by
    simpa [FileSystem.write, hlocate, bind, Except.bind] using hwrite
  obtain ⟨keeps, back⟩ := FileSystem.keeps_put (.file content) hold ⟨rfl, rfl⟩
  exact allows_of_keeps keeps back (fun _ _ => id) names (FileSystem.ne_nil_of_ends hold rfl)
    (.inl rfl) List.mem_cons_self observes

/-- Another file that no section names may be renamed over a file. -/
theorem allows_rename {path newPath : String} {source : Place} {old new : Bytes}
    (hsource : course.world.files.locate false path = .ok (.found source (.file new)))
    (htarget : course.world.files.locate false newPath = .ok (.found place (.file old)))
    (hempty : course.world.files.isEmptyDirectory source = true ∧
      course.world.files.isEmptyDirectory place = true)
    (hrename : course.world.files.rename path newPath = .ok (files, changes))
    (hunnamed : ¬ course.Names source) (names : course.Names place)
    (observes : course.Observes place changes reports) :
    course.Allows (.write place files reports) := by
  have hne : place ≠ source := fun h => hunnamed (h ▸ names)
  obtain ⟨keeps, back⟩ :=
    FileSystem.keeps_rename hsource htarget ⟨rfl, rfl⟩ hne hempty hrename
  obtain ⟨rfl, -⟩ := FileSystem.node?_rename hsource htarget ⟨rfl, rfl⟩ hne hempty hrename
  refine allows_of_keeps keeps back (fun other hother => ?_) names
    (FileSystem.ne_nil_of_ends (FileSystem.node?_of_locate htarget) rfl) (.inr rfl)
    (List.mem_cons_of_mem _ List.mem_cons_self) observes
  rintro rfl
  exact hunnamed hother

end Writes

section Progress

def Move.IsWrite : Move → Prop
  | .write .. => True
  | _ => False

theorem permits_of_not_isWrite {moves : List Move} (h : ∀ move ∈ moves, ¬ move.IsWrite) :
    course.Permits moves := by
  induction moves generalizing course with
  | nil => trivial
  | cons move rest ih =>
    obtain ⟨hmove, hrest⟩ := List.forall_mem_cons.1 h
    refine ⟨?_, ih hrest⟩
    cases move with
    | write => exact absurd trivial hmove
    | _ => trivial

/-- Some moves that write no file lead to a goal. -/
def LeadsTo (course : Course) (goal : Course → Prop) : Prop :=
  ∃ moves : List Move, (∀ move ∈ moves, ¬ move.IsWrite) ∧ goal (course.run moves)

/-- Another load has begun since some history. -/
def Reloading (past : List Mark) (later : Course) : Prop :=
  ∃ marks, later.history = .began :: (marks ++ past)

theorem LeadsTo.of_apply {goal : Course → Prop} (move : Move) (h : ¬ move.IsWrite)
    (leads : (course.apply move).LeadsTo goal) : course.LeadsTo goal := by
  obtain ⟨moves, hmoves, hgoal⟩ := leads
  exact ⟨move :: moves, List.forall_mem_cons.2 ⟨h, hmoves⟩, hgoal⟩

/-- A change that has been received is followed by a load. -/
theorem leads_received {event : ChangeEvent} (hphase : course.phase = .received event) :
    course.LeadsTo (Reloading course.history) := by
  refine ⟨[.begin], by simp [Move.IsWrite], [], ?_⟩
  simp [Course.run, Course.apply, hphase]

/-- An event in the channel is received. -/
theorem Sound.leads_of_event {event : ChangeEvent} (sound : course.Sound service (event :: events))
    (hphase : course.phase = .waiting) : course.LeadsTo (Reloading course.history) := by
  obtain ⟨exchange, htake, -⟩ := sound.forwards.take?
  have hreceived : course.apply .receive = { course with
      exchange
      phase := .received event
      printed := course.printed ++ [.out event.line] } := by
    simp only [Course.apply, hphase, htake]
  refine .of_apply .receive id ?_
  rw [hreceived]
  exact leads_received rfl

/-- While the program waits, a stale watch gets on: reports arrive, events are taken from queues,
and a pending change is published. Each of these moves brings a report or an event further. -/
theorem Sound.leads_waiting (sound : course.Sound service events) (hphase : course.phase = .waiting)
    (hstale : Stale course.history) : course.LeadsTo (Reloading course.history) := by
  induction hreports : course.underway.length using Nat.strong_induction_on
    generalizing course service events with
  | _ reports ihReports =>
    induction hload : service.workload using Nat.strong_induction_on
      generalizing course service events with
    | _ load ihLoad =>
      cases events with
      | cons event rest => exact sound.leads_of_event hphase
      | nil =>
        cases sound.stale hstale with
        | underway names watched mem concerns =>
          obtain ⟨index, hindex⟩ := List.mem_iff_getElem?.1 mem
          obtain ⟨hlt, -⟩ := List.getElem?_eq_some_iff.1 hindex
          obtain ⟨after, hsound⟩ := sound.deliver index
          have hfewer : (course.apply (.deliver index)).underway.length < reports := by
            simp only [Course.apply, hindex, List.length_eraseIdx_of_lt hlt]
            omega
          have hphase' : (course.apply (.deliver index)).phase = .waiting := by
            simpa only [Course.apply, hindex, Course.setService] using hphase
          have hhistory : (course.apply (.deliver index)).history = course.history := by
            simp only [Course.apply, hindex, Course.setService]
          refine .of_apply (.deliver index) id ?_
          rw [← hhistory] at hstale ⊢
          exact ihReports _ hfewer hsound hphase' hstale rfl
        | due names due =>
          obtain ⟨task, hmem, -, hwatched, hdue⟩ := due
          let turn : Work := .poll task.id task.deadline
          have hturn : course.apply (.work turn ⟨0, 0⟩) = course.work turn ⟨0, 0⟩ := rfl
          have hphase' : (course.apply (.work turn ⟨0, 0⟩)).phase = .waiting := by
            simpa only [hturn, Course.work, sound.service?_eq, Course.setService] using hphase
          have hhistory : (course.apply (.work turn ⟨0, 0⟩)).history = course.history := by
            simp only [hturn, Course.work, sound.service?_eq, Course.setService]
          have hunderway : (course.apply (.work turn ⟨0, 0⟩)).underway = course.underway := by
            simp only [hturn, Course.work, sound.service?_eq, Course.setService]
          refine .of_apply (.work turn ⟨0, 0⟩) id ?_
          rw [← hhistory] at hstale ⊢
          cases hpublished : service.published? turn with
          | some place => exact (sound.work_published ⟨0, 0⟩ hpublished).leads_of_event hphase'
          | none =>
            have hshorter : (task.step service.debounce.millis task.deadline).2.queue.length <
                task.queue.length := by
              rcases Task.step_of_due hdue (sound.balanced.sound task hmem)
                (sound.balanced.runs hmem hwatched) service.debounce.millis with hnow | hshorter
              · simp [turn, Service.published?, Service.task?_of_mem sound.balanced.ids hmem, hnow]
                  at hpublished
              · exact hshorter
            have hless := sound.balanced.workload_work_lt hmem hshorter
            exact ihLoad _ (hload ▸ hless) (sound.work_silent ⟨0, 0⟩ hpublished) hphase' hstale
              (hunderway ▸ hreports) rfl
        | published events => exact absurd sound.events_eq events
        | received phase_eq =>
          rw [hphase] at phase_eq
          cases phase_eq

/-- A load under way comes to its end, and if the watch is stale then, it gets on from there. -/
theorem Sound.leads_loading (sound : course.Sound service events) {event : ChangeEvent}
    {stage : LoadStage} (hphase : course.phase = .loading event stage)
    (hstale : Stale course.history) : course.LeadsTo (Reloading course.history) := by
  induction hleft : stage.left using Nat.strong_induction_on
    generalizing course service events stage with
  | _ left ih =>
    by_cases hend : stage.left = 0
    · obtain ⟨outcome, rfl⟩ := LoadStage.eq_ended_of_left hend
      obtain ⟨after, hsound⟩ := sound.resume
      have hhistory : (course.apply .resume).history = .ended outcome :: course.history := by
        simp only [Course.apply, hphase]
      have hphase' : (course.apply .resume).phase = .waiting := by
        simp only [Course.apply, hphase]
      have hstale' : Stale (course.apply .resume).history := by
        rw [hhistory]
        exact hstale
      obtain ⟨moves, hmoves, marks, hmarks⟩ := hsound.leads_waiting hphase' hstale'
      refine .of_apply .resume id ⟨moves, hmoves, marks ++ [.ended outcome], ?_⟩
      rw [hmarks, hhistory, List.append_assoc, List.singleton_append]
    · let willing : StoreRole → Platform := fun _ => .willing
      obtain ⟨after, hsound⟩ := sound.advance willing 0
      have hless := LoadStage.left_advance (course.scene willing 0)
        (stage, course.following.service?) hend
      have hhistory : (course.apply (.advance willing 0)).history = course.history := by
        simp only [Course.apply, hphase, Course.setService]
      have hphase' : (course.apply (.advance willing 0)).phase = .loading event
          (LoadStage.advance (course.scene willing 0) (stage, course.following.service?)).1 := by
        simp only [Course.apply, hphase, LoadStage.advance]
      refine .of_apply (.advance willing 0) id ?_
      rw [← hhistory] at hstale ⊢
      exact ih _ (hleft ▸ hless) hsound hphase' hstale rfl

/-- Another load follows when a watch is stale. -/
theorem Sound.leads (sound : course.Sound service events) (hstale : Stale course.history) :
    course.LeadsTo (Reloading course.history) := by
  cases hphase : course.phase with
  | waiting => exact sound.leads_waiting hphase hstale
  | received event => exact leads_received hphase
  | loading event stage => exact sound.leads_loading hphase hstale

end Progress

section Quiescence

/-- Nothing is left to happen by itself. -/
structure Quiescent (course : Course) : Prop where
  phase_eq : course.phase = .waiting
  underway : course.underway = []
  events : course.events = []
  tasks : ∀ service, course.following.service? = some service → ∀ task ∈ service.tasks,
    task.stopRequested = false → task.queue = [] ∧ task.pending = false

def isWaiting (course : Course) : Bool :=
  match course.phase with
  | .waiting => true
  | _ => false

theorem quiescent_iff :
    course.Quiescent ↔ course.isWaiting = true ∧ course.underway.isEmpty = true ∧
      course.events.isEmpty = true ∧
      ∀ service ∈ course.following.service?, ∀ task ∈ service.tasks,
        task.stopRequested = false → task.queue = [] ∧ task.pending = false := by
  constructor
  · intro quiescent
    exact ⟨by rw [isWaiting, quiescent.phase_eq], by simp [quiescent.underway],
      by simp [quiescent.events], quiescent.tasks⟩
  · rintro ⟨hwaiting, hunderway, hevents, htasks⟩
    refine ⟨?_, List.isEmpty_iff.1 hunderway, List.isEmpty_iff.1 hevents, htasks⟩
    unfold isWaiting at hwaiting
    split at hwaiting
    · assumption
    · cases hwaiting

instance (course : Course) : Decidable course.Quiescent :=
  decidable_of_iff' _ quiescent_iff

/-- Nothing is outstanding where nothing is left to happen. -/
theorem Quiescent.not_outstanding (quiescent : course.Quiescent)
    (sound : course.Sound service events) :
    ¬ course.Outstanding service := by
  intro outstanding
  cases outstanding with
  | underway _ _ mem => simp [quiescent.underway] at mem
  | due names due =>
    obtain ⟨task, hmem, -, hwatched, hdue⟩ := due
    obtain ⟨hqueue, hpending⟩ :=
      quiescent.tasks service sound.service?_eq task hmem (sound.balanced.runs hmem hwatched)
    rcases hdue with hnow | ⟨event, hevent, -⟩
    · simp [hpending] at hnow
    · simp [hqueue] at hevent
  | published events => exact events quiescent.events
  | received phase_eq => cases quiescent.phase_eq.symm.trans phase_eq

/-- The watch is up to date: the last load began after the last write and has ended, it came to what
a load of the files as they are comes to, and the stores are its own, or those of the last load
before it that succeeded. -/
def UpToDate (course : Course) : Prop :=
  ∃ outcome earlier, course.history = .ended outcome :: .began :: earlier ∧
    (∃ identity, outcome.map StorePair.unwatched = course.reload identity) ∧
    match outcome with
    | .ok stores => course.following.stores = stores
    | .error _ => (earlier.filterMap Mark.stores?).head? = some course.following.stores

theorem Sound.upToDate (sound : course.Sound service events) (quiescent : course.Quiescent) :
    course.UpToDate := by
  have fresh := sound.fresh fun hstale => quiescent.not_outstanding sound (sound.stale hstale)
  simp only [Fresh, quiescent.phase_eq] at fresh
  obtain ⟨outcome, earlier, identity, hhistory, houtcome⟩ := fresh
  have latest := sound.latest
  refine ⟨outcome, earlier, hhistory, ⟨identity, houtcome⟩, ?_⟩
  rw [hhistory] at latest
  cases outcome with
  | ok stores => exact (Option.some.inj latest).symm
  | error error => exact latest

end Quiescence

end Course

/-- A watch that begins with every file being watched converges. Between any two moves, if a file
was written since the last load began, something is outstanding that leads to another load; and when
nothing is left to happen, the watch is up to date. -/
theorem reloads_converge {platform : StoreRole → Platform} {settings : Settings} {world : World}
    {now : Nat} {path : String} {first : Following} {left? : Option Service}
    (henabled : settings.watch.enabled = true)
    (hopen : Following.openOn platform settings world now path = (.ok first, left?))
    (hwatches : first.WatchesAll) {moves : List Course.Move}
    (permitted : (Course.start world first).Permits moves) :
    let course := (Course.start world first).run moves
    ∃ service, course.following.service? = some service ∧
      (Stale course.history →
        course.Outstanding service ∧ course.LeadsTo (Course.Reloading course.history)) ∧
      (course.Quiescent → course.UpToDate) := by
  intro course
  obtain ⟨service, hstart⟩ := Course.sound_start henabled hopen hwatches
  obtain ⟨after, events, sound⟩ := hstart.run permitted
  exact ⟨after, sound.service?_eq, fun hstale => ⟨sound.stale hstale, sound.leads hstale⟩,
    sound.upToDate⟩

/-- A file is written over while it is watched: the watch is stale, and up to date after another
load. -/
theorem overwritten_file_loaded_anew :
    let certificate := "-----BEGIN CERTIFICATE-----
AA==
-----END CERTIFICATE-----
"
    let files (content : String) : FileSystem :=
      ⟨[(["a.pem"], .file content.toUTF8.toList)], [], []⟩
    let world : World := ⟨files certificate, []⟩
    let settings := { Settings.standard with keyStore? := some ⟨"/a.pem", "PEM", none, none, none⟩ }
    let willing (_ : StoreRole) : Platform := .willing
    let write : Course.Move := .write ["a.pem"] (files (certificate ++ certificate))
      [(1, ⟨.modified, [["a.pem"]]⟩)]
    let rest : List Course.Move :=
      [.deliver 0, .work (.poll 1 0) ⟨0, 0⟩, .work (.poll 1 1000) ⟨1, 0⟩, .receive, .begin] ++
        (List.replicate 9 (.advance willing 1000) ++ [.resume])
    settings.watch.enabled = true ∧
      match Following.openOn willing settings world 0 "/watch.toml" with
      | (.error _, _) => False
      | (.ok first, _) =>
        first.WatchesAll ∧ (Course.start world first).Permits (write :: rest) ∧
          (let course := (Course.start world first).run [write]
          Stale course.history ∧ course.LeadsTo (Course.Reloading course.history)) ∧
          (let course := (Course.start world first).run (write :: rest)
          course.Quiescent ∧ course.UpToDate ∧
            course.following.stores.keyStore?.map (·.store.credentials.length) = some 2) := by
  intro certificate files world settings willing write rest
  refine ⟨rfl, ?_⟩
  have hfacts : (Following.openOn willing settings world 0 "/watch.toml").1.toOption.map
      (fun first =>
      let course := (Course.start world first).run (write :: rest)
      ((first.stores.keyStore?.bind StoreConfiguration.watch?).isSome,
        first.service?.bind (·.registry.watchId? ["a.pem"]), decide course.Quiescent,
        course.following.stores.keyStore?.map (·.store.credentials.length))) =
      some (true, some 1, true, some 2) := by
    decide +kernel
  have hfind : world.files.find "/a.pem" =
      .ok (["a.pem"], .file certificate.toUTF8.toList) := by
    decide +kernel
  cases hopen : Following.openOn willing settings world 0 "/watch.toml" with
  | mk result left? =>
    rw [hopen] at hfacts
    cases result with
    | error error => cases hfacts
    | ok first =>
      obtain ⟨hwatch, hid, hquiescent, hcount⟩ : _ ∧ _ ∧ _ ∧ _ := by
        simpa only [Except.toOption, Option.map_some, Option.some.injEq, Prod.mk.injEq] using hfacts
      obtain ⟨hsettings, -⟩ := Course.openOn_eq_ok hopen
      have hwatches : first.WatchesAll := by
        intro role chosen hsection _
        cases role with
        | keyStore => exact Option.isSome_iff_ne_none.1 hwatch
        | trustStore =>
          rw [hsettings] at hsection
          cases hsection
      have names : (Course.start world first).Names ["a.pem"] := by
        refine ⟨.keyStore, ?_⟩
        simp only [Course.start, hsettings]
        decide +kernel
      have hallowed : (Course.start world first).Allows write := by
        have hwrite : world.files.write "/a.pem" (certificate ++ certificate).toUTF8.toList =
            .ok (files (certificate ++ certificate), [⟨.modified, ["a.pem"]⟩]) := rfl
        refine Course.allows_overwrite hfind hwrite names fun service id hservice hwatched => ?_
        obtain rfl : id = 1 := by
          simp only [Course.start] at hservice
          rw [hservice] at hid
          exact Option.some.inj (hwatched.symm.trans hid)
        decide
      have hpermitted : ∀ moves : List Course.Move, (∀ move ∈ moves, ¬ move.IsWrite) →
          (Course.start world first).Permits (write :: moves) := fun moves h =>
        ⟨hallowed, Course.permits_of_not_isWrite h⟩
      have hrest : ∀ move ∈ rest, ¬ move.IsWrite := by
        simp [rest, Course.Move.IsWrite]
      obtain ⟨_, _, hstale, -⟩ := reloads_converge rfl hopen hwatches (hpermitted [] (by simp))
      obtain ⟨_, _, -, hend⟩ := reloads_converge rfl hopen hwatches (hpermitted rest hrest)
      have hquiescent := of_decide_eq_true hquiescent
      exact ⟨hwatches, hpermitted rest hrest, ⟨trivial, (hstale trivial).2⟩, hquiescent,
        hend hquiescent, hcount⟩

end CredentialWatch
