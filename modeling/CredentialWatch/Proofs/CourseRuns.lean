import CredentialWatch.Proofs.DueChanges
import CredentialWatch.Proofs.StagedLoads

/-!
# What holds in the course of a watch

A watch under way is stale if a file was written since the last load began. Then something is
outstanding that leads to another load: a report, an event in a queue, a pending change, an event in
the channel, or one that has been received. If it is not stale, then the load that is under way
comes to what a load of the files as they are would come to, and so did the last load if none is
under way. Both hold between any two moves, since the handles of a load are given out before those
of the stores that it replaces are released.
-/
namespace CredentialWatch

open Watch

/-- A file was written since the last load began. The last mark comes first. -/
def Stale : List Mark → Prop
  | [] => False
  | .written _ :: _ => True
  | .began :: _ => False
  | .ended _ :: earlier => Stale earlier

/-- The stores of a load that succeeded. -/
def Mark.stores? : Mark → Option StorePair
  | ended (.ok stores) => some stores
  | _ => none

/-- The handles that a load under way has been given. -/
def Phase.handles : Phase → List Handle
  | loading _ stage => stage.handles
  | _ => []

def Phase.Follows (files : FileSystem) (settings : Settings) : Phase → Prop
  | loading _ stage => stage.Follows files settings
  | _ => True

theorem Phase.Follows.congr {files files' : FileSystem} {settings : Settings} {phase : Phase}
    (follows : phase.Follows files settings)
    (hsame : ∀ role, (settings.store? role).bind (StoreSettings.place? files') =
      (settings.store? role).bind (StoreSettings.place? files)) :
    phase.Follows files' settings := by
  cases phase with
  | waiting | received => trivial
  | loading event stage => exact LoadStage.Follows.congr follows hsame

/-- Every store that settings give a location is watched. -/
def Following.WatchesAll (following : Following) : Prop :=
  ∀ role settings, following.settings.store? role = some settings → settings.location? ≠ none →
    (following.stores.store? role).bind StoreConfiguration.watch? ≠ none

namespace Course

/-- A section of the settings names a file. -/
def Names (course : Course) (place : Place) : Prop :=
  ∃ role, (course.following.settings.store? role).bind
    (StoreSettings.place? course.world.files) = some place

/-- The events in the channel. -/
def events (course : Course) : List ChangeEvent :=
  ((course.exchange.receiver? channel).map Receiver.events).getD []

/-- What is assumed of a write: it is one of a file that is named, every location leads to the same
place as before, and the platform reports it to the watch of the file, if there is one, with an
event that concerns the file. -/
def Allows (course : Course) : Move → Prop
  | .write place files reports =>
    course.Names place ∧
      (∀ role, (course.following.settings.store? role).bind (StoreSettings.place? files) =
        (course.following.settings.store? role).bind
          (StoreSettings.place? course.world.files)) ∧
      ∀ service id, course.following.service? = some service →
        service.registry.watchId? place = some id →
          ∃ event, (id, event) ∈ reports ∧ event.concerns place
  | _ => True

/-- Each of some moves is allowed when it comes. -/
def Permits : Course → List Move → Prop
  | _, [] => True
  | course, move :: rest => course.Allows move ∧ (course.apply move).Permits rest

/-- Something that leads to another load: a report that is underway, an event that is queued or a
change that is pending with the task of a file, an event in the channel, or one that has been
received. -/
inductive Outstanding (course : Course) (service : Service) : Prop where
  | underway {place : Place} {id : Nat} {event : PlatformEvent} (names : course.Names place)
      (watched : service.registry.watchId? place = some id) (mem : (id, event) ∈ course.underway)
      (concerns : event.concerns place)
  | due {place : Place} (names : course.Names place) (due : service.Due place)
  | published (events : course.events ≠ [])
  | received {event : ChangeEvent} (phase_eq : course.phase = .received event)

/-- What a load of the files as they are comes to, if it does not watch them. -/
def reload (course : Course) (identity : Nat) : Except LoadError StorePair :=
  (StorePair.ofSettings course.world 0 ⟨course.following.settings.loading.timeout⟩
    course.following.settings identity none).1

/-- The load that is under way leads to what a load of the files as they are comes to, or the last
one came to it. -/
def Fresh (course : Course) : Prop :=
  match course.phase with
  | .loading _ stage => (∃ earlier, course.history = .began :: earlier) ∧
      (LoadStage.finish (course.scene (fun _ => .willing) 0) (stage.unwatched, none)).1 =
        .ended (course.reload course.following.nextProvider)
  | _ => ∃ outcome earlier identity, course.history = .ended outcome :: .began :: earlier ∧
      outcome.map StorePair.unwatched = course.reload identity

/-- What holds between any two moves of a watch. -/
structure Sound (course : Course) (service : Service) (events : List ChangeEvent) : Prop where
  service?_eq : course.following.service? = some service
  forwards : course.exchange.Forwards events
  balanced : service.Balanced (course.following.stores.handles ++ course.phase.handles)
  opened : ∀ handle ∈ course.following.stores.handles ++ course.phase.handles,
    handle.released = false
  covers : ∀ role, Covers course.following.stores.handles course.world.files
    (course.following.settings.store? role)
  follows : course.phase.Follows course.world.files course.following.settings
  stale : Stale course.history → course.Outstanding service
  fresh : ¬ Stale course.history → course.Fresh
  latest : (course.history.filterMap Mark.stores?).head? = some course.following.stores

section Together

variable {course : Course} {event : ChangeEvent}

/-- Steps of a load that follow one another at once. -/
theorem run_advances {stage : LoadStage} (hphase : course.phase = .loading event stage)
    (platform : StoreRole → Platform) (now count : Nat) :
    let reached := (LoadStage.advance (course.scene platform now))^[count]
      (stage, course.following.service?)
    course.run (List.replicate count (.advance platform now)) =
      { course.setService reached.2 with phase := .loading event reached.1 } := by
  induction count generalizing course stage with
  | zero =>
    simp only [List.replicate_zero, run, List.foldl_nil, Function.iterate_zero, id_eq, ← hphase]
    rfl
  | succ count ih =>
    have hadvance : course.apply (.advance platform now) =
        { course.setService (LoadStage.advance (course.scene platform now)
            (stage, course.following.service?)).2 with
          phase := .loading event (LoadStage.advance (course.scene platform now)
            (stage, course.following.service?)).1 } := by
      simp only [apply, hphase, LoadStage.advance]
    have hrest := ih (show (course.apply (.advance platform now)).phase = _ by rw [hadvance])
    simp only [Function.iterate_succ_apply, List.replicate_succ]
    change (course.apply _).run _ = _
    rw [hrest, hadvance]
    rfl

/-- A change that is received and taken up with nothing happening in between is taken up as by the
program. -/
theorem run_handleOn {exchange : Exchange} (hphase : course.phase = .waiting)
    (htake : course.exchange.take? channel = some (event, exchange))
    (platform : StoreRole → Platform) (now : Nat) :
    let steps := (LoadStage.start course.following.settings).left
    let handled := course.following.handleOn platform course.world now event
    course.run (.receive :: .begin :: (List.replicate steps (.advance platform now) ++ [.resume])) =
      { course with
        exchange
        following := handled.2
        history := .ended (course.following.loadOn platform course.world now).1 :: .began ::
          course.history
        printed := course.printed ++ handled.1 } := by
  intro steps handled
  let begun : Course := { course with
    exchange
    phase := .loading event (.start course.following.settings)
    history := .began :: course.history
    printed := course.printed ++ [.out event.line] }
  have hbegun : (course.apply .receive).apply .begin = begun := by
    simp only [apply, hphase, htake, begun]
  have hload : (LoadStage.advance (begun.scene platform now))^[steps]
      (.start course.following.settings, course.following.service?) =
      (.ended (course.following.loadOn platform course.world now).1,
        (course.following.loadOn platform course.world now).2) :=
    LoadStage.finish_start (begun.scene platform now) course.following.service?
  have hsteps := run_advances
    (show begun.phase = .loading event (.start course.following.settings) from rfl)
    platform now steps
  rw [show begun.following.service? = course.following.service? from rfl, hload] at hsteps
  simp only [run, List.foldl_cons, List.foldl_append, List.foldl_nil] at hsteps ⊢
  rw [hbegun, hsteps]
  simp only [apply, setService, begun, handled, Following.handleOn]
  cases hloaded : course.following.loadOn platform course.world now with
  | mk outcome service? =>
    cases outcome <;> simp [Following.resume, Following.report, hphase]

end Together

section Moves

variable {course : Course} {service : Service} {events : List ChangeEvent}

theorem Sound.events_eq (sound : course.Sound service events) : course.events = events := by
  simp [Course.events, Exchange.receiver?, sound.forwards.receivers]

/-- A file that a section names is watched. -/
theorem Sound.watched (sound : course.Sound service events) {place : Place}
    (names : course.Names place) : ∃ id, service.registry.watchId? place = some id := by
  obtain ⟨role, hplace⟩ := names
  exact (sound.covers role).watched sound.balanced hplace

/-- A write makes the watch stale, and its report is outstanding. -/
theorem Sound.write (sound : course.Sound service events) {place : Place} {files : FileSystem}
    {reports : List (Nat × PlatformEvent)} (allowed : course.Allows (.write place files reports)) :
    (course.apply (.write place files reports)).Sound service events := by
  obtain ⟨names, hsame, hreported⟩ := allowed
  obtain ⟨id, hwatched⟩ := sound.watched names
  obtain ⟨event, hmem, hconcerns⟩ := hreported service id sound.service?_eq hwatched
  exact {
    service?_eq := sound.service?_eq
    forwards := sound.forwards
    balanced := sound.balanced
    opened := sound.opened
    covers := fun role place h => sound.covers role place ((hsame role).symm.trans h)
    follows := Phase.Follows.congr sound.follows hsame
    stale := fun _ => by
      obtain ⟨role, hplace⟩ := names
      exact .underway ⟨role, (hsame role).trans hplace⟩ hwatched
        (List.mem_append_right _ hmem) hconcerns
    fresh := fun h => absurd trivial h
    latest := sound.latest }

/-- The work of tasks leaves everything else as it is. -/
theorem Sound.worked (sound : course.Sound service events) (work : Work) {exchange : Exchange}
    {underway : List (Nat × PlatformEvent)} {events' : List ChangeEvent}
    (forwards : exchange.Forwards events')
    (outstanding : course.Outstanding service →
      ({ course.setService (some (service.work work)) with exchange, underway } :
        Course).Outstanding (service.work work)) :
    ({ course.setService (some (service.work work)) with exchange, underway } : Course).Sound
      (service.work work) events' where
  service?_eq := rfl
  forwards := forwards
  balanced := sound.balanced.work work
  opened := sound.opened
  covers := sound.covers
  follows := sound.follows
  stale := fun h => outstanding (sound.stale h)
  fresh := sound.fresh
  latest := sound.latest

/-- What is outstanding stays so when a task works without publishing a change, if the reports that
are no longer underway have come to the tasks. -/
theorem Outstanding.worked {handles : List Handle} (outstanding : course.Outstanding service)
    (balanced : service.Balanced handles) {work : Work} (hsilent : service.published? work = none)
    {underway : List (Nat × PlatformEvent)}
    (harrived : ∀ place id event, service.registry.watchId? place = some id →
      (id, event) ∈ course.underway → event.concerns place →
        (id, event) ∈ underway ∨ (service.work work).Due place) :
    ({ course.setService (some (service.work work)) with underway } : Course).Outstanding
      (service.work work) := by
  cases outstanding with
  | underway names watched mem concerns =>
    rcases harrived _ _ _ watched mem concerns with hunderway | hdue
    · refine .underway names ?_ hunderway concerns
      rw [balanced.registry_work work]
      exact watched
    · exact .due names hdue
  | due names due =>
    rcases balanced.due_work due work with hdue | hnow
    · exact .due names hdue
    · rw [hsilent] at hnow
      cases hnow
  | published events => exact .published events
  | received phase_eq => exact .received phase_eq

theorem Sound.deliver (sound : course.Sound service events) (index : Nat) :
    ∃ after, (course.apply (.deliver index)).Sound after events := by
  simp only [apply]
  cases hreport : course.underway[index]? with
  | none => exact ⟨service, sound⟩
  | some report =>
    obtain ⟨id, event⟩ := report
    simp only [sound.service?_eq, Option.map_some]
    refine ⟨_, sound.worked (.report id event) sound.forwards fun outstanding =>
      outstanding.worked sound.balanced rfl fun place otherId otherEvent watched mem concerns => ?_⟩
    obtain ⟨position, hposition⟩ := List.mem_iff_getElem?.1 mem
    by_cases hsame : position = index
    · obtain ⟨rfl, rfl⟩ : id = otherId ∧ event = otherEvent := by
        rw [hsame, hreport] at hposition
        exact Prod.mk.inj (Option.some.inj hposition)
      exact .inr (sound.balanced.due_report watched concerns)
    · exact .inl (List.mem_eraseIdx_iff_getElem?.2 ⟨position, hsame, hposition⟩)

theorem Sound.work_silent (sound : course.Sound service events) {work : Work} (time : Instant)
    (hsilent : service.published? work = none) :
    (course.apply (.work work time)).Sound (service.work work) events := by
  simp only [apply, Course.work, sound.service?_eq, hsilent]
  exact sound.worked work sound.forwards fun outstanding =>
    outstanding.worked sound.balanced hsilent fun _ _ _ _ mem _ => .inl mem

/-- What is published is outstanding in the channel. -/
theorem Sound.work_published (sound : course.Sound service events) {work : Work} (time : Instant)
    {place : Place} (hpublished : service.published? work = some place) :
    (course.apply (.work work time)).Sound (service.work work)
      (events ++ [⟨.configurationChanged, place.path, time⟩]) := by
  have forwards := sound.forwards.publish ⟨.configurationChanged, place.path, time⟩
  simp only [apply, Course.work, sound.service?_eq, hpublished]
  refine sound.worked work forwards fun _ => .published ?_
  simp [Course.events, Exchange.receiver?, forwards.receivers]

/-- What is outstanding is the event itself once it has been received. -/
theorem Sound.receive (sound : course.Sound service events) :
    ∃ events', (course.apply .receive).Sound service events' := by
  have htake := sound.forwards.take?
  cases hphase : course.phase with
  | received | loading =>
    simp only [apply, hphase]
    exact ⟨events, sound⟩
  | waiting =>
    cases events with
    | nil =>
      simp only [apply, hphase, htake]
      exact ⟨[], sound⟩
    | cons event rest =>
      obtain ⟨exchange, hexchange, forwards⟩ := htake
      simp only [apply, hphase, hexchange]
      have balanced := sound.balanced
      have opened := sound.opened
      have fresh := sound.fresh
      simp only [hphase, Fresh] at balanced opened fresh
      exact ⟨rest, {
        service?_eq := sound.service?_eq
        forwards := forwards
        balanced := balanced
        opened := opened
        covers := sound.covers
        follows := trivial
        stale := fun _ => .received rfl
        fresh := fresh
        latest := sound.latest }⟩

/-- A load that begins comes to what a load of the files as they are comes to. -/
theorem Sound.begin (sound : course.Sound service events) :
    (course.apply .begin).Sound service events := by
  cases hphase : course.phase with
  | waiting | loading =>
    simp only [apply, hphase]
    exact sound
  | received event =>
    have hstart := LoadStage.finish_start (course.scene (fun _ => .willing) 0) none
    have hnone : (LoadStage.start course.following.settings).handles = [] :=
      congrArg Option.toList (StoreStage.watch?_ofSection course.following.settings.keyStore?)
    have balanced := sound.balanced
    have opened := sound.opened
    simp only [hphase, Phase.handles] at balanced opened
    simp only [apply, hphase]
    exact {
      service?_eq := sound.service?_eq
      forwards := sound.forwards
      balanced := by simpa only [Phase.handles, hnone] using balanced
      opened := by simpa only [Phase.handles, hnone] using opened
      covers := sound.covers
      follows := StoreStage.follows_ofSection ..
      stale := False.elim
      fresh := fun _ => by
        refine ⟨⟨course.history, rfl⟩, ?_⟩
        rw [LoadStage.unwatched_start]
        exact congrArg Prod.fst hstart
      latest := sound.latest }

/-- What is outstanding stays so where every file that is named keeps its watch. -/
theorem Outstanding.carry {after : Course} {later : Service} {handles : List Handle}
    (outstanding : course.Outstanding service) (balanced : service.Balanced handles)
    (continues : service.Continues later)
    (hnames : ∀ place, course.Names place → after.Names place)
    (hwatched : ∀ place, after.Names place → ∃ id, later.registry.watchId? place = some id)
    (hunderway : after.underway = course.underway) (hevents : after.events = course.events)
    (hphase : ∀ event, course.phase ≠ .received event) : after.Outstanding later := by
  cases outstanding with
  | underway names watched mem concerns =>
    rename_i place id event
    obtain ⟨id', hlater⟩ := hwatched place (hnames place names)
    obtain ⟨rfl, -⟩ := continues place id id' watched hlater
    exact .underway (hnames place names) hlater (hunderway ▸ mem) concerns
  | due names due =>
    rename_i place
    obtain ⟨id', hlater⟩ := hwatched place (hnames place names)
    exact .due (hnames place names) (continues.due balanced (by simp [hlater]) due)
  | published events => exact .published (hevents ▸ events)
  | received phase_eq => exact absurd phase_eq (hphase _)

/-- A step of a load loses no watch, and does not change what the load comes to. -/
theorem Sound.advance (sound : course.Sound service events) (platform : StoreRole → Platform)
    (now : Nat) : ∃ after, (course.apply (.advance platform now)).Sound after events := by
  cases hphase : course.phase with
  | waiting | received =>
    simp only [apply, hphase]
    exact ⟨service, sound⟩
  | loading event stage =>
    have balanced := sound.balanced
    have opened := sound.opened
    have follows := sound.follows
    have fresh := sound.fresh
    simp only [hphase, Phase.handles, Phase.Follows, Fresh] at balanced opened follows fresh
    obtain ⟨after, hafter, hbalanced, hopened, continues, hfollows⟩ :=
      LoadStage.advance_spec (course.scene platform now) balanced
        (fun handle h => opened handle (List.mem_append_right _ h)) sound.covers follows
    have hfinish := LoadStage.finish_unwatched (course.scene platform now) stage (some service)
    have hwatched : ∀ place, course.Names place → ∃ id, after.registry.watchId? place = some id :=
      fun place ⟨role, hplace⟩ => (sound.covers role).watched hbalanced hplace
    simp only [LoadStage.advance] at hafter hbalanced hopened hfollows hfinish
    simp only [apply, hphase, sound.service?_eq, hafter]
    exact ⟨after, {
      service?_eq := rfl
      forwards := sound.forwards
      balanced := hbalanced
      opened := fun handle h => (List.mem_append.1 h).elim
        (fun h => opened handle (List.mem_append_left _ h)) (hopened handle)
      covers := sound.covers
      follows := hfollows
      stale := fun h => (sound.stale h).carry balanced continues
        (fun _ => id) hwatched rfl rfl (by simp [hphase])
      fresh := fun h => ⟨(fresh h).1, (congrArg Prod.fst hfinish).trans (fresh h).2⟩
      latest := sound.latest }⟩

/-- A load that has come to its end has come to what a load of the files as they are comes to. -/
theorem Fresh.ended (fresh : course.Fresh) {event : ChangeEvent}
    {outcome : Except LoadError StorePair}
    (hphase : course.phase = .loading event (.ended outcome)) :
    ∃ earlier, course.history = .began :: earlier ∧
      outcome.map StorePair.unwatched = course.reload course.following.nextProvider := by
  simp only [Fresh, hphase] at fresh
  obtain ⟨⟨earlier, hhistory⟩, hfinish⟩ := fresh
  exact ⟨earlier, hhistory, LoadStage.ended.inj hfinish⟩

/-- A watch goes on with stores whose handles cover all files, if no watch has been lost. -/
theorem Sound.resumed (sound : course.Sound service events) {event : ChangeEvent}
    {outcome : Except LoadError StorePair} (hphase : course.phase = .loading event (.ended outcome))
    {stores : StorePair} {after : Service} (balanced : after.Balanced stores.handles)
    (opened : ∀ handle ∈ stores.handles, handle.released = false)
    (covers : ∀ role,
      Covers stores.handles course.world.files (course.following.settings.store? role))
    (continues : service.Continues after)
    (latest : ((Mark.ended outcome :: course.history).filterMap Mark.stores?).head? = some stores)
    (nextProvider : Nat) (printed : List Printed) :
    ({ course with
      following := { course.following with stores, service? := some after, nextProvider }
      phase := .waiting
      history := .ended outcome :: course.history
      printed } : Course).Sound after events := by
  have hbalanced : after.Balanced (stores.handles ++ []) := by rwa [List.append_nil]
  have hwatched : ∀ place, course.Names place → ∃ id, after.registry.watchId? place = some id :=
    fun place ⟨role, hplace⟩ => (covers role).watched hbalanced hplace
  exact {
    service?_eq := rfl
    forwards := sound.forwards
    balanced := hbalanced
    opened := fun handle h => opened handle (by rw [← List.append_nil stores.handles]; exact h)
    covers := covers
    follows := trivial
    stale := fun h => (sound.stale h).carry sound.balanced continues (fun _ => id) hwatched rfl rfl
      (by simp [hphase])
    fresh := fun h => by
      obtain ⟨earlier, hhistory, houtcome⟩ := (sound.fresh h).ended hphase
      exact ⟨outcome, earlier, course.following.nextProvider, by rw [hhistory], houtcome⟩
    latest := latest }

/-- The stores that a load comes to replace those that there were, and all their files stay
watched. -/
theorem Sound.resume (sound : course.Sound service events) :
    ∃ after, (course.apply .resume).Sound after events := by
  cases hphase : course.phase with
  | waiting | received =>
    simp only [apply, hphase]
    exact ⟨service, sound⟩
  | loading event stage =>
    cases stage with
    | keyStore | trustStore | failed =>
      simp only [apply, hphase]
      exact ⟨service, sound⟩
    | ended outcome =>
      have balanced := sound.balanced
      have opened := sound.opened
      have follows := sound.follows
      simp only [hphase, Phase.handles, Phase.Follows] at balanced opened follows
      have hfront : ∀ handle ∈ course.following.stores.handles, handle.released = false :=
        fun handle h => opened handle (List.mem_append_left _ h)
      simp only [apply, hphase, sound.service?_eq]
      cases outcome with
      | error error =>
        have hbalanced : service.Balanced course.following.stores.handles := by
          simpa [LoadStage.handles] using balanced
        exact ⟨service, sound.resumed hphase hbalanced hfront sound.covers balanced.continues_refl
          sound.latest _ _⟩
      | ok pair =>
        have hpair : ∀ handle ∈ pair.handles, handle.released = false :=
          fun handle h => opened handle (List.mem_append_right _ h)
        obtain ⟨after, hafter, hbalanced, hspares⟩ := release_front balanced hfront
        have continues : service.Continues after :=
          (Service.Gained.refl balanced).continues balanced hbalanced
            (by rw [List.append_nil]; exact List.subset_append_right _ _) hspares
        have hcovers := StorePair.covers follows hpair
        simp only [Following.resume, hafter]
        exact ⟨after, sound.resumed hphase hbalanced hpair hcovers continues rfl _ _⟩

/-- What one move preserves. -/
theorem Sound.apply (sound : course.Sound service events) (move : Move)
    (allowed : course.Allows move) :
    ∃ after events', (course.apply move).Sound after events' := by
  cases move with
  | write => exact ⟨service, events, sound.write allowed⟩
  | deliver index => exact (sound.deliver index).imp fun _ h => ⟨events, h⟩
  | work work time =>
    cases hpublished : service.published? work with
    | none => exact ⟨_, _, sound.work_silent time hpublished⟩
    | some place => exact ⟨_, _, sound.work_published time hpublished⟩
  | receive => exact ⟨service, sound.receive⟩
  | begin => exact ⟨service, events, sound.begin⟩
  | advance platform now => exact (sound.advance platform now).imp fun _ h => ⟨events, h⟩
  | resume => exact sound.resume.imp fun _ h => ⟨events, h⟩

/-- What a whole course preserves. -/
theorem Sound.run (sound : course.Sound service events) {moves : List Move}
    (permitted : course.Permits moves) :
    ∃ after events', (course.run moves).Sound after events' := by
  induction moves generalizing course service events with
  | nil => exact ⟨service, events, sound⟩
  | cons move rest ih =>
    obtain ⟨after, events', hsound⟩ := sound.apply move permitted.1
    exact ih hsound permitted.2

end Moves

section Start

variable {platform : StoreRole → Platform} {settings : Settings} {world : World} {now : Nat}
  {path : String} {first : Following} {left? : Option Service}

/-- A watch that begins has loaded the stores that it begins with. -/
theorem openOn_eq_ok (h : Following.openOn platform settings world now path = (.ok first, left?)) :
    first.settings = settings ∧
      StorePair.ofSettingsOn platform world now ⟨settings.loading.timeout⟩ settings 0
        (StoreContext.ofSettings settings).service? = (.ok first.stores, first.service?) := by
  unfold Following.openOn at h
  dsimp only at h
  split at h
  · cases h
  · rename_i hload
    split at h
    · cases h
    · cases h
      exact ⟨rfl, hload⟩

theorem sound_start (henabled : settings.watch.enabled = true)
    (h : Following.openOn platform settings world now path = (.ok first, left?))
    (hwatches : first.WatchesAll) : ∃ service, (Course.start world first).Sound service [] := by
  obtain ⟨hsettings, hload⟩ := openOn_eq_ok h
  obtain ⟨-, service, watched⟩ : first.settings = settings ∧ ∃ service, first.Watched service := by
    have hopen := Following.openOn_spec platform henabled world now path
    rwa [h] at hopen
  have hpair := pair_spec (Service.balanced_start settings.watch.debounce) platform world now
    ⟨settings.loading.timeout⟩ settings 0
  simp only [StoreContext.ofSettings, henabled, if_true] at hload
  rw [hload] at hpair
  obtain ⟨between, after, -, -, -, hkey, htrust⟩ := hpair
  have hplaced : ∀ role handle,
      (first.stores.store? role).bind StoreConfiguration.watch? = some handle →
      (settings.store? role).bind (StoreSettings.place? world.files) = some handle.place := by
    intro role handle hhandle
    cases role with
    | keyStore =>
      change first.stores.keyStore?.bind _ = _ at hhandle
      rwa [hhandle] at hkey
    | trustStore =>
      change first.stores.trustStore?.bind _ = _ at hhandle
      rwa [hhandle] at htrust
  have hwatched : ∀ role, IsWatched world.files (first.settings.store? role)
      ((first.stores.store? role).bind StoreConfiguration.watch?) := by
    intro role place hplace
    obtain ⟨chosen, hsection, hchosen⟩ := Option.bind_eq_some_iff.1 hplace
    have hlocation : chosen.location? ≠ none := by
      intro hnone
      simp [StoreSettings.place?, hnone] at hchosen
    obtain ⟨handle, hhandle⟩ :=
      Option.ne_none_iff_exists'.1 (hwatches role chosen hsection hlocation)
    rw [hsettings, hplaced role handle hhandle] at hplace
    exact ⟨handle, hhandle, Option.some.inj hplace⟩
  have hreload := StorePair.ofSettingsOn_unwatched
    ⟨platform, world, now, ⟨settings.loading.timeout⟩, settings, 0⟩
    (some (Service.ofDebounce settings.watch.debounce))
  rw [hload] at hreload
  exact ⟨service, {
    service?_eq := watched.service?_eq
    forwards := Exchange.forwards_start
    balanced := (List.append_nil first.stores.handles).symm ▸ watched.balanced
    opened := fun handle h => watched.opened handle
      (by rw [← List.append_nil first.stores.handles]; exact h)
    covers := StorePair.covers hwatched watched.opened
    follows := trivial
    stale := False.elim
    fresh := fun _ => ⟨.ok first.stores, [], 0, rfl,
      by rw [reload, start, hsettings]; exact hreload⟩
    latest := rfl }⟩

end Start

end Course

end CredentialWatch
