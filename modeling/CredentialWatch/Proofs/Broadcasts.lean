import CredentialWatch.Proofs.CanonicalPaths
import CredentialWatch.Proofs.HandleStates
import CredentialWatch.Proofs.SharedRuns
import CredentialWatch.Watch.Broadcast

/-!
# Subscriptions meet watches

A subscription is for the canonical path of its source, a watch publishes the canonical path of its
file, and the registry keeps watches by their places. All of these agree, so a listener hears the
watches of the file that its source leads to and no others. A task has one publication under way at
most. So whoever hears a watch hears its publications one after the other.
-/
namespace CredentialWatch.Watch

/-- Two parts of a list, of which the first one may lack the last element of the second one. -/
theorem filter_prefix_filter {α : Type} {list : List α} {few many : α → Bool}
    (hfew : ∀ element ∈ list, few element → many element)
    (hmany : list.Pairwise fun element _ => many element → few element) :
    list.filter few <+: list.filter many := by
  induction list with
  | nil => exact List.prefix_rfl
  | cons first rest ih =>
    obtain ⟨hfirst, hrest⟩ := List.pairwise_cons.1 hmany
    have hprefix := ih (fun element hmem => hfew element (List.mem_cons_of_mem _ hmem)) hrest
    by_cases h : few first
    · rw [List.filter_cons_of_pos h, List.filter_cons_of_pos (hfew first List.mem_cons_self h)]
      exact (List.prefix_cons_inj first).2 hprefix
    · rw [List.filter_cons_of_neg h]
      by_cases hmany : many first
      · have hlast : rest = [] := List.eq_nil_iff_forall_not_mem.2 fun element hmem =>
          h (hfirst element hmem hmany)
        simp [hlast]
      · rwa [List.filter_cons_of_neg hmany]

section Handles

/-- A service in use of whose handles each is on a task for its file, and whose tasks stop only when
nobody has an open handle on them. -/
structure Usage.Attended (usage : Usage) : Prop where
  orderly : usage.Orderly
  known : ∀ handle ∈ usage.handles,
    ∃ task ∈ usage.service.tasks, task.id = handle.id ∧ task.place = handle.place
  closed : ∀ task ∈ usage.service.tasks, task.stopRequested = true → usage.Closed task.id

namespace Usage

variable {usage : Usage}

theorem attended_start (debounce : Duration) : (Usage.start debounce).Attended where
  orderly := Service.orderly_start debounce
  known := by simp [Usage.start]
  closed := by simp [Usage.start, Service.ofDebounce]

/-- A task that is told to stop was told so before, or has no open handle. -/
theorem stopped_before (orderly : usage.Orderly) (occurrence : Occurrence) {later : Task}
    (hlater : later ∈ (usage.undergo occurrence).service.tasks)
    (hstop : later.stopRequested = true) :
    (∃ task ∈ usage.service.tasks, task.id = later.id ∧ task.stopRequested = true) ∨
      shares (usage.undergo occurrence).handles later.id = 0 := by
  have hmap : ∀ change : Task → Task, (∀ task, (change task).id = task.id ∧
      (change task).stopRequested = task.stopRequested) →
        later ∈ usage.service.tasks.map change →
          ∃ task ∈ usage.service.tasks, task.id = later.id ∧ task.stopRequested = true := by
    intro change hchange hmem
    obtain ⟨task, htask, rfl⟩ := List.mem_map.1 hmem
    exact ⟨task, htask, (hchange task).1.symm, (hchange task).2.symm.trans hstop⟩
  have hrelease : ∀ index, later ∈ (usage.release index).service.tasks →
      (∃ task ∈ usage.service.tasks, task.id = later.id ∧ task.stopRequested = true) ∨
        shares (usage.release index).handles later.id = 0 := by
    intro index hmem
    rcases orderly.tasks_release index with h | ⟨id, hshares, h⟩
    · rw [h] at hmem
      exact .inl ⟨later, hmem, rfl, hstop⟩
    · rw [h] at hmem
      obtain ⟨task, htask, ⟨hid, rfl⟩ | ⟨-, rfl⟩⟩ := Service.mem_modifyTask hmem
      · exact .inr (by rwa [← hid] at hshares)
      · exact .inl ⟨_, htask, rfl, hstop⟩
  cases occurrence with
  | failure id =>
    refine .inl (hmap _ (fun task => ?_) hlater)
    by_cases h : task.id = id <;> simp [h, Task.fail]
  | move move =>
    cases move with
    | watch platform files path now =>
      simp only [Usage.undergo, Usage.apply] at hlater
      split at hlater
      · exact .inl ⟨later, hlater, rfl, hstop⟩
      · rename_i handle after h
        obtain ⟨place, ⟨entry, -, -, rfl⟩ | ⟨-, -, rfl⟩⟩ := Service.Orderly.watchOn_cases orderly h
        · exact .inl ⟨later, hlater, rfl, hstop⟩
        · rcases List.mem_append.1 hlater with hlater | hlater
          · exact .inl ⟨later, hlater, rfl, hstop⟩
          · rw [List.mem_singleton.1 hlater] at hstop
            cases hstop
    | stop index => exact hrelease index hlater
    | drop index => exact hrelease index hlater
    | report id event =>
      refine .inl (hmap _ (fun task => ?_) hlater)
      by_cases h : task.id = id <;> simp [h, Task.receive]
    | observe changes =>
      refine .inl (hmap _ (fun task => ?_) hlater)
      by_cases h : task.state.isTerminal <;> simp [h]
    | poll id now =>
      simp only [Usage.undergo, Usage.apply] at hlater
      split at hlater
      · exact .inl ⟨later, hlater, rfl, hstop⟩
      · rename_i task htask
        obtain ⟨hmem, -⟩ := Service.mem_of_task? htask
        obtain ⟨hid', -, hstop'⟩ := task.step_keeps usage.service.debounce.millis now
        refine .inl ?_
        obtain ⟨other, hother, ⟨hid, rfl⟩ | ⟨-, rfl⟩⟩ := Service.mem_modifyTask hlater
        · exact ⟨task, hmem, hid'.symm, hstop'.symm.trans hstop⟩
        · exact ⟨_, hother, rfl, hstop⟩
    | leave id =>
      refine .inl ⟨later, ?_, rfl, hstop⟩
      simp only [Usage.undergo, Usage.apply] at hlater
      split at hlater
      · exact hlater
      · split at hlater <;> exact hlater

/-- A watch that succeeds gives an open handle on the file that the path leads to, whose task goes
on. -/
theorem watchOn_handle (orderly : usage.Orderly) {platform : Platform} {files : FileSystem}
    {path : String} {now : Nat} {handle : Handle} {after : Service}
    (h : usage.service.watchOn platform files path now = .ok (handle, after)) :
    (∃ node, files.find path = .ok (handle.place, node)) ∧ handle.released = false ∧
      ¬ (after.taskState handle.id).isTerminal := by
  have later := Service.Orderly.watchOn orderly h
  unfold Service.watchOn at h
  split at h
  · cases h
  rename_i place node hfind
  dsimp only at h
  split at h
  · rename_i entry hjoined
    cases h
    refine ⟨⟨node, hfind⟩, rfl, ?_⟩
    have hrunning := (Option.filter_eq_some_iff.1 hjoined).2
    show ¬ (usage.service.taskState entry.id).isTerminal
    simpa using hrunning
  · split at h
    · cases h
    cases h
    refine ⟨⟨node, hfind⟩, rfl, ?_⟩
    have htask := Service.task?_of_mem later.ids
      (List.mem_append_right _ (List.mem_singleton_self _))
    have hstate : Service.taskState _ _ = State.watching :=
      congrArg (fun found => (Option.map Task.state found).getD .stopped) htask
    intro hended
    have hwatching : State.watching.isTerminal = true :=
      (congrArg State.isTerminal hstate).symm.trans hended
    cases hwatching

namespace Attended

theorem undergo (attended : usage.Attended) (occurrence : Occurrence) :
    (usage.undergo occurrence).Attended where
  orderly := attended.orderly.undergo occurrence
  known := by
    intro handle hmem
    rcases open_or_known attended.orderly occurrence hmem with hopen | ⟨old, hold, hid, hplace⟩
    · exact Service.Orderly.known (attended.orderly.undergo occurrence) handle hmem hopen
    · obtain ⟨task, htask, htaskId, htaskPlace⟩ := attended.known old hold
      obtain ⟨later, hlater, hlaterId, hlaterPlace⟩ :=
        (attended.orderly.succession occurrence).kept task htask
      exact ⟨later, hlater, by rw [hlaterId, htaskId, hid], by rw [hlaterPlace, htaskPlace, hplace]⟩
  closed := by
    intro later hlater hstop
    rcases stopped_before attended.orderly occurrence hlater hstop with
      ⟨task, htask, hid, hbefore⟩ | hnone
    · rw [← hid]
      exact (attended.closed task htask hbefore).undergo attended.orderly occurrence
    · refine ⟨⟨later, hlater, rfl⟩, fun handle hmem hid => ?_⟩
      by_contra hopen
      have hpos := shares_pos_iff.2 ⟨handle, hmem, by simpa using hopen, hid⟩
      omega

/-- An open handle on a task that goes on holds the entry of its file. -/
theorem watchId?_eq (attended : usage.Attended) {handle : Handle} (hmem : handle ∈ usage.handles)
    (hopen : handle.released = false)
    (hrunning : ¬ (usage.service.taskState handle.id).isTerminal) :
    usage.service.registry.watchId? handle.place = some handle.id := by
  obtain ⟨task, htask, hid, hplace⟩ := attended.known handle hmem
  have hstate : usage.service.taskState handle.id = task.state := by
    rw [Service.taskState, ← hid, Service.task?_of_mem (Service.Orderly.ids attended.orderly) htask]
    rfl
  have live : task.Live := by
    refine ⟨?_, fun hfailed => hrunning ?_⟩
    · by_contra hstop
      have hreleased := (attended.closed task htask (by simpa using hstop)).released handle hmem
        hid.symm
      simp [hopen] at hreleased
    · rw [hstate, hfailed]
      rfl
  rw [← hplace, ← hid]
  exact Service.Orderly.entered attended.orderly task htask live

end Attended

end Usage

end Handles

namespace Broadcast

variable {state : Broadcast}

/-- What a watch has published is a change of its file, and is over when the watch publishes again,
so that it is heard in order. -/
structure Sound (state : Broadcast) : Prop where
  attended : state.usage.Attended
  shared : state.shared.Sound
  published : ∀ id number, (id, number) ∈ state.announced →
    ∃ task ∈ state.usage.service.tasks, task.id = id ∧
      ∃ publication, state.shared.publications[number]? = some publication ∧
        publication.delivery.event.type = .configurationChanged ∧
        publication.delivery.event.path = task.place.path
  increasing : (state.announced.map Prod.snd).Pairwise (· < ·)
  single : ∀ id number later, (id, number) ∈ state.announced → (id, later) ∈ state.announced →
    number < later → ∀ publication, state.shared.publications[number]? = some publication →
      publication.isOver
  ordered : ∀ id, ((state.shared.calls.filter fun call => state.announced.contains (id, call.1)).map
    Prod.fst).Pairwise (· ≤ ·)

theorem sound_start (debounce : Duration) : (Broadcast.start debounce).Sound where
  attended := Usage.attended_start debounce
  shared := Shared.sound_start
  published := by simp [Broadcast.start]
  increasing := List.Pairwise.nil
  single := by simp [Broadcast.start]
  ordered := by simp [Broadcast.start, Shared.start]

theorem mem_announcedBy {id number : Nat} :
    number ∈ state.announcedBy id ↔ (id, number) ∈ state.announced := by
  simp [announcedBy]

/-- A publication that a task makes bears the number of the task that takes its turn. -/
theorem turn?_of_note? {usage : Usage} {occurrence : Occurrence} {note : Note}
    (h : usage.note? occurrence = some note) : occurrence.turn? = some note.id := by
  cases occurrence with
  | failure => cases h
  | move move =>
    cases move with
    | poll id now =>
      obtain ⟨task, htask, hnote⟩ := Option.bind_eq_some_iff.1 h
      rw [Task.id_of_note? hnote, (Service.mem_of_task? htask).2]
      rfl
    | watch | stop | drop | report | observe | leave => cases h

namespace Sound

theorem lt_length (sound : state.Sound) {id number : Nat} (h : (id, number) ∈ state.announced) :
    number < state.shared.publications.length := by
  obtain ⟨-, -, -, publication, hpublication, -⟩ := sound.published id number h
  exact (List.getElem?_eq_some_iff.1 hpublication).1

theorem share (sound : state.Sound) (move : Shared.Move) :
    Sound { state with shared := state.shared.apply move } where
  attended := sound.attended
  shared := sound.shared.apply move
  published := by
    intro id number h
    obtain ⟨task, htask, hid, publication, hpublication, htype, hpath⟩ :=
      sound.published id number h
    obtain ⟨later, hlater, precedes⟩ := Shared.exists_later hpublication move
    exact ⟨task, htask, hid, later, hlater,
      by rw [precedes.event, htype], by rw [precedes.event, hpath]⟩
  increasing := sound.increasing
  single := by
    intro id number after h hafter hlt publication hpublication
    obtain ⟨-, -, -, before, hbefore, -⟩ := sound.published id number h
    obtain ⟨later, hlater, precedes⟩ := Shared.exists_later hbefore move
    obtain rfl := Option.some.inj (hlater.symm.trans hpublication)
    exact precedes.ended (sound.single id number after h hafter hlt before hbefore)
  ordered := by
    intro id
    show (((state.shared.apply move).calls.filter fun call =>
      state.announced.contains (id, call.1)).map
      Prod.fst).Pairwise (· ≤ ·)
    rcases state.shared.calls_apply move with
      hcalls | ⟨number, publication, listener, hnumber, hnext, hcalls⟩
    · rw [hcalls]
      exact sound.ordered id
    · rw [hcalls, List.filter_append, List.map_append, List.pairwise_append]
      refine ⟨sound.ordered id, ?_, ?_⟩
      · have hone : ([(number, listener)].map Prod.fst).Pairwise (· ≤ ·) :=
          List.pairwise_singleton ..
        exact hone.sublist (List.filter_sublist.map _)
      · intro earlier hearlier last hlast
        obtain ⟨⟨earlier, other⟩, hmem, rfl⟩ := List.mem_map.1 hearlier
        obtain ⟨call, hcall, rfl⟩ := List.mem_map.1 hlast
        obtain ⟨hmade, hannounced⟩ := List.mem_filter.1 hcall
        obtain rfl := List.mem_singleton.1 hmade
        by_contra hlt
        refine Publication.not_isOver hnext
          (sound.single id number earlier ?_ ?_ ?_ publication hnumber)
        · simpa using hannounced
        · simpa using (List.mem_filter.1 hmem).2
        · exact Nat.lt_of_not_le hlt

/-- What happens to the service changes what its tasks are, but not which files they have. -/
theorem undergone (sound : state.Sound) (occurrence : Occurrence) :
    Sound { state with usage := state.usage.undergo occurrence } where
  attended := sound.attended.undergo occurrence
  shared := sound.shared
  published := by
    intro id number h
    obtain ⟨task, htask, hid, publication, hpublication, htype, hpath⟩ :=
      sound.published id number h
    obtain ⟨later, hlater, hlaterId, hlaterPlace⟩ :=
      (sound.attended.orderly.succession occurrence).kept task htask
    exact ⟨later, hlater, hlaterId.trans hid, publication, hpublication, htype,
      by rw [hpath, hlaterPlace]⟩
  increasing := sound.increasing
  single := sound.single
  ordered := sound.ordered

/-- A task that has nothing under way publishes a change of its file. -/
theorem announce (sound : state.Sound) {task : Task} (htask : task ∈ state.usage.service.tasks)
    (hidle : ¬ state.isBusy task.id) (time : Instant) :
    Sound { state with
      shared := state.shared.publish ⟨.configurationChanged, task.place.path, time⟩
      announced := state.announced ++ [(task.id, state.shared.publications.length)] } := by
  have hcases : ∀ id number,
      (id, number) ∈ state.announced ++ [(task.id, state.shared.publications.length)] →
        (id, number) ∈ state.announced ∨
          id = task.id ∧ number = state.shared.publications.length := by
    intro id number h
    simpa using h
  have hkept : ∀ (number : Nat) (publication : Publication),
      state.shared.publications[number]? = some publication →
        (state.shared.publish
          ⟨.configurationChanged, task.place.path, time⟩).publications[number]? =
          some publication := by
    intro number publication h
    exact (List.getElem?_append_left (List.getElem?_eq_some_iff.1 h).1).trans h
  refine
    { attended := sound.attended
      shared := sound.shared.apply (.publish _)
      published := ?_
      increasing := ?_
      single := ?_
      ordered := ?_ }
  · intro id number h
    rcases hcases id number h with h | ⟨rfl, rfl⟩
    · obtain ⟨other, hother, hid, publication, hpublication, htype, hpath⟩ :=
        sound.published id number h
      exact ⟨other, hother, hid, publication, hkept number publication hpublication, htype, hpath⟩
    · exact ⟨task, htask, rfl, _, List.getElem?_concat_length, rfl, rfl⟩
  · rw [List.map_append, List.pairwise_append]
    refine ⟨sound.increasing, List.pairwise_singleton .., ?_⟩
    intro earlier hearlier last hlast
    obtain ⟨⟨id, number⟩, hmem, rfl⟩ := List.mem_map.1 hearlier
    obtain rfl : last = state.shared.publications.length := by simpa using hlast
    exact sound.lt_length hmem
  · intro id number later h hlater hlt publication hpublication
    rcases hcases id number h with h | ⟨-, rfl⟩
    · obtain ⟨-, -, -, before, hbefore, -⟩ := sound.published id number h
      obtain rfl := Option.some.inj ((hkept number before hbefore).symm.trans hpublication)
      rcases hcases id later hlater with hlater | ⟨rfl, -⟩
      · exact sound.single id number later h hlater hlt before hbefore
      · by_contra hunder
        refine hidle (List.any_eq_true.2 ⟨(task.id, number), h, ?_⟩)
        simpa [hbefore] using hunder
    · rcases hcases id later hlater with hlater | ⟨-, rfl⟩
      · exact absurd (sound.lt_length hlater) (Nat.not_lt.2 hlt.le)
      · exact absurd hlt (Nat.lt_irrefl _)
  · intro id
    have hsame : ∀ call ∈ state.shared.calls,
        (state.announced ++ [(task.id, state.shared.publications.length)]).contains (id, call.1) =
          state.announced.contains (id, call.1) := by
      intro call hcall
      have hlt := sound.shared.delivered.begun call hcall
      simp [hlt.ne]
    show ((state.shared.calls.filter fun call => List.contains _ (id, call.1)).map
      Prod.fst).Pairwise _
    rw [List.filter_congr hsame]
    exact sound.ordered id

theorem undergo (sound : state.Sound) (occurrence : Occurrence) (time : Instant) :
    (state.undergo occurrence time).Sound := by
  unfold Broadcast.undergo
  split
  · exact sound
  rename_i hidle
  dsimp only
  split
  · rename_i id place hnote
    obtain ⟨task, htask, rfl, rfl, -⟩ := Usage.exists_publisher hnote
    have hnone : ¬ state.isBusy task.id := by
      simpa [turn?_of_note? hnote, Note.id] using hidle
    exact (sound.announce htask hnone time).undergone occurrence
  · exact sound.undergone occurrence

/-- What one move preserves. -/
theorem apply (sound : state.Sound) (move : Move) : (state.apply move).Sound := by
  cases move with
  | share move => exact sound.share move
  | undergo occurrence time => exact sound.undergo occurrence time

/-- What a whole run preserves. -/
theorem run (sound : state.Sound) (moves : List Move) : (state.run moves).Sound := by
  induction moves generalizing state with
  | nil => exact sound
  | cons move rest ih => exact ih (sound.apply move)

section Hearing

variable {id : Nat} {registration : Registration Nat}

theorem announcedBy_increasing (sound : state.Sound) (id : Nat) :
    (state.announcedBy id).Pairwise (· < ·) :=
  sound.increasing.sublist (List.filter_sublist.map _)

theorem heard_increasing (sound : state.Sound) (hmade : registration ∈ state.shared.made)
    (id : Nat) :
    (state.heard registration.listener id).Pairwise (· < ·) := by
  have hordered : (state.heard registration.listener id).Pairwise (· ≤ ·) := by
    refine (sound.ordered id).sublist ?_
    rw [heard, ← List.filter_filter]
    exact List.filter_sublist.map _
  have hdistinct : (state.heard registration.listener id).Nodup := by
    refine List.nodup_iff_count_le_one.2 fun number => ?_
    refine le_trans ?_ (sound.shared.count_le_one hmade number)
    rw [heard, List.count_eq_countP, List.count_eq_countP, List.countP_map, List.countP_filter]
    refine List.countP_mono_left fun call _ => ?_
    simp only [Function.comp_apply, Bool.and_eq_true, beq_iff_eq, Prod.ext_iff]
    exact fun h => ⟨h.1, h.2.1⟩
  exact (hordered.and hdistinct).imp fun h => lt_of_le_of_ne h.1 h.2

/-- A listener hears those publications of a watch that call it, once each and in order. -/
theorem heard_eq (sound : state.Sound) (hmade : registration ∈ state.shared.made) (id : Nat) :
    state.heard registration.listener id = (state.announcedBy id).filter fun number =>
      state.shared.calls.contains (number, registration.listener) := by
  refine (sound.heard_increasing hmade id).eq_of_mem_iff
    ((sound.announcedBy_increasing id).sublist List.filter_sublist) fun number => ?_
  simp [heard, mem_announcedBy, and_comm]

end Hearing

section Meeting

variable {handle : Handle} (hhandle : handle ∈ state.usage.handles)
include hhandle

/-- What the watch of a handle publishes is a change of the handle's file. -/
theorem exists_publication (sound : state.Sound) {number : Nat}
    (hnumber : number ∈ state.announcedBy handle.id) :
    ∃ publication, state.shared.publications[number]? = some publication ∧
      publication.delivery.event.type = .configurationChanged ∧
      publication.delivery.event.path = handle.place.path := by
  obtain ⟨task, htask, hid, publication, hpublication, htype, hpath⟩ :=
    sound.published handle.id number (mem_announcedBy.1 hnumber)
  obtain ⟨other, hother, hotherId, hplace⟩ := sound.attended.known handle hhandle
  obtain rfl := Service.Orderly.task_unique sound.attended.orderly htask hother
    (hid.trans hotherId.symm)
  exact ⟨publication, hpublication, htype, hplace ▸ hpath⟩

variable {registration : Registration Nat} {place : Place} (proper : place.Proper)
  (proper' : handle.place.Proper) (htype : registration.type = .configurationChanged)
  (hsource : registration.source? = some place.path) (hmade : registration ∈ state.shared.made)
include proper proper' htype hsource

/-- A publication of a watch is for a registration if it stood, and its source is the file of the
watch. -/
theorem isFor_iff (sound : state.Sound) {number : Nat}
    (hnumber : number ∈ state.announcedBy handle.id) {publication : Publication}
    (hpublication : state.shared.publications[number]? = some publication) :
    publication.IsFor registration ↔ state.stood registration number ∧ place = handle.place := by
  obtain ⟨found, hfound, hfoundType, hpath⟩ := sound.exists_publication hhandle hnumber
  obtain rfl := Option.some.inj (hfound.symm.trans hpublication)
  simp [Publication.IsFor, stood, hpublication, htype, hfoundType, hsource, hpath,
    Place.same_path_iff proper proper']

include hmade

/-- A subscription whose source is the file of a watch gets what the watch publishes while it
stands. -/
theorem received_of_same (sound : state.Sound) (hsame : place = handle.place) :
    state.received registration.listener handle.id <+: state.sent handle.id registration ∧
      (state.Quiet handle.id →
        state.received registration.listener handle.id = state.sent handle.id registration) := by
  have hcalled : ∀ number ∈ state.announcedBy handle.id,
      state.shared.calls.contains (number, registration.listener) →
        state.stood registration number := by
    intro number hnumber hcalled
    obtain ⟨publication, hpublication, -⟩ := sound.exists_publication hhandle hnumber
    have hfor := (sound.shared.mem_calls hpublication hmade).1 (by simpa using hcalled)
    exact ((sound.isFor_iff hhandle proper proper' htype hsource hnumber hpublication).1 hfor).1
  have hended : ∀ number ∈ state.announcedBy handle.id,
      (∀ publication, state.shared.publications[number]? = some publication → publication.isOver) →
        state.stood registration number →
          state.shared.calls.contains (number, registration.listener) := by
    intro number hnumber hover hstood
    obtain ⟨publication, hpublication, -⟩ := sound.exists_publication hhandle hnumber
    have hfor := (sound.isFor_iff hhandle proper proper' htype hsource hnumber hpublication).2
      ⟨hstood, hsame⟩
    simpa using (sound.shared.mem_calls hpublication hmade).2 (hover publication hpublication) hfor
  rw [received, sent, sound.heard_eq hmade]
  constructor
  · refine (filter_prefix_filter hcalled ?_).filterMap state.event?
    refine (sound.announcedBy_increasing handle.id).imp_of_mem fun hnumber hlater hlt => ?_
    exact hended _ hnumber (sound.single handle.id _ _ (mem_announcedBy.1 hnumber)
      (mem_announcedBy.1 hlater) hlt)
  · intro quiet
    refine congrArg _ (List.filter_congr fun number hnumber => ?_)
    exact Bool.eq_iff_iff.2 ⟨hcalled number hnumber, hended number hnumber (quiet number hnumber)⟩

theorem received_of_other (sound : state.Sound) (hother : place ≠ handle.place) :
    state.received registration.listener handle.id = [] := by
  have hnone : state.heard registration.listener handle.id = [] := by
    rw [sound.heard_eq hmade, List.filter_eq_nil_iff]
    intro number hnumber hcalled
    obtain ⟨publication, hpublication, -⟩ := sound.exists_publication hhandle hnumber
    have hfor := (sound.shared.mem_calls hpublication hmade).1 (by simpa using hcalled)
    exact hother
      ((sound.isFor_iff hhandle proper proper' htype hsource hnumber hpublication).1 hfor).2
  rw [received, hnone, List.filterMap_nil]

end Meeting

end Sound

end Broadcast

/-- Whatever threads do with a notifier and a service that publishes to it: a watch that succeeds
gives an open handle on the file that the path leads to, and the watch publishes the canonical path
of this file. A subscription whose source has the same canonical path is called with all that the
watch publishes while it stands, once each and in the order of publication, a last publication that
is still under way apart; one whose source has another canonical path is called with nothing of it.
Open handles on watches that go on have the same entry in the registry if their paths have the same
canonical path, and only then. -/
theorem subscriptions_meet_watches (debounce : Duration) (moves : List Broadcast.Move) :
    let state := (Broadcast.start debounce).run moves
    let handles := state.usage.handles
    let service := state.usage.service
    (∀ platform files path now handle after,
      service.watchOn platform files path now = .ok (handle, after) →
        state.usage.apply (.watch platform files path now) = ⟨after, handles ++ [handle]⟩ ∧
          files.canonicalPath path = .ok handle.place.path ∧ handle.released = false ∧
          ¬ (after.taskState handle.id).isTerminal) ∧
    (∀ handle ∈ handles, ∀ number ∈ state.announcedBy handle.id,
      ∃ event, state.event? number = some event ∧ event.type = .configurationChanged ∧
        event.path = handle.place.path) ∧
    (∀ (files others : FileSystem) (source path : String) (place : Place) (node node' : Node),
      files.Proper → others.Proper → files.find source = .ok (place, node) →
      ∀ handle ∈ handles, others.find path = .ok (handle.place, node') →
      ∀ registration ∈ state.shared.made, registration.type = .configurationChanged →
        registration.source? = some (files.sourcePath source) →
        (files.canonicalPath source = others.canonicalPath path →
          state.received registration.listener handle.id <+: state.sent handle.id registration ∧
            (state.Quiet handle.id →
              state.received registration.listener handle.id = state.sent handle.id registration)) ∧
        (files.canonicalPath source ≠ others.canonicalPath path →
          state.received registration.listener handle.id = [])) ∧
    (∀ left ∈ handles, ∀ right ∈ handles, left.released = false → right.released = false →
      ¬ (service.taskState left.id).isTerminal → ¬ (service.taskState right.id).isTerminal →
      ∀ (files others : FileSystem) (source path : String) (node node' : Node),
        files.Proper → others.Proper → files.find source = .ok (left.place, node) →
        others.find path = .ok (right.place, node') →
        ∃ entry, service.registry.find? left.place = some entry ∧ entry.id = left.id ∧
          (service.registry.find? right.place = some entry ∧ entry.id = right.id ↔
            files.canonicalPath source = others.canonicalPath path)) := by
  intro state handles service
  have sound : state.Sound := (Broadcast.sound_start debounce).run moves
  have attended := sound.attended
  refine ⟨?_, ?_, ?_, ?_⟩
  · intro platform files path now handle after h
    obtain ⟨⟨node, hfind⟩, hopen, hrunning⟩ := Usage.watchOn_handle attended.orderly h
    refine ⟨?_, FileSystem.canonicalPath_eq_ok_iff.2 ⟨_, node, hfind, rfl⟩, hopen, hrunning⟩
    simp only [Usage.apply]
    rw [h]
  · intro handle hhandle number hnumber
    obtain ⟨publication, hpublication, htype, hpath⟩ := sound.exists_publication hhandle hnumber
    exact ⟨publication.delivery.event, by rw [Broadcast.event?, hpublication]; rfl, htype, hpath⟩
  · intro files others source path place node node' proper proper' hsource handle hhandle hpath
      registration hmade htype hregistered
    rw [FileSystem.sourcePath_eq hsource] at hregistered
    rw [ne_eq, FileSystem.canonicalPath_eq_iff proper proper' hsource hpath]
    have hplace := FileSystem.find_proper proper hsource
    have hplace' := FileSystem.find_proper proper' hpath
    exact ⟨sound.received_of_same hhandle hplace hplace' htype hregistered hmade,
      sound.received_of_other hhandle hplace hplace' htype hregistered hmade⟩
  · intro left hleft right hright hopen hopen' hrunning hrunning' files others source path
      node node'
      proper proper' hsource hpath
    obtain ⟨entry, hentry, hid⟩ :=
      Registry.watchId?_eq_some_iff.1 (attended.watchId?_eq hleft hopen hrunning)
    have hright' := attended.watchId?_eq hright hopen' hrunning'
    refine ⟨entry, hentry, hid, ?_⟩
    rw [FileSystem.canonicalPath_eq_iff proper proper' hsource hpath]
    constructor
    · rintro ⟨hshared, -⟩
      rw [← Registry.place_of_find? hentry, Registry.place_of_find? hshared]
    · intro hsame
      rw [← hsame] at hright' ⊢
      obtain ⟨entry', hentry', hid'⟩ := Registry.watchId?_eq_some_iff.1 hright'
      obtain rfl := Option.some.inj (hentry.symm.trans hentry')
      exact ⟨hentry, hid'⟩

/-- A listener for a link and one for another file, and a watch of the file that the link leads to,
which is started through another path: the one hears what the watch publishes, the other one does
not. -/
theorem link_hears_the_watch_of_its_file :
    let files : FileSystem :=
      ⟨[(["d"], .directory), (["d", "a.jks"], .file []), (["d", "b.jks"], .file []),
        (["link"], .link "d/./a.jks")], ["d"], []⟩
    let happens (occurrence : Move) : Broadcast.Move := .undergo (.move occurrence) ⟨0, 0⟩
    let moves : List Broadcast.Move :=
      [.share (.number .configurationChanged (some (files.sourcePath "/link"))),
        .share (.number .configurationChanged (some (files.sourcePath "b.jks"))), .share (.push 0),
        .share (.push 0), happens (.watch .willing files "..//d/a.jks" 0),
        happens (.report 1 ⟨.modified, [["d", "a.jks"]]⟩), happens (.poll 1 10),
        happens (.poll 1 600),
        .share (.call 0), .share (.finish 0 true)]
    let state := (Broadcast.start ⟨500⟩).run moves
    files.canonicalPath "/link" = files.canonicalPath "..//d/a.jks" ∧
      state.received 0 1 = [⟨.configurationChanged, "/d/a.jks", ⟨0, 0⟩⟩] ∧
        state.received 1 1 = [] := by
  intro files happens moves state
  have hlink : files.find "/link" = .ok (["d", "a.jks"], .file []) := by decide +kernel
  have hother : files.find "b.jks" = .ok (["d", "b.jks"], .file []) := by decide +kernel
  have hpath : files.find "..//d/a.jks" = .ok (["d", "a.jks"], .file []) := by decide +kernel
  have hsame : files.canonicalPath "/link" = files.canonicalPath "..//d/a.jks" := by decide +kernel
  have hdiffer : files.canonicalPath "b.jks" ≠ files.canonicalPath "..//d/a.jks" := by
    decide +kernel
  have proper : files.Proper := by
    simp only [FileSystem.Proper, Place.Proper, Place.IsName]
    decide +kernel
  let first : Registration Nat := ⟨0, .configurationChanged, some (files.sourcePath "/link"), 0, []⟩
  let second : Registration Nat :=
    ⟨1, .configurationChanged, some (files.sourcePath "b.jks"), 1, []⟩
  have hmade : state.shared.made = [first, second] := by decide +kernel
  have hhandles : state.usage.handles = [⟨["d", "a.jks"], 1, false⟩] := by decide +kernel
  have hannounced : state.announcedBy 1 = [0] := by decide +kernel
  have hover : ∀ publication ∈ state.shared.publications[0]?, publication.isOver := by
    decide +kernel
  have hsent : state.sent 1 first = [⟨.configurationChanged, "/d/a.jks", ⟨0, 0⟩⟩] := by
    decide +kernel
  have hquiet : state.Quiet 1 := by
    intro number hnumber publication hpublication
    obtain rfl : number = 0 := by simpa [hannounced] using hnumber
    exact hover publication hpublication
  obtain ⟨-, -, hhears, -⟩ := subscriptions_meet_watches ⟨500⟩ moves
  have hrun : (Broadcast.start ⟨500⟩).run moves = state := rfl
  rw [hrun] at hhears
  clear_value state
  have hhandle : ⟨["d", "a.jks"], 1, false⟩ ∈ state.usage.handles := by simp [hhandles]
  obtain ⟨hmeets, -⟩ := hhears files files "/link" _ _ _ _ proper proper hlink _ hhandle hpath first
    (by simp [hmade]) rfl rfl
  obtain ⟨-, hmisses⟩ := hhears files files "b.jks" _ _ _ _ proper proper hother _ hhandle
    hpath second
    (by simp [hmade]) rfl rfl
  exact ⟨hsame, ((hmeets hsame).2 hquiet).trans hsent, hmisses hdiffer⟩

end CredentialWatch.Watch
