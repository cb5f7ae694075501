import CredentialWatch.Command.Chronicle
import CredentialWatch.Proofs.Loading

/-!
# Reloads and the registry of watches

A watch under way holds the handles of its stores and no others, and they are open. A reload gives
out the handles of the new stores before it releases those of the old ones, so at no time in between
is a file without a handle that was watched before and is watched afterwards.
-/
namespace CredentialWatch

open Watch

namespace Watch.Service

variable {service after : Service} {handles : List Handle}

theorem Balanced.work (balanced : service.Balanced handles) (work : Work) :
    (service.work work).Balanced handles := by
  have usage : (⟨service, handles⟩ : Usage).Balanced := balanced
  have hafter := usage.apply work.move
  rwa [Usage.apply_work] at hafter

/-- The work of tasks leaves the registry alone. -/
theorem Balanced.registry_work (balanced : service.Balanced handles) (work : Work) :
    (service.work work).registry = service.registry := by
  cases work with
  | report | observe => rfl
  | poll id now =>
    simp only [Service.work, Work.move, Usage.apply]
    cases service.task? id <;> rfl
  | leave id =>
    simp only [Service.work, Work.move, Usage.apply]
    cases h : service.task? id with
    | none => rfl
    | some task =>
      cases hended : task.state.isTerminal with
      | false => simp [hended]
      | true => simp [hended, balanced.leave_eq (mem_of_task? h).1 hended]

/-- A file that is watched before and after keeps its watch, and the task of the watch with all that
it holds, such as a pending change; the task is not told to stop. -/
def Continues (before after : Service) : Prop :=
  ∀ place id later, before.registry.watchId? place = some id →
    after.registry.watchId? place = some later → later = id ∧
      ∃ task, before.task? id = some task ∧ after.task? id = some task ∧ task.stopRequested = false

/-- Watches continue when new handles are given out before old ones are released. -/
theorem Gained.continues {between : Service} {gained kept : List Handle}
    (gains : service.Gained handles gained between) (balanced : service.Balanced handles)
    (balanced' : after.Balanced kept) (hkept : kept ⊆ handles ++ gained)
    (spares : between.Spares after) : service.Continues after := by
  intro place id later hbefore hafter
  have hbetween := gains.watchId? balanced hbefore
  obtain ⟨entry, hentry, -⟩ := Registry.watchId?_eq_some_iff.1 hafter
  have hsome := (balanced'.isSome_find?_iff place).1 (by simp [hentry])
  obtain ⟨handle, hmem, hopen, rfl⟩ := holders_pos_iff.1 hsome
  have hsame := gains.balanced.watchId?_kept balanced' (hkept hmem) hmem hopen
  obtain rfl : later = id := by simpa [hsame, hbetween] using hafter.symm
  exact ⟨rfl, balanced.task_kept balanced' (gains.spares.trans spares) hbefore hafter⟩

end Watch.Service

section Release

variable {service : Service} {pair : StorePair} {others : List Handle}

/-- When the stores of a pair are released, other handles stay as they are. -/
theorem release_front (balanced : service.Balanced (pair.handles ++ others))
    (opened : ∀ handle ∈ pair.handles, handle.released = false) :
    ∃ after, pair.release (some service) = some after ∧ after.Balanced others ∧
      service.Spares after := by
  obtain ⟨after, hafter, hbalanced, hspares, -⟩ :
      ∃ after, pair.release (some service) = some after ∧ after.Balanced ([] ++ others) ∧
        service.Spares after ∧ after.registry.nextId = service.registry.nextId :=
    release_pair balanced opened
  exact ⟨after, hafter, hbalanced, hspares⟩

/-- When no other handles are there, nothing is left in the registry. -/
theorem release_all (balanced : service.Balanced pair.handles)
    (opened : ∀ handle ∈ pair.handles, handle.released = false) :
    ∃ after, pair.release (some service) = some after ∧ after.registry.entries = [] := by
  have hall : service.Balanced (pair.handles ++ []) := by rwa [List.append_nil]
  obtain ⟨after, hafter, hbalanced, -⟩ := release_front hall opened
  exact ⟨after, hafter, hbalanced.entries_eq_nil⟩

end Release

namespace Following

variable {following : Following} {service : Service}

/-- For a change its line is printed, and the line of an error behind it exactly if the reload
failed. -/
theorem report_eq_iff {event : ChangeEvent} {reload : Except LoadError StorePair}
    {lines : List Printed} :
    report event reload = lines ↔
      (∃ stores, reload = .ok stores) ∧ lines = [.out event.line] ∨
        ∃ error, reload = .error error ∧
          lines = [.out event.line,
            .err (Style.failure.paint (CommandError.store error).message)] := by
  cases reload with
  | ok stores => simp [report, eq_comm]
  | error error => simp [report, eq_comm]

/-- A watch under way has a service, whose open handles are those of its stores. -/
structure Watched (following : Following) (service : Service) : Prop where
  service?_eq : following.service? = some service
  balanced : service.Balanced following.stores.handles
  opened : ∀ handle ∈ following.stores.handles, handle.released = false

namespace Watched

/-- A file has one entry if a store is watched on it, and none otherwise. -/
theorem count_place (watched : following.Watched service) (place : Place) :
    (service.registry.entries.map Entry.place).count place =
      if 0 < following.stores.watchers place then 1 else 0 := by
  rw [watched.balanced.count_place, holders_handles watched.opened]

theorem work (watched : following.Watched service) (work : Work) :
    ({ following with service? := following.service?.map fun service => service.work work } :
      Following).Watched (service.work work) where
  service?_eq := by rw [watched.service?_eq, Option.map_some]
  balanced := watched.balanced.work work
  opened := watched.opened

/-- What a reload preserves, whatever it comes to. -/
theorem handleOn (watched : following.Watched service) (platform : StoreRole → Platform)
    (world : World) (now : Nat) (event : ChangeEvent) :
    ∃ after, (following.handleOn platform world now event).2.Watched after ∧
      service.Continues after := by
  have hpair := pair_spec watched.balanced platform world now
    ⟨following.settings.loading.timeout⟩ following.settings following.nextProvider
  simp only [Following.handleOn, loadOn, watched.service?_eq]
  generalize StorePair.ofSettingsOn platform world now ⟨following.settings.loading.timeout⟩
    following.settings following.nextProvider (some service) = result at hpair
  obtain ⟨_ | pair, after?⟩ := result
  · obtain ⟨after, rfl, hbalanced, hspares, -⟩ := hpair
    refine ⟨after, ⟨rfl, hbalanced, watched.opened⟩, ?_⟩
    exact (Service.Gained.refl watched.balanced).continues watched.balanced hbalanced
      (by simp) hspares
  · obtain ⟨-, between, rfl, -, hgained, -, -⟩ := hpair
    obtain ⟨after, hafter, hbalanced, hspares⟩ := release_front hgained.balanced watched.opened
    refine ⟨after, ⟨hafter, hbalanced, hgained.opened⟩, ?_⟩
    exact hgained.continues watched.balanced hbalanced (List.subset_append_right _ _) hspares

/-- When a watch is stopped, nothing is left in the registry. -/
theorem stop (watched : following.Watched service) :
    ∃ left, following.stop = some left ∧ left.registry.entries = [] := by
  rw [Following.stop, watched.service?_eq]
  exact release_all watched.balanced watched.opened

end Watched

/-- A watch that begins holds the handles of its stores. One that cannot begin, because a store
cannot be loaded or because none can be watched, leaves nothing in the registry. -/
theorem openOn_spec (platform : StoreRole → Platform) {settings : Settings}
    (henabled : settings.watch.enabled = true) (world : World) (now : Nat) (path : String) :
    match openOn platform settings world now path with
    | (.error _, left?) => ∃ left, left? = some left ∧ left.registry.entries = []
    | (.ok first, _) => first.settings = settings ∧ ∃ service, first.Watched service := by
  have hpair := pair_spec (Service.balanced_start settings.watch.debounce) platform world now
    ⟨settings.loading.timeout⟩ settings 0
  simp only [openOn, StoreContext.ofSettings, henabled, if_true]
  generalize StorePair.ofSettingsOn platform world now ⟨settings.loading.timeout⟩ settings 0
    (some (Service.ofDebounce settings.watch.debounce)) = result at hpair
  obtain ⟨_ | pair, after?⟩ := result
  · obtain ⟨left, rfl, hbalanced, -, -⟩ := hpair
    exact ⟨left, rfl, hbalanced.entries_eq_nil⟩
  · obtain ⟨-, service, rfl, -, hgained, -, -⟩ := hpair
    cases hempty : pair.watchedPlaces.isEmpty with
    | true =>
      simpa only [hempty, if_true] using release_all hgained.balanced hgained.opened
    | false =>
      simp only [hempty, Bool.false_eq_true, if_false, true_and]
      exact ⟨service, rfl, hgained.balanced, hgained.opened⟩

end Following

namespace Chronicle

/-- What a watch has come to after it has met what is past. -/
structure Sound (first : Following) (past : List Incident) (chronicle : Chronicle) : Prop where
  settings : chronicle.following.settings = first.settings
  latest : (first.stores :: chronicle.reloads.filterMap Except.toOption).getLast? =
    some chronicle.following.stores
  length : chronicle.reloads.length = (past.filterMap Incident.event?).length
  printed : chronicle.printed = first.announcement.map .out ++
    (List.zipWith Following.report (past.filterMap Incident.event?) chronicle.reloads).flatten
  watched : ∃ service, chronicle.following.Watched service

namespace Sound

variable {first : Following} {past : List Incident} {chronicle : Chronicle}

theorem start {service : Service} (watched : first.Watched service) :
    (Chronicle.start first).Sound first [] :=
  ⟨rfl, rfl, rfl, by simp [Chronicle.start], service, watched⟩

/-- What one incident preserves. -/
theorem meet (sound : chronicle.Sound first past) (incident : Incident) :
    (chronicle.meet incident).Sound first (past ++ [incident]) := by
  obtain ⟨service, watched⟩ := sound.watched
  cases incident with
  | change platform world now event =>
    obtain ⟨after, hafter, -⟩ := watched.handleOn platform world now event
    have hevents : (past ++ [Incident.change platform world now event]).filterMap
        Incident.event? = past.filterMap Incident.event? ++ [event] :=
      List.filterMap_append
    simp only [Chronicle.meet]
    refine ⟨?_, ?_, ?_, ?_, after, hafter⟩
    · rw [← sound.settings]
      simp only [Following.handleOn]
      rcases chronicle.following.loadOn platform world now with ⟨_ | stores, service?⟩ <;> rfl
    · rw [List.filterMap_append]
      simp only [Following.handleOn]
      rcases chronicle.following.loadOn platform world now with ⟨_ | stores, service?⟩
      · simpa [Following.resume, List.filterMap_cons, Except.toOption] using sound.latest
      · exact List.getLast?_concat (l := first.stores :: _)
    · simp [hevents, sound.length]
    · simp [hevents, sound.printed, List.zipWith_append sound.length.symm, Following.handleOn]
  | work work =>
    have hevents : (past ++ [Incident.work work]).filterMap Incident.event? =
        past.filterMap Incident.event? := by
      rw [List.filterMap_append]
      exact List.append_nil _
    exact ⟨sound.settings, sound.latest, hevents ▸ sound.length, hevents ▸ sound.printed, _,
      watched.work work⟩

/-- What a whole watch preserves. -/
theorem run (sound : chronicle.Sound first past) (future : List Incident) :
    (chronicle.run future).Sound first (past ++ future) := by
  induction future generalizing past chronicle with
  | nil => exact (List.append_nil past).symm ▸ sound
  | cons incident rest ih =>
    have hafter := ih (sound.meet incident)
    rwa [List.append_assoc, List.singleton_append] at hafter

end Sound

end Chronicle

end CredentialWatch
