import CredentialWatch.Proofs.Loading
import CredentialWatch.Proofs.Publishers

/-!
# Loads are atomic

Whatever has happened to a service, failures of the platform included, a file has at most one entry
whose watch has not ended. A handle that is given out joins this entry, or starts a watch in the
place of an entry whose watch has failed and which its task has not forgotten yet. So a load changes
the counts of the files that it watches and of no others, and a pair that cannot be loaded leaves
nothing behind; only an entry that was dead already may be gone.
-/
namespace CredentialWatch

open Watch

namespace Watch.Service

/-- How many handles hold the watch of a file that has not ended. -/
def currentReferences (service : Service) (place : Place) : Nat :=
  ((service.current? place).map Entry.references).getD 0

/-- What a service is after it has given out so many further handles on each file. A file on which
none was given out is as it was. Any other one has a watch that has not ended: the one it had, or a
new one. -/
structure Raised (before after : Service) (gained : Place → Nat) : Prop where
  nextId : before.registry.nextId ≤ after.registry.nextId
  spared : ∀ place, gained place = 0 →
    after.registry.find? place = before.registry.find? place ∧
      after.current? place = before.current? place
  raised : ∀ place, gained place ≠ 0 → ∃ id,
    after.current? place =
      some ⟨place, id, before.currentReferences place + gained place⟩ ∧
    (∀ entry ∈ before.current? place, entry.id = id) ∧
    (before.current? place = none → before.registry.nextId ≤ id)

/-- One handle on a file, and none on any other. -/
def single (watch? : Option Handle) (place : Place) : Nat :=
  if watch?.any (·.place == place) then 1 else 0

namespace Raised

variable {first second third : Service} {gained more : Place → Nat}

theorem refl (service : Service) : service.Raised service fun _ => 0 :=
  ⟨le_rfl, fun _ _ => ⟨rfl, rfl⟩, fun _ h => absurd rfl h⟩

theorem congr (raised : first.Raised second gained) (h : ∀ place, more place = gained place) :
    first.Raised second more := by
  obtain rfl : more = gained := funext h
  exact raised

theorem currentReferences_eq (raised : first.Raised second gained) (place : Place) :
    second.currentReferences place = first.currentReferences place + gained place := by
  by_cases h : gained place = 0
  · rw [currentReferences, (raised.spared place h).2, h]
    rfl
  · obtain ⟨id, hcurrent, -⟩ := raised.raised place h
    rw [currentReferences, hcurrent]
    rfl

theorem current?_eq_none (raised : first.Raised second gained) {place : Place}
    (h : second.current? place = none) : first.current? place = none := by
  by_cases hgained : gained place = 0
  · exact (raised.spared place hgained).2.symm.trans h
  · obtain ⟨id, hcurrent, -⟩ := raised.raised place hgained
    cases hcurrent.symm.trans h

theorem trans (left : first.Raised second gained) (right : second.Raised third more) :
    first.Raised third fun place => gained place + more place := by
  refine ⟨left.nextId.trans right.nextId, fun place h => ?_, fun place h => ?_⟩
  · obtain ⟨hgained, hmore⟩ := Nat.add_eq_zero_iff.1 h
    obtain ⟨hfind, hcurrent⟩ := left.spared place hgained
    obtain ⟨hfind', hcurrent'⟩ := right.spared place hmore
    exact ⟨hfind'.trans hfind, hcurrent'.trans hcurrent⟩
  · by_cases hmore : more place = 0
    · have hgained : gained place ≠ 0 := by omega
      obtain ⟨id, hcurrent, hkept, hfresh⟩ := left.raised place hgained
      refine ⟨id, ?_, hkept, hfresh⟩
      rw [(right.spared place hmore).2, hcurrent, hmore]
      rfl
    · obtain ⟨id, hcurrent, hkept, hfresh⟩ := right.raised place hmore
      refine ⟨id, ?_, ?_, ?_⟩
      · rw [hcurrent, left.currentReferences_eq, Nat.add_assoc]
      · by_cases hgained : gained place = 0
        · rwa [(left.spared place hgained).2] at hkept
        · obtain ⟨id', hcurrent', hkept', -⟩ := left.raised place hgained
          obtain rfl : id' = id := hkept _ hcurrent'
          exact hkept'
      · intro hnone
        by_cases hgained : gained place = 0
        · rw [← (left.spared place hgained).2] at hnone
          exact left.nextId.trans (hfresh hnone)
        · obtain ⟨id', hcurrent', -, hfresh'⟩ := left.raised place hgained
          obtain rfl : id' = id := hkept _ hcurrent'
          exact hfresh' hnone

end Raised

/-- How the store of a file is watched: with a handle on the file. It is not watched only if it has
no file, or if the platform refuses one that has no watch, or only one that has ended. -/
def Serves (service : Service) (platform : Platform) (place? : Option Place) :
    Option Handle → Prop
  | some handle => place? = some handle.place
  | none => ∀ place ∈ place?,
    service.current? place = none ∧ (platform.refusal? place).isSome

theorem Raised.serves {before after : Service} {gained : Place → Nat}
    (raised : before.Raised after gained) {platform : Platform} {place? : Option Place}
    {watch? : Option Handle} (serves : after.Serves platform place? watch?) :
    before.Serves platform place? watch? := by
  cases watch? with
  | some handle => exact serves
  | none =>
    intro place hplace
    obtain ⟨hnone, hrefused⟩ := serves place hplace
    exact ⟨raised.current?_eq_none hnone, hrefused⟩

/-- An entry whose watch has ended is one of a watch that has failed. -/
theorem Orderly.current?_cases {service : Service} {handles : List Handle}
    (orderly : service.Orderly handles) {place : Place} {entry : Entry}
    (hentry : service.registry.find? place = some entry) :
    service.current? place = some entry ∨
      service.current? place = none ∧ service.taskState entry.id = .failed := by
  obtain ⟨task, htask, hid, -, hstop⟩ := orderly.served place entry.id
    (Registry.watchId?_eq_some_iff.2 ⟨entry, hentry, rfl⟩)
  have hstate : service.taskState entry.id = task.state := by
    rw [taskState, ← hid, task?_of_mem orderly.ids htask]
    rfl
  by_cases hended : task.state.isTerminal
  · refine .inr ⟨by simp [current?, hentry, hstate, hended], ?_⟩
    by_contra hfailed
    rw [hstate] at hfailed
    exact orderly.running task htask ⟨hstop, hfailed⟩ hended
  · exact .inl (by simp [current?, hentry, hstate, hended])

section WatchOn

variable {service after : Service} {handles : List Handle} {platform : Platform}
  {files : FileSystem} {path : String} {now : Nat} {handle : Handle}

theorem current?_join (service : Service) (place other : Place) :
    current? { service with registry := service.registry.join place } other =
      if other = place then
        (service.current? other).map fun entry => { entry with references := entry.references + 1 }
      else service.current? other := by
  simp only [current?, Registry.find?_join]
  split
  · cases service.registry.find? other with
    | none => rfl
    | some entry =>
      simp only [Option.map_some, Option.filter_some, taskState, task?]
      split <;> rfl
  · rfl

/-- A service that has started a watch of a file. -/
def started (service : Service) (place : Place) (now : Nat) : Service :=
  { service with
    registry := (service.registry.enter place).2
    tasks := service.tasks ++
      [Task.start service.registry.nextId place service.debounce.millis now] }

theorem taskState_started (service : Service) (place : Place) (now : Nat) {id : Nat}
    (hid : id ≠ service.registry.nextId) :
    (service.started place now).taskState id = service.taskState id := by
  have hother : ¬ (Task.start service.registry.nextId place service.debounce.millis now).id = id :=
    fun h => hid h.symm
  simp [taskState, task?, started, List.find?_append, hother]

namespace Orderly

theorem taskState_nextId (orderly : service.Orderly handles) (place : Place) (now : Nat) :
    (service.started place now).taskState service.registry.nextId = .watching := by
  have hnone : service.tasks.find? (·.id == service.registry.nextId) = none := by
    refine List.find?_eq_none.2 fun task htask => ?_
    have hbelow := orderly.below task htask
    simp only [beq_iff_eq]
    omega
  simp [taskState, task?, started, List.find?_append, hnone, Task.start]

theorem id_ne_nextId (orderly : service.Orderly handles) {place : Place} {entry : Entry}
    (hentry : service.registry.find? place = some entry) : entry.id ≠ service.registry.nextId := by
  obtain ⟨task, htask, hid, -⟩ := orderly.served place entry.id
    (Registry.watchId?_eq_some_iff.2 ⟨entry, hentry, rfl⟩)
  have hbelow := orderly.below task htask
  omega

theorem current?_started (orderly : service.Orderly handles) (place other : Place) (now : Nat) :
    (service.started place now).current? other =
      if other = place then some ⟨place, service.registry.nextId, 1⟩
      else service.current? other := by
  have hfind : (service.started place now).registry.find? other =
      if other = place then some ⟨place, service.registry.nextId, 1⟩
      else service.registry.find? other := Registry.find?_enter ..
  rw [current?, hfind]
  split
  · simp [orderly.taskState_nextId, State.isTerminal]
  · rw [current?]
    cases hentry : service.registry.find? other with
    | none => rfl
    | some entry =>
      rw [Option.filter_some, Option.filter_some,
        taskState_started service place now (orderly.id_ne_nextId hentry)]

/-- A handle that is given out raises the count of its file by one. -/
theorem raised_watchOn (orderly : service.Orderly handles)
    (h : service.watchOn platform files path now = .ok (handle, after)) :
    service.Raised after (single (some handle)) := by
  have hsingle : ∀ place other : Place, ∀ id,
      single (some ⟨place, id, false⟩) other = if other = place then 1 else 0 := by
    intro place other id
    by_cases hother : other = place
    · simp [single, hother]
    · simp [single, hother, Ne.symm hother]
  obtain ⟨place, node, -, ⟨entry, hcurrent, rfl, rfl⟩ | ⟨hfree, -, rfl, rfl⟩⟩ :=
    Service.watchOn_cases h
  · have hplace := Registry.place_of_find? (find?_of_current? hcurrent)
    refine ⟨le_rfl, fun other hzero => ?_, fun other hone => ?_⟩
    · have hother : other ≠ place := by
        rintro rfl
        simp [hsingle] at hzero
      rw [current?_join, if_neg hother]
      exact ⟨by simp [hother], rfl⟩
    · obtain rfl : other = place := by
        by_contra hother
        simp [hsingle, hother] at hone
      refine ⟨entry.id, ?_, ?_, ?_⟩
      · simp [current?_join, hcurrent, hsingle, currentReferences, hplace]
      · intro found hfound
        rw [Option.mem_def.1 hfound] at hcurrent
        rw [Option.some.inj hcurrent]
      · intro hnone
        cases hnone.symm.trans hcurrent
  · change service.Raised (service.started place now) _
    refine ⟨Nat.le_succ _, fun other hzero => ?_, fun other hone => ?_⟩
    · have hother : other ≠ place := by
        rintro rfl
        simp [hsingle] at hzero
      rw [orderly.current?_started, if_neg hother]
      exact ⟨by simp [started, hother], rfl⟩
    · obtain rfl : other = place := by
        by_contra hother
        simp [hsingle, hother] at hone
      refine ⟨service.registry.nextId, ?_, ?_, fun _ => le_rfl⟩
      · simp [orderly.current?_started, hfree, hsingle, currentReferences]
      · intro found hfound
        cases hfree.symm.trans hfound

/-- What the release of a handle leaves that has just been given out: the registry is as it was,
unless the handle started a watch in the place of an entry whose watch had ended. -/
theorem find?_release_watchOn (orderly : service.Orderly handles)
    (h : service.watchOn platform files path now = .ok (handle, after)) (place : Place) :
    (after.release handle).2.registry.find? place = service.registry.find? place ∨
      place = handle.place ∧ service.current? place = none ∧
        (after.release handle).2.registry.find? place = none := by
  have hregistry : ∀ registry : Registry, ∀ gone,
      after.registry.release handle.place handle.id = (gone, registry) → handle.released = false →
        (after.release handle).2.registry = registry := by
    intro registry gone hrelease hopen
    cases gone <;> simp [Service.release, hopen, hrelease, modifyTask]
  obtain ⟨found, node, -, ⟨entry, hcurrent, rfl, rfl⟩ | ⟨hfree, -, rfl, rfl⟩⟩ :=
    Service.watchOn_cases h
  · have hentry := find?_of_current? hcurrent
    obtain ⟨-, hpos⟩ := orderly.counted found entry hentry
    let joined : Entry := { entry with references := entry.references + 1 }
    have hshared : ¬ joined.references ≤ 1 := by
      show ¬ entry.references + 1 ≤ 1
      omega
    have hjoined : (service.registry.join found).find? found = some joined := by
      simp [hentry, joined]
    have hrelease := Registry.release_shared hjoined hshared
    refine .inl ?_
    rw [hregistry _ _ hrelease rfl]
    by_cases hplace : place = found
    · subst hplace
      simp [hentry]
    · simp [hplace]
  · have hentered : (service.registry.enter found).2.find? found =
        some ⟨found, service.registry.nextId, 1⟩ := by
      simp
    rw [hregistry _ _ (Registry.release_last hentered le_rfl) rfl]
    by_cases hplace : place = found
    · subst hplace
      exact .inr ⟨rfl, hfree, by simp⟩
    · exact .inl (by simp [hplace])

end Orderly

end WatchOn

end Watch.Service

section Loads

variable {service : Service} {handles : List Handle}

/-- The start of a watch gives out the handle that it returns, or does nothing if it returns none.
If the handle is released at once, only an entry that was dead before may be gone. -/
structure StartsCurrent (service : Service) (handles : List Handle) (platform : Platform)
    (place? : Option Place) (watch? : Option Handle) (after : Service) : Prop where
  orderly : after.Orderly (handles ++ watch?.toList)
  raised : service.Raised after (Service.single watch?)
  serves : service.Serves platform place? watch?
  unwatched : watch? = none → after = service
  undone : ∀ handle ∈ watch?, ∀ place,
    (after.release handle).2.registry.find? place = service.registry.find? place ∨
      place = handle.place ∧ service.current? place = none ∧
        (after.release handle).2.registry.find? place = none

theorem StartsCurrent.of_none (orderly : service.Orderly handles) {platform : Platform}
    {place? : Option Place} (serves : service.Serves platform place? none) :
    StartsCurrent service handles platform place? none service where
  orderly := by simpa using orderly
  raised := .refl service
  serves := serves
  unwatched := fun _ => rfl
  undone := by simp

/-- The watch on the file of a source is joined or started, unless the platform refuses it. -/
theorem startWatch_current (orderly : service.Orderly handles) (platform : Platform)
    (files : FileSystem) (now : Nat) :
    StartSpec service platform files now (StartsCurrent service handles platform) := by
  intro source?
  cases source? with
  | none => exact ⟨service, rfl, .of_none orderly (by simp [Service.Serves])⟩
  | some source =>
    simp only [Loader.startWatch]
    cases hwatch : service.watchOn platform files source.path now with
    | error failure =>
      refine ⟨service, rfl, .of_none orderly fun place hplace => ?_⟩
      cases hfind : files.find source.path with
      | error error => simp [hfind, Except.toOption] at hplace
      | ok found =>
        obtain rfl : found.1 = place := by simpa [hfind, Except.toOption] using hplace
        have hrefused := Service.watchOn_error hwatch hfind
        exact ⟨hrefused.1, by simp [hrefused.2]⟩
    | ok result =>
      obtain ⟨handle, after⟩ := result
      obtain ⟨place, node, hfind, hcase⟩ := Service.watchOn_cases hwatch
      have hplace : place = handle.place := by
        obtain ⟨entry, -, rfl, -⟩ | ⟨-, -, rfl, -⟩ := hcase <;> rfl
      refine ⟨after, rfl, orderly.watchOn hwatch, orderly.raised_watchOn hwatch, ?_, by simp, ?_⟩
      · simp [Service.Serves, hfind, Except.toOption, hplace]
      · intro given hgiven
        obtain rfl : handle = given := by simpa using hgiven
        exact orderly.find?_release_watchOn hwatch

/-- What loading a pair of stores does to a service: it watches the files of both if it succeeds;
and if it fails, only an entry of the key store's file that was dead before may be gone. -/
def PairAtomic (service : Service) (platform : StoreRole → Platform) (files : FileSystem)
    (settings : Settings) : Except LoadError StorePair × Option Service → Prop
  | (.error _, after?) => ∃ after, after? = some after ∧
      service.registry.nextId ≤ after.registry.nextId ∧
      ∀ place, after.registry.find? place = service.registry.find? place ∨
        settings.keyStore?.bind (StoreSettings.place? files) = some place ∧
          service.current? place = none ∧ after.registry.find? place = none
  | (.ok pair, after?) => ∃ between after, after? = some after ∧
      service.Raised between (Service.single (pair.keyStore?.bind StoreConfiguration.watch?)) ∧
      between.Raised after (Service.single (pair.trustStore?.bind StoreConfiguration.watch?)) ∧
      service.Serves (platform .keyStore) (settings.keyStore?.bind (StoreSettings.place? files))
        (pair.keyStore?.bind StoreConfiguration.watch?) ∧
      between.Serves (platform .trustStore)
        (settings.trustStore?.bind (StoreSettings.place? files))
        (pair.trustStore?.bind StoreConfiguration.watch?)

/-- The release of a store that has just been loaded. -/
theorem StartsCurrent.find?_release {platform : Platform} {place? : Option Place}
    {keyStore? : Option StoreConfiguration} {after : Service}
    (starts : StartsCurrent service handles platform place?
      (keyStore?.bind StoreConfiguration.watch?) after) :
    ∃ released, (⟨keyStore?, none⟩ : StorePair).release (some after) = some released ∧
      released.registry.nextId = after.registry.nextId ∧
      ∀ place, released.registry.find? place = service.registry.find? place ∨
        place? = some place ∧ service.current? place = none ∧
          released.registry.find? place = none := by
  cases hwatch : keyStore?.bind StoreConfiguration.watch? with
  | none =>
    refine ⟨after, ?_, rfl, fun place => .inl (by rw [starts.unwatched hwatch])⟩
    cases keyStore? with
    | none => rfl
    | some store =>
      have hnone : store.watch? = none := hwatch
      simp [StorePair.release, StorePair.stores, StoreConfiguration.stopWatching, hnone]
  | some handle =>
    obtain ⟨store, rfl, hstore⟩ := Option.bind_eq_some_iff.1 hwatch
    refine ⟨(after.release handle).2, ?_, after.nextId_release handle, fun place => ?_⟩
    · simp [StorePair.release, StorePair.stores, StoreConfiguration.stopWatching, hstore]
    · have hserves := starts.serves
      rw [hwatch] at hserves
      refine (starts.undone handle hwatch place).imp_right ?_
      rintro ⟨rfl, hdead⟩
      exact ⟨hserves, hdead⟩

theorem pair_atomic (orderly : service.Orderly handles) (platform : StoreRole → Platform)
    (world : World) (now : Nat) (loader : Loader) (settings : Settings) (identity : Nat) :
    PairAtomic service platform world.files settings
      (StorePair.ofSettingsOn platform world now loader settings identity (some service)) := by
  unfold StorePair.ofSettingsOn
  have hkey := section_spec (startWatch_current orderly (platform .keyStore) world.files now) loader
    .keyStore settings.keyStore? identity
  split
  · rename_i h
    rw [h] at hkey
    exact ⟨service, hkey, le_rfl, fun place => .inl rfl⟩
  · rename_i keyStore? between? h
    rw [h] at hkey
    obtain ⟨between, rfl, starts⟩ := hkey
    have htrust := section_spec
      (startWatch_current starts.orderly (platform .trustStore) world.files now) loader
      .trustStore settings.trustStore? (identity + 1)
    split
    · rename_i h
      rw [h] at htrust
      subst htrust
      obtain ⟨released, hreleased, hnext, hfind⟩ := starts.find?_release
      exact ⟨released, hreleased, hnext ▸ starts.raised.nextId, hfind⟩
    · rename_i trustStore? after? h
      rw [h] at htrust
      obtain ⟨after, rfl, starts'⟩ := htrust
      exact ⟨between, after, rfl, starts.raised, starts'.raised, starts.serves, starts'.serves⟩

/-- The stores of a pair that are watched on a file. -/
theorem watchers_eq (pair : StorePair) (place : Place) :
    pair.watchers place =
      Service.single (pair.keyStore?.bind StoreConfiguration.watch?) place +
        Service.single (pair.trustStore?.bind StoreConfiguration.watch?) place := by
  obtain ⟨keyStore?, trustStore?⟩ := pair
  have hone : ∀ store? : Option StoreConfiguration,
      store?.toList.countP (fun store => store.watch?.any (·.place == place)) =
        Service.single (store?.bind StoreConfiguration.watch?) place := by
    rintro (_ | store)
    · rfl
    · simp [Service.single, List.countP_cons]
  rw [StorePair.watchers, StorePair.stores, List.countP_append, hone, hone]

/-- When a pair is loaded whose stores are on one file, a handle for each of them is given out on
it. -/
theorem handles_of_one_file {between : Service} {platform : StoreRole → Platform} {place : Place}
    {pair : StorePair}
    (raised : service.Raised between
      (Service.single (pair.keyStore?.bind StoreConfiguration.watch?)))
    (hkey : service.Serves (platform .keyStore) (some place)
      (pair.keyStore?.bind StoreConfiguration.watch?))
    (htrust : between.Serves (platform .trustStore) (some place)
      (pair.trustStore?.bind StoreConfiguration.watch?))
    (hwilling : (platform .keyStore).refusal? place = none) :
    ∃ left right, pair.handles = [left, right] ∧ left.place = place ∧ right.place = place := by
  cases hleft : pair.keyStore?.bind StoreConfiguration.watch? with
  | none =>
    rw [hleft] at hkey
    simpa [hwilling] using (hkey place rfl).2
  | some left =>
    rw [hleft] at hkey raised
    obtain rfl : place = left.place := Option.some.inj hkey
    cases hright : pair.trustStore?.bind StoreConfiguration.watch? with
    | none =>
      rw [hright] at htrust
      obtain ⟨id, hcurrent, -⟩ := raised.raised left.place (by simp [Service.single])
      cases (htrust left.place rfl).1.symm.trans hcurrent
    | some right =>
      rw [hright] at htrust
      refine ⟨left, right, ?_, rfl, (Option.some.inj htrust).symm⟩
      rw [handles_eq, hleft, hright]
      rfl

end Loads

/-- Whatever has happened to a service, failures of the platform included, a load that fails leaves
the registry of watches as it was, be it of a single store or of a pair of which the first store had
already been watched; only the entry of a watch that has failed and is not forgotten yet, on the
file of that first store, may be gone. A load that succeeds raises the count of its file by one, or
changes nothing if its file cannot be watched; a pair raises the count of each file by the number of
its stores that are watched on it, so that two sections that name one file, however they spell it,
raise one count by two. The count that is raised is that of the watch that has not ended: where
there is none, or only one that has failed, it begins with nothing, under a number that no watch has
had. Where the platform has not failed, every entry is one of a watch that has not ended. Without a
service nothing is watched. -/
theorem loads_are_atomic (debounce : Duration) (past : List Occurrence) :
    let service := ((Record.start debounce).run past).usage.service
    let registry := service.registry
    (∀ place entry, registry.find? place = some entry →
      service.current? place = some entry ∨
        service.current? place = none ∧ service.taskState entry.id = .failed) ∧
    ((∀ id, .failure id ∉ past) → ∀ place, service.current? place = registry.find? place) ∧
    (∀ loader platform files now location? password storeType,
      match Loader.loadOn loader platform files now location? password storeType
        (some service) with
      | (.error _, after?) => after? = some service
      | (.ok loaded, after?) => ∃ after, after? = some after ∧
          service.Serves platform (location?.bind (Location.place? files)) loaded.watch? ∧
          service.Raised after (Service.single loaded.watch?) ∧
          (loaded.watch? = none → after = service)) ∧
    (∀ platform world now loader settings identity,
      let key? := settings.keyStore?.bind (StoreSettings.place? world.files)
      let trust? := settings.trustStore?.bind (StoreSettings.place? world.files)
      match StorePair.ofSettingsOn platform world now loader settings identity (some service) with
      | (.error _, after?) => ∃ after, after? = some after ∧
          registry.nextId ≤ after.registry.nextId ∧
          ∀ place, after.registry.find? place = registry.find? place ∨
            key? = some place ∧ service.current? place = none ∧
              after.registry.find? place = none
      | (.ok pair, after?) => ∃ after, after? = some after ∧
          service.Serves (platform .keyStore) key?
            (pair.keyStore?.bind StoreConfiguration.watch?) ∧
          service.Serves (platform .trustStore) trust?
            (pair.trustStore?.bind StoreConfiguration.watch?) ∧
          service.Raised after pair.watchers ∧
          ∀ place, key? = some place → trust? = some place →
            (platform .keyStore).refusal? place = none →
            after.currentReferences place = service.currentReferences place + 2 ∧
              pair.watchedPlaces = [place]) ∧
    (∀ loader platform files now location? password storeType,
      StaysUnwatched (fun loaded => loaded.watch? = none)
        (Loader.loadOn loader platform files now location? password storeType none)) ∧
    (∀ platform world now loader settings identity,
      StaysUnwatched (fun pair => pair.handles = [])
        (StorePair.ofSettingsOn platform world now loader settings identity none)) := by
  intro service registry
  have faithful : ((Record.start debounce).run past).Faithful :=
    (Record.Faithful.start debounce).run past
  have orderly : service.Orderly ((Record.start debounce).run past).usage.handles :=
    faithful.orderly
  refine ⟨fun place entry => orderly.current?_cases, ?_, ?_, ?_, loadOn_none, pair_none⟩
  · intro hsound place
    have hstart : (Record.start debounce).usage.Balanced := Service.balanced_start debounce
    have balanced : service.Balanced ((Record.start debounce).run past).usage.handles :=
      Record.balanced_run hstart hsound
    exact balanced.current?_eq place
  · intro loader platform files now location? password storeType
    have hload := loadOn_spec (startWatch_current orderly platform files now) loader location?
      password storeType
    generalize loader.loadOn platform files now location? password storeType (some service) =
      result at hload
    obtain ⟨_ | loaded, after?⟩ := result
    · exact hload
    · obtain ⟨after, rfl, starts⟩ := hload
      exact ⟨after, rfl, starts.serves, starts.raised, starts.unwatched⟩
  · intro platform world now loader settings identity key? trust?
    have hpair := pair_atomic orderly platform world now loader settings identity
    generalize StorePair.ofSettingsOn platform world now loader settings identity (some service) =
      result at hpair
    obtain ⟨_ | pair, after?⟩ := result
    · exact hpair
    · obtain ⟨between, after, rfl, hfirst, hsecond, hkey, htrust⟩ := hpair
      have hraised : service.Raised after pair.watchers :=
        (hfirst.trans hsecond).congr (watchers_eq pair)
      refine ⟨after, rfl, hkey, hfirst.serves htrust, hraised, ?_⟩
      intro place hkeyPlace htrustPlace hwilling
      obtain ⟨left, right, hhandles, hleft, hright⟩ := handles_of_one_file hfirst
        (hkeyPlace ▸ hkey) (htrustPlace ▸ htrust) hwilling
      refine ⟨?_, watchedPlaces_pair hhandles hleft hright⟩
      rw [hraised.currentReferences_eq, watchers_eq_countP, hhandles]
      simp [hleft, hright]

/-- A watch has failed and its task has not left yet. A pair whose key store is on its file and
whose trust store is missing takes its entry away, and a load of the store alone puts an entry with
one handle in its place. -/
theorem failed_watch_replaced :
    let certificate := "-----BEGIN CERTIFICATE-----\nAA==\n-----END CERTIFICATE-----\n"
    let world : World := ⟨⟨[(["a.pem"], .file certificate.toUTF8.toList)], [], []⟩, []⟩
    let watch : Move := .watch .willing world.files "/a.pem" 0
    let past : List Occurrence :=
      [.move watch, .move watch, .failure 1, .move (.poll 1 0)]
    let service := ((Record.start ⟨500⟩).run past).usage.service
    let store (path : String) : Option StoreSettings := some ⟨path, "PEM", none, none, none⟩
    let settings := { Settings.standard with
      keyStore? := store "/a.pem", trustStore? := store "/b.pem" }
    let loader : Loader := ⟨⟨1000⟩⟩
    let pair := StorePair.ofSettingsOn (fun _ => .willing) world 0 loader settings 0 (some service)
    let single := loader.loadOn .willing world.files 0 (some "/a.pem") ⟨[]⟩ "PEM" (some service)
    service.registry.find? ["a.pem"] = some ⟨["a.pem"], 1, 2⟩ ∧
      pair.1.toBool = false ∧
      pair.2.map (fun after => after.registry.find? ["a.pem"]) = some none ∧
      single.1.toBool = true ∧
      single.2.map (fun after => after.registry.find? ["a.pem"]) =
        some (some ⟨["a.pem"], 2, 1⟩) := by
  decide +kernel

end CredentialWatch
