import CredentialWatch.Configuration.Pair
import CredentialWatch.Outcome
import CredentialWatch.Proofs.OpenHandles
import CredentialWatch.Proofs.WatchRuns

/-!
# Loading and the registry of watches

A load gives out at most one handle, on the file that its location leads to, and a load that fails
gives out none. Loading a pair of stores gives out the handles of both; where the second one fails,
the handle of the first one is released, and since open handles determine the registry nothing is
left of it there.
-/
namespace CredentialWatch

/-- The file that a location leads to, if it leads to one. -/
def Location.place? (files : FileSystem) (location : String) : Option Place := do
  let source ← (resolve location).toOption
  let (place, _) ← (files.find source.path).toOption
  return place

/-- The file that a section of settings names, if it names one. -/
def StoreSettings.place? (files : FileSystem) (settings : StoreSettings) : Option Place :=
  settings.location?.bind (Location.place? files)

/-- The handles of the stores of a pair. -/
def StorePair.handles (pair : StorePair) : List Watch.Handle :=
  pair.stores.filterMap StoreConfiguration.watch?

/-- How many stores of a pair are watched on a file. -/
def StorePair.watchers (pair : StorePair) (place : Place) : Nat :=
  pair.stores.countP fun store => store.watch?.any (·.place == place)

namespace Watch.Service

/-- How the store of a file is watched: with a handle on the file. It is not watched only if it has
no file, or if the platform refuses one that was not watched before. -/
def Follows (service : Service) (platform : Platform) (place? : Option Place) :
    Option Handle → Prop
  | some handle => place? = some handle.place
  | none => ∀ place ∈ place?,
    service.registry.find? place = none ∧ (platform.refusal? place).isSome

end Watch.Service

open Watch

section Sources

theorem FileSystem.find_of_read {files : FileSystem} {path : String} {content : Bytes}
    (h : files.read path = .ok content) :
    ∃ place, files.find path = .ok (place, .file content) := by
  obtain ⟨⟨place, node⟩, hfind, h⟩ := bind_eq_ok_iff.1 h
  cases node with
  | file other =>
    obtain rfl : other = content := by simpa using h
    exact ⟨place, hfind⟩
  | directory | link | pipe | unreadable => exact absurd h throw_ne_ok

theorem Source.find_of_read {files : FileSystem} {source : Source} {limit : Duration}
    {content : Bytes} (h : source.read files limit = .ok content) :
    ∃ place, files.find source.path = .ok (place, .file content) := by
  unfold Source.read at h
  split at h
  · exact FileSystem.find_of_read h
  · cases h

/-- A store that was read is the decoded content of its source; without a location it is empty. -/
theorem CredentialStore.read_cases {files : FileSystem} {limit : Duration}
    {location? : Option String} {password : Secret} {storeType : String} {store : CredentialStore}
    {source? : Option Source}
    (h : read files limit location? password storeType = .ok (store, source?)) :
    source? = location?.bind (fun location => (Location.resolve location).toOption) ∧
      ((location? = none ∧ store = ⟨storeType, []⟩) ∨
        ∃ source format place content credentials, source? = some source ∧
          StoreFormat.ofName storeType = .ok format ∧
          files.find source.path = .ok (place, .file content) ∧
          format.decode content password.bytes = .ok credentials ∧
          store = ⟨storeType, credentials⟩) := by
  obtain ⟨format, hformat, h⟩ := bind_eq_ok_iff.1 h
  cases location? with
  | none =>
    dsimp only at h
    split at h
    · obtain ⟨_, h, -⟩ := bind_eq_ok_iff.1 h
      exact absurd h throw_ne_ok
    · cases h
      exact ⟨rfl, .inl ⟨rfl, rfl⟩⟩
  | some location =>
    obtain ⟨source, hsource, h⟩ := bind_eq_ok_iff.1 h
    obtain ⟨content, hcontent, h⟩ := bind_eq_ok_iff.1 h
    obtain ⟨credentials, hcredentials, h⟩ := bind_eq_ok_iff.1 h
    obtain ⟨place, hfind⟩ := Source.find_of_read (mapError_eq_ok_iff.1 hcontent)
    cases h
    refine ⟨?_, .inr ⟨source, format, place, content, credentials, rfl, hformat, hfind,
      hcredentials, rfl⟩⟩
    simp [mapError_eq_ok_iff.1 hsource, Except.toOption]

/-- The file that a location leads to is the one that the path of its source leads to. -/
theorem Location.bind_place? (files : FileSystem) (location? : Option String) :
    location?.bind (Location.place? files) =
      (location?.bind fun location => (Location.resolve location).toOption).bind fun source =>
        (files.find source.path).toOption.map Prod.fst := by
  cases location? with
  | none => rfl
  | some location =>
    simp only [Location.place?, Option.bind_some, Option.bind_eq_bind]
    cases (Location.resolve location).toOption with
    | none => rfl
    | some source =>
      simp only [Option.bind_some]
      cases (files.find source.path).toOption <;> rfl

end Sources

section Loads

variable {service : Service} {handles : List Handle} {platform : Platform}

/-- What a load does to a service: nothing if it fails, and if it succeeds what the start of its
watch is said to do. -/
def LoadSpec {α : Type} (service : Service) (watch? : α → Option Handle)
    (watched : Option Handle → Service → Prop) : Except LoadError α × Option Service → Prop
  | (.error _, after?) => after? = some service
  | (.ok loaded, after?) => ∃ after, after? = some after ∧ watched (watch? loaded) after

/-- What is said of a start of the watch of a file holds of the sources of some files. -/
def StartSpec (service : Service) (platform : Platform) (files : FileSystem) (now : Nat)
    (watched : Option Place → Option Handle → Service → Prop) : Prop :=
  ∀ source? : Option Source, ∃ after,
    (Loader.startWatch platform files now source? (some service)).2 = some after ∧
      watched (source?.bind fun source => (files.find source.path).toOption.map Prod.fst)
        (Loader.startWatch platform files now source? (some service)).1 after

/-- The start of a watch gives out the handle that it returns, or does nothing if it returns
none. -/
def StartsBalanced (service : Service) (handles : List Handle) (platform : Platform)
    (place? : Option Place) (watch? : Option Handle) (after : Service) : Prop :=
  service.Gained handles watch?.toList after ∧ service.Follows platform place? watch? ∧
    (watch? = none → after = service)

/-- The watch on the file of a source is joined or started, unless the platform refuses it. -/
theorem startWatch_spec (balanced : service.Balanced handles) (platform : Platform)
    (files : FileSystem) (now : Nat) :
    StartSpec service platform files now (StartsBalanced service handles platform) := by
  intro source?
  cases source? with
  | none =>
    exact ⟨service, rfl, .refl balanced, by simp [Service.Follows, Loader.startWatch], fun _ => rfl⟩
  | some source =>
    simp only [Loader.startWatch]
    cases hwatch : service.watchOn platform files source.path now with
    | error failure =>
      refine ⟨service, rfl, .refl balanced, fun place hplace => ?_, fun _ => rfl⟩
      cases hfind : files.find source.path with
      | error error => simp [hfind, Except.toOption] at hplace
      | ok found =>
        obtain rfl : found.1 = place := by simpa [hfind, Except.toOption] using hplace
        have hrefused := balanced.watchOn_error hwatch hfind
        exact ⟨hrefused.1, by simp [hrefused.2]⟩
    | ok result =>
      obtain ⟨handle, after⟩ := result
      obtain ⟨⟨node, hfind⟩, -⟩ := balanced.watchOn_spec hwatch
      exact ⟨after, rfl, .watchOn balanced hwatch,
        by simp [Service.Follows, hfind, Except.toOption],
        by simp⟩

variable {files : FileSystem} {world : World} {now : Nat}
  {watched : Option Place → Option Handle → Service → Prop}

theorem loadOn_spec (starts : StartSpec service platform files now watched) (loader : Loader)
    (location? : Option String) (password : Secret) (storeType : String) :
    LoadSpec service LoadedStore.watch? (watched (location?.bind (Location.place? files)))
      (loader.loadOn platform files now location? password storeType (some service)) := by
  unfold Loader.loadOn
  split
  · rfl
  · rename_i store source? hread
    obtain ⟨hsource, -⟩ := CredentialStore.read_cases hread
    rw [Location.bind_place?, ← hsource]
    exact starts source?

theorem configuration_spec (starts : StartSpec service platform world.files now watched)
    (loader : Loader) (role : StoreRole) (location? : Option String) (provider : PasswordProvider)
    (storeType? : Option String) :
    LoadSpec service StoreConfiguration.watch?
      (watched (location?.bind (Location.place? world.files)))
      (StoreConfiguration.loadOn platform world now loader role location? provider storeType?
        (some service)) := by
  unfold StoreConfiguration.loadOn
  split
  · rfl
  · rename_i password _
    have hload := loadOn_spec starts loader location? password
      (storeType?.getD StoreFormat.defaultName)
    dsimp only
    split
    · rename_i h
      rwa [h] at hload
    · rename_i h
      rwa [h] at hload

theorem section_spec (starts : StartSpec service platform world.files now watched)
    (loader : Loader) (role : StoreRole) (settings? : Option StoreSettings) (identity : Nat) :
    LoadSpec service (Option.bind · StoreConfiguration.watch?)
      (watched (settings?.bind (StoreSettings.place? world.files)))
      (StorePair.loadSection platform world now loader role settings? identity
        (some service)) := by
  cases settings? with
  | none =>
    obtain ⟨after, hafter, hwatched⟩ := starts none
    exact ⟨after, hafter, hwatched⟩
  | some settings =>
    simp only [StorePair.loadSection, StoreConfiguration.ofSettings]
    cases settings.passwordSource with
    | error cause => rfl
    | ok source =>
      have hload := configuration_spec starts loader role settings.location? ⟨identity, source⟩
        settings.storeType?
      dsimp only
      split
      · rename_i h
        rwa [h] at hload
      · rename_i h
        rwa [h] at hload

end Loads

section Pairs

variable {service : Service} {handles left right : List Handle}

/-- The release of the watches of some stores takes their handles out of the balance. -/
theorem release_stores {stores : List StoreConfiguration}
    (balanced : service.Balanced
      (left ++ (stores.filterMap StoreConfiguration.watch? ++ right)))
    (opened : ∀ handle ∈ stores.filterMap StoreConfiguration.watch?, handle.released = false) :
    ∃ after, stores.foldl (fun service? store => (store.stopWatching service?).2)
        (some service) = some after ∧
      after.Balanced (left ++ right) ∧ service.Spares after ∧
      after.registry.nextId = service.registry.nextId := by
  induction stores generalizing service with
  | nil => exact ⟨service, rfl, balanced, .refl service, rfl⟩
  | cons store rest ih =>
    cases hwatch : store.watch? with
    | none =>
      rw [List.filterMap_cons_none hwatch] at balanced opened
      have hstop : (store.stopWatching (some service)).2 = some service := by
        simp [StoreConfiguration.stopWatching, hwatch]
      simpa only [List.foldl_cons, hstop] using ih balanced opened
    | some handle =>
      rw [List.filterMap_cons_some hwatch] at balanced opened
      have hopen := opened handle List.mem_cons_self
      have hstop : (store.stopWatching (some service)).2 = some (service.release handle).2 := by
        simp [StoreConfiguration.stopWatching, hwatch]
      obtain ⟨after, hafter, hbalanced, hspares, hnext⟩ := ih (balanced.release_middle hopen)
        fun other h => opened other (List.mem_cons_of_mem _ h)
      refine ⟨after, ?_, hbalanced, .trans (.release service handle) hspares, ?_⟩
      · simpa only [List.foldl_cons, hstop] using hafter
      · rw [hnext, service.nextId_release]

theorem release_pair {pair : StorePair}
    (balanced : service.Balanced (left ++ (pair.handles ++ right)))
    (opened : ∀ handle ∈ pair.handles, handle.released = false) :
    ∃ after, pair.release (some service) = some after ∧ after.Balanced (left ++ right) ∧
      service.Spares after ∧ after.registry.nextId = service.registry.nextId :=
  release_stores balanced opened

/-- What loading a pair of stores does to a service, whose answer it returns: only the handles of
the pair are given out if it succeeds, and none stays open if it fails. -/
def PairSpec (service : Service) (handles : List Handle) (platform : StoreRole → Platform)
    (files : FileSystem) (settings : Settings) :
    Except LoadError StorePair × Option Service → Prop
  | (.error _, after?) => ∃ after, after? = some after ∧ after.Balanced handles ∧
      service.Spares after ∧ service.registry.nextId ≤ after.registry.nextId
  | (.ok pair, after?) => ∃ between after, after? = some after ∧
      service.Gained handles (pair.keyStore?.bind StoreConfiguration.watch?).toList between ∧
      service.Gained handles pair.handles after ∧
      service.Follows (platform .keyStore) (settings.keyStore?.bind (StoreSettings.place? files))
        (pair.keyStore?.bind StoreConfiguration.watch?) ∧
      between.Follows (platform .trustStore)
        (settings.trustStore?.bind (StoreSettings.place? files))
        (pair.trustStore?.bind StoreConfiguration.watch?)

theorem handles_eq (pair : StorePair) :
    pair.handles = (pair.keyStore?.bind StoreConfiguration.watch?).toList ++
      (pair.trustStore?.bind StoreConfiguration.watch?).toList := by
  obtain ⟨keyStore?, trustStore?⟩ := pair
  have hone : ∀ store? : Option StoreConfiguration,
      store?.toList.filterMap StoreConfiguration.watch? =
        (store?.bind StoreConfiguration.watch?).toList := by
    rintro (_ | store)
    · rfl
    · cases h : store.watch? <;> simp [h]
  simp only [StorePair.handles, StorePair.stores, List.filterMap_append, hone]

theorem pair_spec (balanced : service.Balanced handles) (platform : StoreRole → Platform)
    (world : World) (now : Nat) (loader : Loader) (settings : Settings) (identity : Nat) :
    PairSpec service handles platform world.files settings
      (StorePair.ofSettingsOn platform world now loader settings identity (some service)) := by
  unfold StorePair.ofSettingsOn
  have hkey := section_spec (startWatch_spec balanced (platform .keyStore) world.files now) loader
    .keyStore settings.keyStore? identity
  split
  · rename_i h
    rw [h] at hkey
    exact ⟨service, hkey, balanced, .refl service, le_rfl⟩
  · rename_i keyStore? between? h
    rw [h] at hkey
    obtain ⟨between, rfl, hgained, hfollows, -⟩ := hkey
    have htrust := section_spec
      (startWatch_spec hgained.balanced (platform .trustStore) world.files now) loader
      .trustStore settings.trustStore? (identity + 1)
    split
    · rename_i h
      rw [h] at htrust
      subst htrust
      have hhandles : (⟨keyStore?, none⟩ : StorePair).handles =
          (keyStore?.bind StoreConfiguration.watch?).toList := by
        simp [handles_eq]
      have hbetween : between.Balanced
          (handles ++ ((⟨keyStore?, none⟩ : StorePair).handles ++ [])) := by
        simpa [hhandles] using hgained.balanced
      obtain ⟨after, hafter, hbalanced, hspares, hnext⟩ :=
        release_pair hbetween (by simpa [hhandles] using hgained.opened)
      refine ⟨after, hafter, by simpa using hbalanced, hgained.spares.trans hspares, ?_⟩
      exact hnext ▸ hgained.nextId
    · rename_i trustStore? after? h
      rw [h] at htrust
      obtain ⟨after, rfl, hmore, hfollows', -⟩ := htrust
      refine ⟨between, after, rfl, hgained, ?_, hfollows, hfollows'⟩
      rw [handles_eq]
      exact hgained.trans hmore

theorem watchers_eq_countP (pair : StorePair) (place : Place) :
    pair.watchers place = pair.handles.countP (·.place == place) := by
  rw [StorePair.watchers, StorePair.handles, List.countP_filterMap]
  congr 1
  funext store
  cases store.watch? <;> rfl

theorem holders_handles {pair : StorePair}
    (opened : ∀ handle ∈ pair.handles, handle.released = false) (place : Place) :
    holders pair.handles place = pair.watchers place := by
  rw [watchers_eq_countP]
  exact List.countP_congr fun handle h => by simp [opened handle h]

/-- Two stores on one file are watched at a single place. -/
theorem watchedPlaces_pair {pair : StorePair} {place : Place} {left right : Handle}
    (hhandles : pair.handles = [left, right]) (hleft : left.place = place)
    (hright : right.place = place) : pair.watchedPlaces = [place] := by
  have hplaces : (pair.stores.filterMap fun store => store.watch?.map Handle.place) =
      [place, place] := by
    have hmap : (pair.stores.filterMap fun store => store.watch?.map Handle.place) =
        pair.handles.map Handle.place := by
      rw [StorePair.handles, List.map_filterMap]
    rw [hmap, hhandles, List.map_cons, List.map_cons, hleft, hright, List.map_nil]
  have hsorted : [place, place].mergeSort Place.precedes = [place, place] := by
    have hperm := List.mergeSort_perm [place, place] Place.precedes
    exact (List.perm_replicate (n := 2)).1 hperm
  rw [StorePair.watchedPlaces, hplaces, StorePair.sortedPlaces, hsorted]
  simp [List.eraseReps, List.eraseRepsBy, List.eraseRepsBy.loop]

end Pairs

section Unwatched

/-- What a load comes to that has no service: it has none afterwards, and what it loads is
unwatched. -/
def StaysUnwatched {α : Type} (unwatched : α → Prop) :
    Except LoadError α × Option Service → Prop
  | (.error _, after?) => after? = none
  | (.ok loaded, after?) => after? = none ∧ unwatched loaded

theorem loadOn_none (loader : Loader) (platform : Platform) (files : FileSystem) (now : Nat)
    (location? : Option String) (password : Secret) (storeType : String) :
    StaysUnwatched (fun loaded => loaded.watch? = none)
      (loader.loadOn platform files now location? password storeType none) := by
  unfold Loader.loadOn
  split
  · rfl
  · rename_i store source? _
    cases source? <;> exact ⟨rfl, rfl⟩

theorem section_none (platform : Platform) (world : World) (now : Nat) (loader : Loader)
    (role : StoreRole) (settings? : Option StoreSettings) (identity : Nat) :
    StaysUnwatched (fun store? => store?.bind StoreConfiguration.watch? = none)
      (StorePair.loadSection platform world now loader role settings? identity none) := by
  cases settings? with
  | none => exact ⟨rfl, rfl⟩
  | some settings =>
    simp only [StorePair.loadSection, StoreConfiguration.ofSettings]
    cases settings.passwordSource with
    | error cause => rfl
    | ok source =>
      simp only [StoreConfiguration.loadOn]
      cases source.password world with
      | error cause => rfl
      | ok password =>
        have hload := loadOn_none loader platform world.files now settings.location? password
          (settings.storeType?.getD StoreFormat.defaultName)
        dsimp only
        generalize loader.loadOn platform world.files now settings.location? password
          (settings.storeType?.getD StoreFormat.defaultName) none = result at hload
        obtain ⟨_ | loaded, after?⟩ := result
        · exact hload
        · exact hload

theorem pair_none (platform : StoreRole → Platform) (world : World) (now : Nat) (loader : Loader)
    (settings : Settings) (identity : Nat) :
    StaysUnwatched (fun pair => pair.handles = [])
      (StorePair.ofSettingsOn platform world now loader settings identity none) := by
  have hkey := section_none (platform .keyStore) world now loader .keyStore settings.keyStore?
    identity
  have htrust := section_none (platform .trustStore) world now loader .trustStore
    settings.trustStore? (identity + 1)
  simp only [StorePair.ofSettingsOn]
  generalize StorePair.loadSection (platform .keyStore) world now loader .keyStore
    settings.keyStore? identity none = result at hkey
  obtain ⟨_ | keyStore?, after?⟩ := result
  · exact hkey
  obtain ⟨rfl, hkeyStore⟩ := hkey
  dsimp only
  generalize StorePair.loadSection (platform .trustStore) world now loader .trustStore
    settings.trustStore? (identity + 1) none = result at htrust
  obtain ⟨_ | trustStore?, after?⟩ := result
  · obtain rfl := htrust
    cases keyStore? <;>
      simp [StaysUnwatched, StorePair.release, StorePair.stores, StoreConfiguration.stopWatching]
  · obtain ⟨rfl, htrustStore⟩ := htrust
    exact ⟨rfl, by simp_all [handles_eq]⟩

end Unwatched

end CredentialWatch
