import CredentialWatch.Configuration.Stages
import CredentialWatch.Proofs.Reloads

/-!
# What loads in stages come to

Stages that follow one another at once come to what a load comes to. What a stage has found so far
does not depend on the service, except for the handles; and while a load goes on with handles on all
files being open, every file that a section names is joined, and no watch is lost.
-/
namespace CredentialWatch

open Watch

variable {scene : LoadScene} {role : StoreRole} {service? : Option Service}

/-- The section of the settings for a role. -/
def Settings.store? (settings : Settings) : StoreRole → Option StoreSettings
  | .keyStore => settings.keyStore?
  | .trustStore => settings.trustStore?

/-- The store for a role. -/
def StorePair.store? (pair : StorePair) : StoreRole → Option StoreConfiguration
  | .keyStore => pair.keyStore?
  | .trustStore => pair.trustStore?

theorem StoreStage.left_ofSection_le (settings? : Option StoreSettings) :
    (StoreStage.ofSection settings?).left ≤ 3 := by
  cases settings? <;> simp [StoreStage.ofSection, StoreStage.left]

theorem StoreStage.eq_settled_of_left {stage : StoreStage} (h : stage.left = 0) :
    ∃ store?, stage = settled store? := by
  cases stage with
  | settled store? => exact ⟨store?, rfl⟩
  | named | unlocked | opened => simp [left] at h

/-- A step that succeeds leaves one step less. -/
theorem StoreStage.left_step {stage next : StoreStage} {after? : Option Service}
    (h : stage.step scene role service? = (.ok next, after?)) : next.left = stage.left - 1 := by
  cases stage with
  | settled =>
    cases h
    rfl
  | named settings =>
    simp only [StoreStage.step] at h
    split at h
    · cases h
    split at h
    · cases h
    · cases h
      rfl
  | unlocked settings provider password =>
    simp only [StoreStage.step] at h
    split at h
    · cases h
    · cases h
      rfl
  | opened =>
    cases h
    rfl

namespace LoadStage

/-- One step, with the service beside the stage. -/
def advance (scene : LoadScene) (stage : LoadStage × Option Service) : LoadStage × Option Service :=
  step scene stage.2 stage.1

theorem advance_keyStore {stage : StoreStage} (h : stage.left ≠ 0) (service? : Option Service) :
    advance scene (keyStore stage, service?) =
      match stage.step scene .keyStore service? with
      | (.error error, service?) => (ended (.error error), service?)
      | (.ok next, service?) => (keyStore next, service?) := by
  cases stage with
  | settled => exact absurd rfl h
  | named | unlocked | opened => rfl

theorem advance_trustStore {keyStore? : Option StoreConfiguration} {stage : StoreStage}
    (h : stage.left ≠ 0) (service? : Option Service) :
    advance scene (trustStore keyStore? stage, service?) =
      match stage.step scene .trustStore service? with
      | (.error error, service?) => (failed keyStore? error, service?)
      | (.ok next, service?) => (trustStore keyStore? next, service?) := by
  cases stage with
  | settled => exact absurd rfl h
  | named | unlocked | opened => rfl

theorem eq_ended_of_left {stage : LoadStage} (h : stage.left = 0) :
    ∃ outcome, stage = ended outcome := by
  cases stage with
  | ended outcome => exact ⟨outcome, rfl⟩
  | keyStore | trustStore | failed => simp [left] at h

theorem advance_ended (scene : LoadScene) {stage : LoadStage × Option Service}
    (h : stage.1.left = 0) : advance scene stage = stage := by
  obtain ⟨stage, service?⟩ := stage
  obtain ⟨outcome, rfl⟩ := eq_ended_of_left h
  rfl

theorem left_advance (scene : LoadScene) (stage : LoadStage × Option Service)
    (h : stage.1.left ≠ 0) :
    (advance scene stage).1.left < stage.1.left := by
  obtain ⟨stage, service?⟩ := stage
  cases stage with
  | keyStore stage =>
    by_cases hleft : stage.left = 0
    · obtain ⟨store?, rfl⟩ := StoreStage.eq_settled_of_left hleft
      have := StoreStage.left_ofSection_le scene.settings.trustStore?
      change (StoreStage.ofSection scene.settings.trustStore?).left + 2 < 0 + 6
      omega
    · rw [advance_keyStore hleft]
      split
      · simp [left]
      · rename_i hstep
        have := StoreStage.left_step hstep
        simp only [left]
        omega
  | trustStore keyStore? stage =>
    by_cases hleft : stage.left = 0
    · obtain ⟨store?, rfl⟩ := StoreStage.eq_settled_of_left hleft
      simp [advance, step, left]
    · rw [advance_trustStore hleft]
      split
      · simp [left]
      · rename_i hstep
        have := StoreStage.left_step hstep
        simp only [left]
        omega
  | failed => simp [advance, step, left]
  | ended => exact absurd rfl h

/-- Take all steps that are left in one scene. -/
def finish (scene : LoadScene) (stage : LoadStage × Option Service) : LoadStage × Option Service :=
  (advance scene)^[stage.1.left] stage

theorem iterate_ended {stage : LoadStage × Option Service} (h : stage.1.left = 0) (count : Nat) :
    (advance scene)^[count] stage = stage :=
  Function.iterate_fixed (advance_ended scene h) count

/-- As many steps as are left, or more, come to the end. -/
theorem left_iterate {count : Nat} {stage : LoadStage × Option Service}
    (h : stage.1.left ≤ count) : ((advance scene)^[count] stage).1.left = 0 := by
  induction count generalizing stage with
  | zero => exact Nat.le_zero.1 h
  | succ count ih =>
    rw [Function.iterate_succ_apply]
    by_cases hend : stage.1.left = 0
    · rw [advance_ended scene hend, iterate_ended hend, hend]
    · exact ih (by have := left_advance scene stage hend; omega)

/-- A step on the way does not change where it leads. -/
theorem finish_advance (stage : LoadStage × Option Service) :
    finish scene (advance scene stage) = finish scene stage := by
  by_cases hend : stage.1.left = 0
  · rw [advance_ended scene hend]
  · obtain ⟨more, hmore⟩ := Nat.exists_eq_add_of_lt (left_advance scene stage hend)
    have hcount : stage.1.left = more + (advance scene stage).1.left + 1 := by omega
    rw [finish, finish, hcount, Function.iterate_succ_apply, Function.iterate_add_apply,
      iterate_ended (left_iterate le_rfl)]

/-- Where the steps of one store lead, whatever they are part of: to what the load of its section
comes to. -/
theorem finish_section (scene : LoadScene) (role : StoreRole) (wrap : StoreStage → LoadStage)
    (fail : LoadError → LoadStage)
    (hstep : ∀ stage service?, stage.left ≠ 0 → advance scene (wrap stage, service?) =
      match stage.step scene role service? with
      | (.error error, service?) => (fail error, service?)
      | (.ok next, service?) => (wrap next, service?))
    (settings? : Option StoreSettings) (service? : Option Service) :
    finish scene (wrap (.ofSection settings?), service?) =
      match StorePair.loadSection (scene.platform role) scene.world scene.now scene.loader role
        settings? (scene.provider role) service? with
      | (.error error, service?) => finish scene (fail error, service?)
      | (.ok store?, service?) => finish scene (wrap (.settled store?), service?) := by
  cases settings? with
  | none => rfl
  | some settings =>
    have hnamed := hstep (.named settings) service? (by simp [StoreStage.left])
    simp only [StorePair.loadSection, StoreConfiguration.ofSettings, StoreStage.ofSection]
    rw [← finish_advance, hnamed]
    simp only [StoreStage.step]
    cases settings.passwordSource with
    | error cause => rfl
    | ok provider =>
      simp only [StoreConfiguration.loadOn]
      cases provider.password scene.world with
      | error cause => rfl
      | ok password =>
        have hunlocked := hstep (.unlocked settings provider password) service?
          (by simp [StoreStage.left])
        simp only [Loader.loadOn]
        rw [← finish_advance, hunlocked]
        simp only [StoreStage.step]
        cases CredentialStore.read scene.world.files scene.loader.limit settings.location? password
            (settings.storeType?.getD StoreFormat.defaultName) with
        | error cause => rfl
        | ok result =>
          obtain ⟨store, source?⟩ := result
          have hopened := hstep (.opened settings provider store source?) service?
            (by simp [StoreStage.left])
          rw [← finish_advance, hopened]
          rfl

/-- All stages in one scene come to what the load of the pair comes to. -/
theorem finish_start (scene : LoadScene) (service? : Option Service) :
    finish scene (start scene.settings, service?) =
      let loaded := StorePair.ofSettingsOn scene.platform scene.world scene.now scene.loader
        scene.settings scene.identity service?
      (ended loaded.1, loaded.2) := by
  have hkey := finish_section scene .keyStore keyStore (fun error => ended (.error error))
    (fun _ service? hleft => advance_keyStore hleft service?) scene.settings.keyStore? service?
  simp only [LoadScene.provider] at hkey
  simp only [start, hkey, StorePair.ofSettingsOn]
  generalize StorePair.loadSection (scene.platform .keyStore) scene.world scene.now scene.loader
    .keyStore scene.settings.keyStore? scene.identity service? = result
  obtain ⟨_ | keyStore?, between?⟩ := result
  · rfl
  have htrust := finish_section scene .trustStore (trustStore keyStore?) (failed keyStore?)
    (fun _ service? hleft => advance_trustStore hleft service?) scene.settings.trustStore? between?
  simp only [LoadScene.provider] at htrust
  dsimp only
  rw [← finish_advance]
  simp only [advance, step, htrust]
  generalize StorePair.loadSection (scene.platform .trustStore) scene.world scene.now scene.loader
    .trustStore scene.settings.trustStore? (scene.identity + 1) between? = result
  obtain ⟨_ | trustStore?, after?⟩ := result <;> rfl

end LoadStage

section Unwatched

/-- The scene without a clock, on a platform that observes every directory. -/
def LoadScene.quiet (scene : LoadScene) : LoadScene :=
  { scene with platform := fun _ => .willing, now := 0 }

/-- A configuration without its handle. -/
def StoreConfiguration.unwatched (configuration : StoreConfiguration) : StoreConfiguration :=
  { configuration with watch? := none }

def StorePair.unwatched (pair : StorePair) : StorePair :=
  ⟨pair.keyStore?.map StoreConfiguration.unwatched,
    pair.trustStore?.map StoreConfiguration.unwatched⟩

def StoreStage.unwatched : StoreStage → StoreStage
  | settled store? => settled (store?.map StoreConfiguration.unwatched)
  | other => other

def LoadStage.unwatched : LoadStage → LoadStage
  | keyStore stage => keyStore stage.unwatched
  | trustStore keyStore? stage =>
    trustStore (keyStore?.map StoreConfiguration.unwatched) stage.unwatched
  | failed keyStore? error => failed (keyStore?.map StoreConfiguration.unwatched) error
  | ended outcome => ended (outcome.map StorePair.unwatched)

@[simp] theorem StoreStage.unwatched_ofSection (settings? : Option StoreSettings) :
    (ofSection settings?).unwatched = ofSection settings? := by
  cases settings? <;> rfl

@[simp] theorem LoadStage.unwatched_start (settings : Settings) :
    (start settings).unwatched = start settings := by
  simp [start, unwatched]

/-- A step without a service finds the same as one with a service, but for the handle. -/
theorem StoreStage.step_unwatched (stage : StoreStage) (service? : Option Service) :
    stage.unwatched.step scene.quiet role none =
      match stage.step scene role service? with
      | (.error error, _) => (.error error, none)
      | (.ok next, _) => (.ok next.unwatched, none) := by
  cases stage with
  | settled store? => rfl
  | named settings =>
    simp only [unwatched, step, LoadScene.quiet]
    cases settings.passwordSource with
    | error cause => rfl
    | ok provider =>
      dsimp only
      cases provider.password scene.world <;> rfl
  | unlocked settings provider password =>
    simp only [unwatched, step, LoadScene.quiet]
    cases CredentialStore.read scene.world.files scene.loader.limit settings.location? password
      (settings.storeType?.getD StoreFormat.defaultName) <;> rfl
  | opened settings provider store source? => cases source? <;> rfl

theorem StorePair.release_none (pair : StorePair) : pair.release none = none := by
  obtain ⟨_ | keyStore, _ | trustStore⟩ := pair <;>
    simp [release, stores, StoreConfiguration.stopWatching]

@[simp] theorem StoreStage.left_unwatched (stage : StoreStage) :
    stage.unwatched.left = stage.left := by
  cases stage <;> rfl

theorem LoadStage.advance_unwatched (stage : LoadStage) (service? : Option Service) :
    advance scene.quiet (stage.unwatched, none) =
      ((advance scene (stage, service?)).1.unwatched, none) := by
  cases stage with
  | keyStore stage =>
    by_cases hleft : stage.left = 0
    · obtain ⟨store?, rfl⟩ := StoreStage.eq_settled_of_left hleft
      exact congrArg (fun stage => (trustStore _ stage, none))
        (StoreStage.unwatched_ofSection scene.settings.trustStore?).symm
    · rw [unwatched, advance_keyStore (by simpa using hleft), advance_keyStore hleft,
        StoreStage.step_unwatched stage service?]
      generalize stage.step scene .keyStore service? = result
      obtain ⟨_ | next, after?⟩ := result <;> rfl
  | trustStore keyStore? stage =>
    by_cases hleft : stage.left = 0
    · obtain ⟨store?, rfl⟩ := StoreStage.eq_settled_of_left hleft
      rfl
    · rw [unwatched, advance_trustStore (by simpa using hleft), advance_trustStore hleft,
        StoreStage.step_unwatched stage service?]
      generalize stage.step scene .trustStore service? = result
      obtain ⟨_ | next, after?⟩ := result <;> rfl
  | failed keyStore? error =>
    simp only [advance, step, unwatched, StorePair.release_none]
    rfl
  | ended outcome => rfl

/-- What a stage leads to without a service is the same after a step that was taken with one. -/
theorem LoadStage.finish_unwatched (scene : LoadScene) (stage : LoadStage)
    (service? : Option Service) :
    finish scene.quiet ((advance scene (stage, service?)).1.unwatched, none) =
      finish scene.quiet (stage.unwatched, none) := by
  rw [← advance_unwatched, finish_advance]

/-- What a load comes to does not depend on the service, except for the handles. -/
theorem StorePair.ofSettingsOn_unwatched (scene : LoadScene) (service? : Option Service) :
    (ofSettingsOn scene.platform scene.world scene.now scene.loader scene.settings scene.identity
        service?).1.map unwatched =
      (ofSettings scene.world 0 scene.loader scene.settings scene.identity none).1 := by
  have hsteps : ∀ count (stage : LoadStage × Option Service),
      LoadStage.finish scene.quiet
          (((LoadStage.advance scene)^[count] stage).1.unwatched, none) =
        LoadStage.finish scene.quiet (stage.1.unwatched, none) := by
    intro count
    induction count with
    | zero => exact fun _ => rfl
    | succ count ih =>
      intro stage
      rw [Function.iterate_succ_apply, ih]
      exact LoadStage.finish_unwatched scene stage.1 stage.2
  have hstart : (LoadStage.advance scene)^[(LoadStage.start scene.settings).left]
      (LoadStage.start scene.settings, service?) = _ := LoadStage.finish_start scene service?
  have hfinish := hsteps (LoadStage.start scene.settings).left
    (LoadStage.start scene.settings, service?)
  rw [hstart, LoadStage.unwatched_start] at hfinish
  exact LoadStage.ended.inj
    (congrArg Prod.fst (hfinish.trans (LoadStage.finish_start scene.quiet none)))

end Unwatched

section Handles

def StoreStage.watch? : StoreStage → Option Handle
  | settled store? => store?.bind StoreConfiguration.watch?
  | _ => none

/-- The handles that a load has been given so far. -/
def LoadStage.handles : LoadStage → List Handle
  | keyStore stage => stage.watch?.toList
  | trustStore keyStore? stage =>
    (keyStore?.bind StoreConfiguration.watch?).toList ++ stage.watch?.toList
  | failed keyStore? _ => (keyStore?.bind StoreConfiguration.watch?).toList
  | ended (.ok pair) => pair.handles
  | ended (.error _) => []

/-- The file that a section names, if it names one, is watched with a handle. -/
def IsWatched (files : FileSystem) (settings? : Option StoreSettings)
    (watch? : Option Handle) : Prop :=
  ∀ place, settings?.bind (StoreSettings.place? files) = some place →
    ∃ handle, watch? = some handle ∧ handle.place = place

/-- What a stage has found belongs to the section, whose file is watched in the end. -/
def StoreStage.Follows (files : FileSystem) (settings? : Option StoreSettings) : StoreStage → Prop
  | settled store? => IsWatched files settings? (store?.bind StoreConfiguration.watch?)
  | named settings => settings? = some settings
  | unlocked settings _ _ => settings? = some settings
  | opened settings _ _ source? => settings? = some settings ∧
      source? = settings.location?.bind fun location => (Location.resolve location).toOption

def LoadStage.Follows (files : FileSystem) (settings : Settings) : LoadStage → Prop
  | keyStore stage => stage.Follows files settings.keyStore?
  | trustStore keyStore? stage =>
    IsWatched files settings.keyStore? (keyStore?.bind StoreConfiguration.watch?) ∧
      stage.Follows files settings.trustStore?
  | failed .. => True
  | ended (.ok pair) => ∀ role,
    IsWatched files (settings.store? role) ((pair.store? role).bind StoreConfiguration.watch?)
  | ended (.error _) => True

/-- On the file that a section names, if it names one, some handle is open. -/
def Covers (handles : List Handle) (files : FileSystem) (settings? : Option StoreSettings) : Prop :=
  ∀ place, settings?.bind (StoreSettings.place? files) = some place →
    ∃ handle ∈ handles, handle.released = false ∧ handle.place = place

theorem IsWatched.congr {files files' : FileSystem} {settings? : Option StoreSettings}
    {watch? : Option Handle} (watched : IsWatched files settings? watch?)
    (hsame : settings?.bind (StoreSettings.place? files') =
      settings?.bind (StoreSettings.place? files)) : IsWatched files' settings? watch? :=
  fun place h => watched place (hsame ▸ h)

theorem StoreStage.Follows.congr {files files' : FileSystem} {settings? : Option StoreSettings}
    {stage : StoreStage} (follows : stage.Follows files settings?)
    (hsame : settings?.bind (StoreSettings.place? files') =
      settings?.bind (StoreSettings.place? files)) : stage.Follows files' settings? := by
  cases stage with
  | settled => exact IsWatched.congr follows hsame
  | named | unlocked | opened => exact follows

/-- What a load follows are the places, not what stands there. -/
theorem LoadStage.Follows.congr {files files' : FileSystem} {settings : Settings}
    {stage : LoadStage} (follows : stage.Follows files settings)
    (hsame : ∀ role, (settings.store? role).bind (StoreSettings.place? files') =
      (settings.store? role).bind (StoreSettings.place? files)) :
    stage.Follows files' settings := by
  have hkey := hsame .keyStore
  have htrust := hsame .trustStore
  cases stage with
  | keyStore stage => exact StoreStage.Follows.congr follows hkey
  | trustStore keyStore? stage =>
    exact ⟨IsWatched.congr follows.1 hkey, StoreStage.Follows.congr follows.2 htrust⟩
  | failed => trivial
  | ended outcome =>
    cases outcome with
    | error error => trivial
    | ok pair => exact fun role => (follows role).congr (hsame role)

theorem StoreStage.follows_ofSection (files : FileSystem) (settings? : Option StoreSettings) :
    (ofSection settings?).Follows files settings? := by
  cases settings? with
  | none => exact fun _ h => by cases h
  | some settings => rfl

@[simp] theorem StoreStage.watch?_ofSection (settings? : Option StoreSettings) :
    (ofSection settings?).watch? = none := by
  cases settings? <;> rfl

theorem StoreStage.watch?_of_left {stage : StoreStage} (h : stage.left ≠ 0) :
    stage.watch? = none := by
  cases stage with
  | settled => exact absurd rfl h
  | named | unlocked | opened => rfl

variable {service : Service} {handles : List Handle} {settings? : Option StoreSettings}

/-- One step of the load of a store gives out at most a handle, on the file that is named. -/
theorem StoreStage.step_spec (role : StoreRole) {stage : StoreStage}
    (balanced : service.Balanced handles)
    (covers : Covers handles scene.world.files settings?)
    (follows : stage.Follows scene.world.files settings?) (hleft : stage.left ≠ 0) :
    match stage.step scene role (some service) with
    | (.error _, after?) => after? = some service
    | (.ok next, after?) => ∃ after, after? = some after ∧
        service.Gained handles next.watch?.toList after ∧
        next.Follows scene.world.files settings? := by
  cases stage with
  | settled => exact absurd rfl hleft
  | named settings =>
    simp only [step]
    cases settings.passwordSource with
    | error cause => rfl
    | ok provider =>
      dsimp only
      cases provider.password scene.world with
      | error cause => rfl
      | ok password => exact ⟨service, rfl, .refl balanced, follows⟩
  | unlocked settings provider password =>
    simp only [step]
    cases hread : CredentialStore.read scene.world.files scene.loader.limit settings.location?
        password (settings.storeType?.getD StoreFormat.defaultName) with
    | error cause => rfl
    | ok result =>
      exact ⟨service, rfl, .refl balanced, follows, (CredentialStore.read_cases hread).1⟩
  | opened settings provider store source? =>
    obtain ⟨rfl, hsource⟩ := follows
    have hwatch := startWatch_spec balanced (scene.platform role)
      scene.world.files scene.now source?
    have hplace : (some settings).bind (StoreSettings.place? scene.world.files) =
        source?.bind fun source => (scene.world.files.find source.path).toOption.map Prod.fst := by
      rw [hsource, ← Location.bind_place?]
      rfl
    simp only [step]
    generalize Loader.startWatch (scene.platform role) scene.world.files scene.now source?
      (some service) = result at hwatch
    obtain ⟨watch?, after?⟩ := result
    obtain ⟨after, rfl, hgained, hfollows, -⟩ := hwatch
    refine ⟨after, rfl, hgained, fun place h => ?_⟩
    rw [← hplace, h] at hfollows
    cases watch? with
    | some handle => exact ⟨handle, rfl, (Option.some.inj hfollows).symm⟩
    | none =>
      obtain ⟨handle, hmem, hopen, rfl⟩ := covers place h
      have hnone := (hfollows _ rfl).1
      rw [balanced.find?_held hmem hopen] at hnone
      cases hnone

theorem Watch.Service.Balanced.continues_refl (balanced : service.Balanced handles) :
    service.Continues service :=
  (Service.Gained.refl balanced).continues balanced balanced (by simp) (.refl service)

theorem Watch.Service.Gained.continues_self {after : Service} {gained : List Handle}
    (gains : service.Gained handles gained after) (balanced : service.Balanced handles) :
    service.Continues after :=
  gains.continues balanced gains.balanced (List.Subset.refl _) (.refl after)

theorem Covers.append {files : FileSystem} (covers : Covers handles files settings?)
    (more : List Handle) : Covers (handles ++ more) files settings? := by
  intro place h
  obtain ⟨handle, hmem, hopen⟩ := covers place h
  exact ⟨handle, List.mem_append_left _ hmem, hopen⟩

/-- Stores that are watched as their sections say, with handles that are open, cover the files. -/
theorem StorePair.covers {pair : StorePair} {files : FileSystem} {settings : Settings}
    (watched : ∀ role,
      IsWatched files (settings.store? role) ((pair.store? role).bind StoreConfiguration.watch?))
    (opened : ∀ handle ∈ pair.handles, handle.released = false) (role : StoreRole) :
    Covers pair.handles files (settings.store? role) := by
  intro place h
  obtain ⟨handle, hhandle, rfl⟩ := watched role place h
  have hmem : handle ∈ pair.handles := by
    rw [handles_eq]
    cases role with
    | keyStore => exact List.mem_append_left _ (Option.mem_toList.2 hhandle)
    | trustStore => exact List.mem_append_right _ (Option.mem_toList.2 hhandle)
  exact ⟨handle, hmem, opened handle hmem, rfl⟩

/-- A file that is covered is watched. -/
theorem Covers.watched {files : FileSystem} {more : List Handle} {place : Place}
    (covers : Covers handles files settings?) (balanced : service.Balanced (handles ++ more))
    (h : settings?.bind (StoreSettings.place? files) = some place) :
    ∃ id, service.registry.watchId? place = some id := by
  obtain ⟨handle, hmem, hopen, rfl⟩ := covers place h
  exact ⟨handle.id, balanced.held handle (List.mem_append_left _ hmem) hopen⟩

/-- What one step of a load preserves, beside handles that are open on all files that are named. -/
theorem LoadStage.advance_spec (scene : LoadScene) {stage : LoadStage}
    (balanced : service.Balanced (handles ++ stage.handles))
    (opened : ∀ handle ∈ stage.handles, handle.released = false)
    (covers : ∀ role, Covers handles scene.world.files (scene.settings.store? role))
    (follows : stage.Follows scene.world.files scene.settings) :
    let next := (advance scene (stage, some service)).1
    ∃ after, (advance scene (stage, some service)).2 = some after ∧
      after.Balanced (handles ++ next.handles) ∧
      (∀ handle ∈ next.handles, handle.released = false) ∧ service.Continues after ∧
      next.Follows scene.world.files scene.settings := by
  have hself := balanced.continues_refl
  cases stage with
  | keyStore stage =>
    by_cases hleft : stage.left = 0
    · obtain ⟨store?, rfl⟩ := StoreStage.eq_settled_of_left hleft
      have hhandles : (trustStore store? (.ofSection scene.settings.trustStore?)).handles =
          (keyStore (.settled store?)).handles := by
        simp only [LoadStage.handles, StoreStage.watch?_ofSection, Option.toList_none,
          List.append_nil]
        rfl
      exact ⟨service, rfl, hhandles ▸ balanced, hhandles ▸ opened, hself, follows,
        StoreStage.follows_ofSection ..⟩
    · have hnone := StoreStage.watch?_of_left hleft
      have hbalanced : service.Balanced handles := by
        simpa [LoadStage.handles, hnone] using balanced
      have hspec := StoreStage.step_spec .keyStore hbalanced (covers .keyStore) follows
        hleft
      rw [advance_keyStore hleft]
      generalize stage.step scene .keyStore (some service) = result at hspec
      obtain ⟨_ | next, after?⟩ := result
      · subst hspec
        exact ⟨service, rfl,
          by simpa [LoadStage.handles] using hbalanced, by simp [LoadStage.handles],
          hself, trivial⟩
      · obtain ⟨after, rfl, hgained, hfollows⟩ := hspec
        exact ⟨after, rfl, hgained.balanced, hgained.opened, hgained.continues_self hbalanced,
          hfollows⟩
  | trustStore keyStore? stage =>
    obtain ⟨hkey, hstage⟩ := follows
    by_cases hleft : stage.left = 0
    · obtain ⟨store?, rfl⟩ := StoreStage.eq_settled_of_left hleft
      have hhandles : (ended (.ok ⟨keyStore?, store?⟩)).handles =
          (trustStore keyStore? (.settled store?)).handles := handles_eq _
      refine ⟨service, rfl, hhandles ▸ balanced, hhandles ▸ opened, hself, fun role => ?_⟩
      cases role with
      | keyStore => exact hkey
      | trustStore => exact hstage
    · have hnone := StoreStage.watch?_of_left hleft
      have hbalanced : service.Balanced
          (handles ++ (keyStore?.bind StoreConfiguration.watch?).toList) := by
        simpa [LoadStage.handles, hnone] using balanced
      have hopened : ∀ handle ∈ (keyStore?.bind StoreConfiguration.watch?).toList,
          handle.released = false := by
        simpa [LoadStage.handles, hnone] using opened
      have hspec := StoreStage.step_spec .trustStore hbalanced
        ((covers .trustStore).append _) hstage hleft
      rw [advance_trustStore hleft]
      generalize stage.step scene .trustStore (some service) = result at hspec
      obtain ⟨_ | next, after?⟩ := result
      · subst hspec
        exact ⟨service, rfl, hbalanced, hopened, hself, trivial⟩
      · obtain ⟨after, rfl, hgained, hfollows⟩ := hspec
        refine ⟨after, rfl, ?_, ?_, hgained.continues_self hbalanced, hkey, hfollows⟩
        · simpa [LoadStage.handles] using hgained.balanced
        · intro handle hmem
          rcases List.mem_append.1 hmem with hmem | hmem
          · exact hopened handle hmem
          · exact hgained.opened handle hmem
  | failed keyStore? error =>
    have hhandles : (⟨keyStore?, none⟩ : StorePair).handles =
        (failed keyStore? error).handles := by simp [handles_eq, LoadStage.handles]
    have hbalanced : service.Balanced
        (handles ++ ((⟨keyStore?, none⟩ : StorePair).handles ++ [])) := by
      simpa [hhandles] using balanced
    obtain ⟨after, hafter, hleft, hspares, -⟩ := release_pair hbalanced (hhandles ▸ opened)
    refine ⟨after, hafter, ?_, by simp [advance, step, LoadStage.handles], ?_, trivial⟩
    · simpa [advance, step, LoadStage.handles] using hleft
    exact (Service.Gained.refl balanced).continues balanced hleft (by simp) hspares
  | ended outcome => exact ⟨service, rfl, balanced, opened, hself, follows⟩

end Handles

end CredentialWatch
