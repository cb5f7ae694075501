import CredentialWatch.Proofs.LoadFaults

/-!
# Which failure a load reports

The load of a section goes step by step, and the first step with a fault ends it: it fails with the
cause of this fault and the location of the section, or does not return. Where no step has a fault,
the store holds what its file decodes to.
-/
namespace CredentialWatch

namespace StoreSettings

/-- The password that the provider of a section gives. -/
def secret (world : World) (settings : StoreSettings) : Except LoadCause Secret :=
  settings.passwordSource >>= PasswordSource.password world

/-- The store of a section, whether or not its file is watched then. -/
def store (world : World) (limit : Duration) (settings : StoreSettings) :
    Except LoadCause CredentialStore := do
  let secret ← settings.secret world
  let (store, _) ← CredentialStore.read world.files limit settings.location? secret
    settings.declaredType
  return store

/-- The store of a section, or how its load ends without one. -/
def outcome (world : World) (limit : Duration) (settings : StoreSettings) :
    Except Ending CredentialStore :=
  match settings.interruption? world limit with
  | some how => .error (.interrupted how)
  | none => (settings.store world limit).mapError .told

variable {world : World} {limit : Duration} {settings : StoreSettings} {ending other : Ending}

/-- No step below a rank has a fault. -/
def PassesBefore (world : World) (limit : Duration) (settings : StoreSettings)
    (rank : Nat) : Prop :=
  ∀ step : LoadStep, step.rank < rank → ∀ ending, ¬ Faulty world limit settings step ending

/-- How a load ends for the first step with a fault. -/
def Fails (world : World) (limit : Duration) (settings : StoreSettings) (ending : Ending) : Prop :=
  ∃ step, Faulty world limit settings step ending ∧ settings.PassesBefore world limit step.rank

/-- What the store of a section holds: nothing if it has no location, and else what its format
decodes from the content of its source. -/
inductive Holds (world : World) (limit : Duration) (settings : StoreSettings) :
    List Credential → Prop where
  | nothing (absent : settings.location? = none) : Holds world limit settings []
  | decoded {secret : Secret} {format : StoreFormat} {bytes : Bytes} {credentials : List Credential}
      (supplied : settings.Supplies world secret)
      (known : StoreFormat.ofName? settings.declaredType = some format)
      (content : settings.Reads world limit bytes)
      (accepted : format.decode bytes secret.bytes = .ok credentials) :
      Holds world limit settings credentials

theorem PassesBefore.zero : settings.PassesBefore world limit 0 :=
  fun _ h => absurd h (Nat.not_lt_zero _)

theorem PassesBefore.next {step : LoadStep} (h : settings.PassesBefore world limit step.rank)
    (sound : ∀ ending, ¬ Faulty world limit settings step ending) :
    settings.PassesBefore world limit (step.rank + 1) := by
  intro earlier hearlier
  rcases Nat.lt_succ_iff_lt_or_eq.1 hearlier with hlt | heq
  · exact h earlier hlt
  · exact LoadStep.rank_injective heq ▸ sound

theorem PassesBefore.all (h : settings.PassesBefore world limit (LoadStep.decoding.rank + 1))
    (step : LoadStep) (ending : Ending) : ¬ Faulty world limit settings step ending :=
  h step (by cases step <;> decide) ending

theorem Names.unique {source other : Source} (h : settings.Names source)
    (h' : settings.Names other) : source = other := by
  obtain ⟨location, hlocation, hresolve⟩ := h
  obtain ⟨location', hlocation', hresolve'⟩ := h'
  obtain rfl := Option.some.inj (hlocation.symm.trans hlocation')
  exact Except.ok.inj (hresolve.symm.trans hresolve')

/-- The fault of a step determines how the load ends. -/
theorem ending_unique {step : LoadStep} (h : Faulty world limit settings step ending)
    (h' : Faulty world limit settings step other) : ending = other := by
  cases step with
  | password =>
    exact Except.error.inj ((faulty_password_iff.1 h).symm.trans (faulty_password_iff.1 h'))
  | format =>
    obtain ⟨cause, hcause, rfl⟩ := faulty_format_iff.1 h
    obtain ⟨cause', hcause', rfl⟩ := faulty_format_iff.1 h'
    rw [Except.error.inj (hcause.symm.trans hcause')]
  | presence =>
    obtain ⟨-, -, rfl⟩ := faulty_presence_iff.1 h
    obtain ⟨-, -, rfl⟩ := faulty_presence_iff.1 h'
    rfl
  | resolution =>
    obtain ⟨location, error, hlocation, herror, rfl⟩ := faulty_resolution_iff.1 h
    obtain ⟨location', error', hlocation', herror', rfl⟩ := faulty_resolution_iff.1 h'
    obtain rfl := Option.some.inj (hlocation.symm.trans hlocation')
    rw [Except.error.inj (herror.symm.trans herror')]
  | reading =>
    obtain ⟨source, error, hnames, herror, rfl⟩ := faulty_reading_iff.1 h
    obtain ⟨source', error', hnames', herror', rfl⟩ := faulty_reading_iff.1 h'
    obtain rfl := hnames.unique hnames'
    rw [Except.error.inj (herror.symm.trans herror')]
  | decoding =>
    simp only [faulty_decoding_iff, reads_iff] at h h'
    obtain ⟨secret, format, bytes, hgiven, hknown, ⟨source, hnames, hread⟩, hdecoded⟩ := h
    obtain ⟨secret', format', bytes', hgiven', hknown', ⟨source', hnames', hread'⟩, hdecoded'⟩ := h'
    obtain rfl := Except.ok.inj (hgiven.symm.trans hgiven')
    obtain rfl := Option.some.inj (hknown.symm.trans hknown')
    obtain rfl := hnames.unique hnames'
    obtain rfl := Except.ok.inj (hread.symm.trans hread')
    exact Except.error.inj (hdecoded.symm.trans hdecoded')

theorem Fails.unique (h : settings.Fails world limit ending)
    (h' : settings.Fails world limit other) : ending = other := by
  obtain ⟨step, hfault, hpasses⟩ := h
  obtain ⟨step', hfault', hpasses'⟩ := h'
  rcases Nat.lt_trichotomy step.rank step'.rank with hlt | heq | hlt
  · exact absurd hfault (hpasses' step hlt ending)
  · exact ending_unique hfault (LoadStep.rank_injective heq ▸ hfault')
  · exact absurd hfault' (hpasses step' hlt other)

theorem Fails.faulty (h : settings.Fails world limit ending) :
    ∃ step ending, Faulty world limit settings step ending :=
  ⟨h.choose, ending, h.choose_spec.1⟩

/-- What the load of a section comes to: it ends for the first fault, or no step has a fault and the
store holds what it should. -/
def Settled (world : World) (limit : Duration) (settings : StoreSettings) :
    Except Ending CredentialStore → Prop
  | .error ending => settings.Fails world limit ending
  | .ok store => store.declaredType = settings.declaredType ∧
      settings.Holds world limit store.credentials ∧
      ∀ step ending, ¬ Faulty world limit settings step ending

/-- The load of a section, step by step. -/
def staged (world : World) (limit : Duration) (settings : StoreSettings) :
    Except Ending CredentialStore := do
  let secret ← settings.given world
  let format ← (StoreFormat.ofName settings.declaredType).mapError .told
  match settings.location? with
  | none =>
    if format.requiresLocation then throw (.told (.invalidConfig .locationRequired))
    return ⟨settings.declaredType, []⟩
  | some location =>
    let source ← (Location.resolve location).mapError (.told ∘ LoadCause.ofSource)
    let bytes ← (source.read world.files limit).mapError (.told ∘ LoadCause.ofSource)
    return ⟨settings.declaredType, ← format.decoded bytes secret.bytes⟩

theorem outcome_eq_staged (world : World) (limit : Duration) (settings : StoreSettings) :
    settings.outcome world limit = settings.staged world limit := by
  simp only [outcome, interruption?, store, secret, staged, given, PasswordSource.asked]
  cases settings.passwordSource with
  | error cause => rfl
  | ok source =>
    simp only [Except.mapError, Except.toOption, bind, Except.bind, Option.bind]
    cases source.interruption? world with
    | some how => rfl
    | none =>
      dsimp only
      cases source.password world with
      | error cause => rfl
      | ok secret =>
        dsimp only [declaredType]
        simp only [CredentialStore.interruption?, CredentialStore.read, bind, Except.bind,
          Option.bind, Except.mapError, Except.toOption]
        cases StoreFormat.ofName (settings.storeType?.getD StoreFormat.defaultName) with
        | error cause => rfl
        | ok format =>
          cases settings.location? with
          | none => cases format <;> rfl
          | some location =>
            dsimp only
            cases Location.resolve location with
            | error error => rfl
            | ok source =>
              dsimp only
              cases source.read world.files limit with
              | error error => rfl
              | ok bytes =>
                dsimp only [StoreFormat.decoded]
                cases format.interruption? bytes secret.bytes with
                | some how => rfl
                | none => cases format.decode bytes secret.bytes <;> rfl

section Opening

variable {secret : Secret} {format : StoreFormat}

theorem settled_of_absent (hgiven : settings.given world = .ok secret)
    (hformat : StoreFormat.ofName settings.declaredType = .ok format)
    (habsent : settings.location? = none)
    (hpasses : settings.PassesBefore world limit LoadStep.presence.rank) :
    settings.Settled world limit (settings.staged world limit) := by
  have hknown := StoreFormat.ofName_eq_ok_iff.1 hformat
  by_cases hrequired : format.requiresLocation
  · have hstaged : settings.staged world limit =
        .error (.told (.invalidConfig .locationRequired)) := by
      rw [staged, hgiven, hformat, habsent]
      exact if_pos hrequired
    rw [hstaged]
    exact ⟨.presence, faulty_presence_iff.2 ⟨⟨format, hknown, hrequired⟩, habsent, rfl⟩, hpasses⟩
  · have hstaged : settings.staged world limit = .ok ⟨settings.declaredType, []⟩ := by
      rw [staged, hgiven, hformat, habsent]
      exact if_neg hrequired
    have hpresence : settings.PassesBefore world limit LoadStep.resolution.rank := by
      refine hpasses.next fun ending hfault => ?_
      obtain ⟨⟨found, hfound, hneeded⟩, -⟩ := faulty_presence_iff.1 hfault
      obtain rfl := Option.some.inj (hknown.symm.trans hfound)
      exact hrequired hneeded
    have hresolution : settings.PassesBefore world limit LoadStep.reading.rank := by
      refine hpresence.next fun ending hfault => ?_
      obtain ⟨location, error, hlocation, -⟩ := faulty_resolution_iff.1 hfault
      cases habsent.symm.trans hlocation
    have hreading : settings.PassesBefore world limit LoadStep.decoding.rank := by
      refine hresolution.next fun ending hfault => ?_
      obtain ⟨source, error, ⟨location, hlocation, -⟩, -⟩ := faulty_reading_iff.1 hfault
      cases habsent.symm.trans hlocation
    have hdecoding : settings.PassesBefore world limit (LoadStep.decoding.rank + 1) := by
      refine hreading.next fun ending hfault => ?_
      obtain ⟨_, _, _, -, -, ⟨source, ⟨location, hlocation, -⟩, -⟩, -⟩ :=
        faulty_decoding_iff.1 hfault
      cases habsent.symm.trans hlocation
    rw [hstaged]
    exact ⟨rfl, .nothing habsent, hdecoding.all⟩

theorem settled_of_read {source : Source} {bytes : Bytes}
    (hgiven : settings.given world = .ok secret)
    (hknown : StoreFormat.ofName? settings.declaredType = some format)
    (hnames : settings.Names source) (hread : source.read world.files limit = .ok bytes)
    (hpasses : settings.PassesBefore world limit LoadStep.decoding.rank) :
    settings.Settled world limit
      ((format.decoded bytes secret.bytes).map (CredentialStore.mk settings.declaredType)) := by
  have hreads : settings.Reads world limit bytes := reads_iff.2 ⟨source, hnames, hread⟩
  cases hdecoded : format.decoded bytes secret.bytes with
  | error ending =>
    exact ⟨.decoding,
      faulty_decoding_iff.2 ⟨secret, format, bytes, hgiven, hknown, hreads, hdecoded⟩, hpasses⟩
  | ok credentials =>
    have hdecoding : settings.PassesBefore world limit (LoadStep.decoding.rank + 1) := by
      refine hpasses.next fun ending hfault => ?_
      obtain ⟨secret', format', bytes', hgiven', hknown', hreads', hfailed⟩ :=
        faulty_decoding_iff.1 hfault
      obtain rfl := Except.ok.inj (hgiven.symm.trans hgiven')
      obtain rfl := Option.some.inj (hknown.symm.trans hknown')
      obtain ⟨other, hother, hread'⟩ := reads_iff.1 hreads'
      obtain rfl := hnames.unique hother
      obtain rfl := Except.ok.inj (hread.symm.trans hread')
      cases hdecoded.symm.trans hfailed
    exact ⟨rfl, .decoded (given_eq_ok_iff.1 hgiven) hknown hreads
      (StoreFormat.decoded_eq_ok_iff.1 hdecoded).2, hdecoding.all⟩

theorem settled_of_location {location : String} (hgiven : settings.given world = .ok secret)
    (hformat : StoreFormat.ofName settings.declaredType = .ok format)
    (hlocation : settings.location? = some location)
    (hpasses : settings.PassesBefore world limit LoadStep.presence.rank) :
    settings.Settled world limit (settings.staged world limit) := by
  have hknown := StoreFormat.ofName_eq_ok_iff.1 hformat
  have hpresence : settings.PassesBefore world limit LoadStep.resolution.rank := by
    refine hpasses.next fun ending hfault => ?_
    obtain ⟨-, habsent, -⟩ := faulty_presence_iff.1 hfault
    cases habsent.symm.trans hlocation
  simp only [staged, hgiven, hformat, hlocation, Except.mapError, bind, Except.bind]
  cases hresolve : Location.resolve location with
  | error error =>
    exact ⟨.resolution, faulty_resolution_iff.2 ⟨location, error, hlocation, hresolve, rfl⟩,
      hpresence⟩
  | ok source =>
  have hnames : settings.Names source := ⟨location, hlocation, hresolve⟩
  have hresolution : settings.PassesBefore world limit LoadStep.reading.rank := by
    refine hpresence.next fun ending hfault => ?_
    obtain ⟨other, error, hother, herror, -⟩ := faulty_resolution_iff.1 hfault
    obtain rfl := Option.some.inj (hlocation.symm.trans hother)
    cases hresolve.symm.trans herror
  dsimp only
  cases hread : source.read world.files limit with
  | error error =>
    exact ⟨.reading, faulty_reading_iff.2 ⟨source, error, hnames, hread, rfl⟩, hresolution⟩
  | ok bytes =>
  have hreading : settings.PassesBefore world limit LoadStep.decoding.rank := by
    refine hresolution.next fun ending hfault => ?_
    obtain ⟨other, error, hother, herror, -⟩ := faulty_reading_iff.1 hfault
    obtain rfl := hnames.unique hother
    cases hread.symm.trans herror
  exact settled_of_read hgiven hknown hnames hread hreading

end Opening

/-- A section is loaded step by step, and the first step with a fault ends the load. -/
theorem settled_outcome (world : World) (limit : Duration) (settings : StoreSettings) :
    settings.Settled world limit (settings.outcome world limit) := by
  rw [outcome_eq_staged]
  have hzero : settings.PassesBefore world limit LoadStep.password.rank := .zero
  cases hgiven : settings.given world with
  | error ending =>
    have hstaged : settings.staged world limit = .error ending := by
      rw [staged, hgiven]
      rfl
    exact hstaged ▸ ⟨.password, faulty_password_iff.2 hgiven, hzero⟩
  | ok secret =>
  have hpassword : settings.PassesBefore world limit LoadStep.format.rank := by
    refine hzero.next fun ending hfault => ?_
    cases hgiven.symm.trans (faulty_password_iff.1 hfault)
  cases hformat : StoreFormat.ofName settings.declaredType with
  | error cause =>
    have hstaged : settings.staged world limit = .error (.told cause) := by
      rw [staged, hgiven, hformat]
      rfl
    exact hstaged ▸ ⟨.format, faulty_format_iff.2 ⟨cause, hformat, rfl⟩, hpassword⟩
  | ok format =>
  have hpasses : settings.PassesBefore world limit LoadStep.presence.rank := by
    refine hpassword.next fun ending hfault => ?_
    obtain ⟨cause, hcause, -⟩ := faulty_format_iff.1 hfault
    cases hformat.symm.trans hcause
  cases hlocation : settings.location? with
  | none => exact settled_of_absent hgiven hformat hlocation hpasses
  | some location => exact settled_of_location hgiven hformat hlocation hpasses

theorem fails_iff :
    settings.Fails world limit ending ↔ settings.outcome world limit = .error ending := by
  have hsettled := settings.settled_outcome world limit
  constructor
  · intro h
    cases houtcome : settings.outcome world limit with
    | error other =>
      rw [houtcome] at hsettled
      rw [h.unique hsettled]
    | ok store =>
      rw [houtcome] at hsettled
      obtain ⟨step, other, hfault⟩ := h.faulty
      exact absurd hfault (hsettled.2.2 step other)
  · intro h
    rwa [h] at hsettled

theorem faultless_iff :
    (∀ step ending, ¬ Faulty world limit settings step ending) ↔
      ∃ store, settings.outcome world limit = .ok store := by
  have hsettled := settings.settled_outcome world limit
  cases houtcome : settings.outcome world limit with
  | error ending =>
    rw [houtcome] at hsettled
    obtain ⟨step, other, hfault⟩ := Fails.faulty hsettled
    simp only [reduceCtorEq, exists_false, iff_false]
    exact fun h => h step other hfault
  | ok store =>
    rw [houtcome] at hsettled
    exact ⟨fun _ => ⟨store, rfl⟩, fun _ => hsettled.2.2⟩

end StoreSettings

section Sections

/-- The store of a configuration is that of its section, and a failure is told with the section's
location. -/
theorem map_store_ofSettings (platform : Watch.Platform) (world : World) (now : Nat)
    (loader : Loader) (role : StoreRole) (settings : StoreSettings) (identity : Nat)
    (service? : Option Watch.Service) :
    (StoreConfiguration.ofSettings platform world now loader role settings identity service?).1.map
        (fun configuration => (configuration.storeType, configuration.store)) =
      ((settings.store world loader.limit).map (settings.declaredType, ·)).mapError
        (LoadError.mk settings.location?) := by
  simp only [StoreConfiguration.ofSettings, StoreSettings.store, StoreSettings.secret,
    StoreSettings.declaredType, StoreConfiguration.loadOn, Loader.loadOn, bind, Except.bind]
  cases settings.passwordSource with
  | error cause => rfl
  | ok source =>
    dsimp only
    cases source.password world with
    | error cause => rfl
    | ok secret =>
      dsimp only
      cases CredentialStore.read world.files loader.limit settings.location? secret
        (settings.storeType?.getD StoreFormat.defaultName) <;> rfl

variable (platform : Watch.Platform) (world : World) (now : Nat) (loader : Loader)
  (role : StoreRole) (settings : StoreSettings) (identity : Nat) (service? : Option Watch.Service)

/-- What the load of a section comes to, however its file is watched. -/
theorem attempt_spec :
    match StoreConfiguration.attempt platform world now loader role settings identity service? with
    | .interrupted how => settings.outcome world loader.limit = .error (.interrupted how)
    | .returned (.error error, _) => error.location? = settings.location? ∧
        settings.outcome world loader.limit = .error (.told error.cause)
    | .returned (.ok configuration, _) => configuration.storeType = settings.declaredType ∧
        settings.outcome world loader.limit = .ok configuration.store := by
  have hmap := map_store_ofSettings platform world now loader role settings identity service?
  rw [StoreConfiguration.attempt, StoreSettings.outcome]
  cases settings.interruption? world loader.limit with
  | some how => rfl
  | none =>
    dsimp only
    generalize StoreConfiguration.ofSettings platform world now loader role settings identity
      service? = result at hmap ⊢
    generalize settings.store world loader.limit = store at hmap ⊢
    obtain ⟨error | configuration, after?⟩ := result <;> rcases store with cause | store
    · obtain rfl := Except.error.inj hmap
      exact ⟨rfl, rfl⟩
    · cases hmap
    · cases hmap
    · obtain ⟨htype, rfl⟩ := Prod.mk.inj (Except.ok.inj hmap)
      exact ⟨htype, rfl⟩

end Sections

/-- The load of a section, if there is one, ends without a store; the location is the section's. -/
def SectionFails (world : World) (limit : Duration) (settings? : Option StoreSettings)
    (location? : Option String) (ending : Ending) : Prop :=
  ∃ settings ∈ settings?, settings.location? = location? ∧ settings.Fails world limit ending

/-- The load of the key store ends without a store, or that of the trust store does and the key
store's does not. -/
def PairFails (world : World) (limit : Duration) (settings : Settings) (location? : Option String)
    (ending : Ending) : Prop :=
  SectionFails world limit settings.keyStore? location? ending ∨
    (∀ location? ending, ¬ SectionFails world limit settings.keyStore? location? ending) ∧
      SectionFails world limit settings.trustStore? location? ending

/-- How the load of a section ends without a store. -/
def sectionEnding? (world : World) (limit : Duration) (settings? : Option StoreSettings) :
    Option (Option String × Ending) :=
  settings?.bind fun settings =>
    match settings.outcome world limit with
    | .error ending => some (settings.location?, ending)
    | .ok _ => none

/-- A call comes to an error at a location, does not return, or returns a value. -/
def Attempt.Ends {α σ : Type} (attempt : Attempt (Except LoadError α × σ)) :
    Option (Option String × Ending) → Prop
  | some (location?, .told cause) => ∃ after, attempt = .returned (.error ⟨location?, cause⟩, after)
  | some (_, .interrupted how) => attempt = .interrupted how
  | none => ∃ value after, attempt = .returned (.ok value, after)

namespace Attempt.Ends

variable {α σ : Type} {attempt : Attempt (Except LoadError α × σ)}
  {ending? : Option (Option String × Ending)}

theorem returned_error_iff (h : attempt.Ends ending?) (error : LoadError) :
    (∃ after, attempt = .returned (.error error, after)) ↔
      ending? = some (error.location?, .told error.cause) := by
  obtain _ | ⟨location?, cause | how⟩ := ending?
  · obtain ⟨value, after, rfl⟩ := h
    simp
  · obtain ⟨after, rfl⟩ := h
    cases error
    simp
  · obtain rfl := h
    simp

theorem interrupted_iff (h : attempt.Ends ending?) (how : Interruption) :
    attempt = .interrupted how ↔ ∃ location?, ending? = some (location?, .interrupted how) := by
  obtain _ | ⟨location?, cause | other⟩ := ending?
  · obtain ⟨value, after, rfl⟩ := h
    simp
  · obtain ⟨after, rfl⟩ := h
    simp
  · obtain rfl := h
    simp

theorem returned_ok_iff (h : attempt.Ends ending?) :
    (∃ value after, attempt = .returned (.ok value, after)) ↔ ending? = none := by
  obtain _ | ⟨location?, cause | how⟩ := ending?
  · obtain ⟨value, after, rfl⟩ := h
    simp
  · obtain ⟨after, rfl⟩ := h
    simp
  · obtain rfl := h
    simp

end Attempt.Ends

section Endings

variable {world : World} {limit : Duration} {settings? : Option StoreSettings}
  {location? : Option String} {ending : Ending}

theorem sectionEnding?_eq_some_iff :
    sectionEnding? world limit settings? = some (location?, ending) ↔
      SectionFails world limit settings? location? ending := by
  simp only [sectionEnding?, SectionFails, StoreSettings.fails_iff, Option.mem_def]
  cases settings? with
  | none => simp
  | some settings => cases houtcome : settings.outcome world limit <;> simp [houtcome]

theorem sectionEnding?_eq_none_iff :
    sectionEnding? world limit settings? = none ↔
      ∀ location? ending, ¬ SectionFails world limit settings? location? ending := by
  simp [Option.eq_none_iff_forall_ne_some, ← sectionEnding?_eq_some_iff]

theorem pairEnding?_eq_some_iff {settings : Settings} :
    (sectionEnding? world limit settings.keyStore?).or
        (sectionEnding? world limit settings.trustStore?) = some (location?, ending) ↔
      PairFails world limit settings location? ending := by
  rw [Option.or_eq_some_iff, sectionEnding?_eq_some_iff, sectionEnding?_eq_none_iff,
    sectionEnding?_eq_some_iff, PairFails]

end Endings

section Attempts

variable (world : World) (now : Nat) (loader : Loader) (identity : Nat)
  (service? : Option Watch.Service)

theorem ends_attempt (platform : Watch.Platform) (role : StoreRole) (settings : StoreSettings) :
    (StoreConfiguration.attempt platform world now loader role settings identity service?).Ends
      (sectionEnding? world loader.limit (some settings)) := by
  have hspec := attempt_spec platform world now loader role settings identity service?
  simp only [sectionEnding?, Option.bind_some]
  cases hattempt : StoreConfiguration.attempt platform world now loader role settings identity
    service? with
  | interrupted how =>
    rw [hattempt] at hspec
    rw [hspec]
    rfl
  | returned result =>
    rw [hattempt] at hspec
    obtain ⟨error | configuration, after?⟩ := result
    · obtain ⟨hlocation, houtcome⟩ := hspec
      rw [houtcome, ← hlocation]
      exact ⟨after?, rfl⟩
    · rw [hspec.2]
      exact ⟨configuration, after?, rfl⟩

/-- What a section comes to in the load of a pair. -/
theorem loadSection_ending (platform : Watch.Platform) (role : StoreRole)
    (settings? : Option StoreSettings) :
    match settings?.bind (StoreSettings.interruption? world loader.limit) with
    | some how => ∃ location?,
      sectionEnding? world loader.limit settings? = some (location?, .interrupted how)
    | none =>
      match (StorePair.loadSection platform world now loader role settings?
        identity service?).1 with
      | .error error => sectionEnding? world loader.limit settings? =
          some (error.location?, .told error.cause)
      | .ok _ => sectionEnding? world loader.limit settings? = none := by
  cases settings? with
  | none => rfl
  | some settings =>
    have hends := ends_attempt world now loader identity service? platform role settings
    simp only [StoreConfiguration.attempt] at hends
    rw [Option.bind_some]
    cases hhow : settings.interruption? world loader.limit with
    | some how =>
      rw [hhow] at hends
      exact (hends.interrupted_iff how).1 rfl
    | none =>
      rw [hhow] at hends
      dsimp only [StorePair.loadSection] at hends ⊢
      generalize StoreConfiguration.ofSettings platform world now loader role settings identity
        service? = result at hends
      obtain ⟨error | configuration, after?⟩ := result
      · exact (hends.returned_error_iff error).1 ⟨after?, rfl⟩
      · exact hends.returned_ok_iff.1 ⟨configuration, after?, rfl⟩

theorem ends_attempt_pair (platform : StoreRole → Watch.Platform) (settings : Settings) :
    (StorePair.attempt platform world now loader settings identity service?).Ends
      ((sectionEnding? world loader.limit settings.keyStore?).or
        (sectionEnding? world loader.limit settings.trustStore?)) := by
  have hkey := loadSection_ending world now loader identity service? (platform .keyStore) .keyStore
    settings.keyStore?
  rw [StorePair.attempt]
  cases hhow : settings.keyStore?.bind (StoreSettings.interruption? world loader.limit) with
  | some how =>
    rw [hhow] at hkey
    obtain ⟨location?, hending⟩ := hkey
    rw [hending]
    rfl
  | none =>
  rw [hhow] at hkey
  rw [StorePair.ofSettingsOn]
  dsimp only at hkey ⊢
  generalize StorePair.loadSection (platform .keyStore) world now loader .keyStore
    settings.keyStore? identity service? = result at hkey ⊢
  obtain ⟨error | keyStore?, between?⟩ := result
  · rw [hkey]
    exact ⟨between?, rfl⟩
  have htrust := loadSection_ending world now loader (identity + 1) between?
    (platform .trustStore) .trustStore settings.trustStore?
  rw [hkey, Option.none_or]
  cases hstuck : settings.trustStore?.bind (StoreSettings.interruption? world loader.limit) with
  | some how =>
    rw [hstuck] at htrust
    obtain ⟨location?, hending⟩ := htrust
    rw [hending]
    rfl
  | none =>
  rw [hstuck] at htrust
  dsimp only at htrust ⊢
  generalize StorePair.loadSection (platform .trustStore) world now loader .trustStore
    settings.trustStore? (identity + 1) between? = result at htrust ⊢
  obtain ⟨error | trustStore?, after?⟩ := result
  · rw [htrust]
    exact ⟨_, rfl⟩
  · rw [htrust]
    exact ⟨_, _, rfl⟩

end Attempts

/-- The load of a section ends without a store exactly for the fault of the first step that has one:
it fails with the cause of this fault, and is told with the location that the section gives, or it
does not return. It succeeds exactly if no step has a fault. The store then bears the type as it is
written, and holds what its format decodes from the content of its file with the password that the
section comes with, or nothing if there is no location. Of two sections the failure of the key store
is told, and that of the trust store only if the load of the key store succeeds. -/
theorem loads_fail_at_first_fault (world : World) (now : Nat) (loader : Loader) (identity : Nat)
    (service? : Option Watch.Service) :
    (∀ platform role settings,
      let attempt :=
        StoreConfiguration.attempt platform world now loader role settings identity service?
      (∀ error, (∃ after, attempt = .returned (.error error, after)) ↔
        error.location? = settings.location? ∧
          settings.Fails world loader.limit (.told error.cause)) ∧
      (∀ how, attempt = .interrupted how ↔
        settings.Fails world loader.limit (.interrupted how)) ∧
      ((∃ configuration after, attempt = .returned (.ok configuration, after)) ↔
        ∀ step ending, ¬ Faulty world loader.limit settings step ending) ∧
      ∀ configuration after, attempt = .returned (.ok configuration, after) →
        configuration.storeType = settings.declaredType ∧
        configuration.store.declaredType = settings.declaredType ∧
        settings.Holds world loader.limit configuration.store.credentials) ∧
    ∀ platform settings,
      let attempt := StorePair.attempt platform world now loader settings identity service?
      (∀ error, (∃ after, attempt = .returned (.error error, after)) ↔
        PairFails world loader.limit settings error.location? (.told error.cause)) ∧
      (∀ how, attempt = .interrupted how ↔
        ∃ location?, PairFails world loader.limit settings location? (.interrupted how)) ∧
      ((∃ pair after, attempt = .returned (.ok pair, after)) ↔
        ∀ location? ending, ¬ PairFails world loader.limit settings location? ending) := by
  constructor
  · intro platform role settings attempt
    have hends := ends_attempt world now loader identity service? platform role settings
    refine ⟨fun error => ?_, fun how => ?_, ?_, fun configuration after hattempt => ?_⟩
    · rw [hends.returned_error_iff, sectionEnding?_eq_some_iff]
      simp [SectionFails, eq_comm]
    · rw [hends.interrupted_iff]
      simp [sectionEnding?_eq_some_iff, SectionFails]
    · rw [hends.returned_ok_iff, StoreSettings.faultless_iff, sectionEnding?, Option.bind_some]
      cases settings.outcome world loader.limit <;> simp
    · have hspec := attempt_spec platform world now loader role settings identity service?
      have hsettled := settings.settled_outcome world loader.limit
      simp only [attempt] at hattempt
      rw [hattempt] at hspec
      obtain ⟨htype, houtcome⟩ := hspec
      rw [houtcome] at hsettled
      exact ⟨htype, hsettled.1, hsettled.2.1⟩
  · intro platform settings attempt
    have hends := ends_attempt_pair world now loader identity service? platform settings
    refine ⟨fun error => ?_, fun how => ?_, ?_⟩
    · rw [hends.returned_error_iff, pairEnding?_eq_some_iff]
    · rw [hends.interrupted_iff]
      simp only [pairEnding?_eq_some_iff]
    · rw [hends.returned_ok_iff, Option.eq_none_iff_forall_ne_some]
      simp [← pairEnding?_eq_some_iff]

/-- A file with a certificate and a directory as the stores of two sections: the first one is
loaded, the second one fails since a directory cannot be read. -/
theorem file_loaded_and_directory_refused :
    let text := Text.Utf8.encode
      "-----BEGIN CERTIFICATE-----\nAA==\n-----END CERTIFICATE-----\n"
    let world : World := ⟨⟨[(["a.pem"], .file text), (["d"], .directory)], [], []⟩, []⟩
    let file : StoreSettings := ⟨some "/a.pem", some "pem", none, none, none⟩
    let directory : StoreSettings := ⟨some "/d", none, some "secret", none, none⟩
    let load (settings : StoreSettings) :=
      StoreConfiguration.attempt .willing world 0 ⟨⟨1000⟩⟩ .keyStore settings 0 none
    (∃ configuration after, load file = .returned (.ok configuration, after) ∧
      file.Holds world ⟨1000⟩ configuration.store.credentials) ∧
    (∃ after, load directory =
      .returned (.error ⟨some "/d", .io (.system .isDirectory)⟩, after)) ∧
    ∃ after, StorePair.attempt (fun _ => .willing) world 0 ⟨⟨1000⟩⟩
        { Settings.standard with keyStore? := some file, trustStore? := some directory } 0 none =
      .returned (.error ⟨some "/d", .io (.system .isDirectory)⟩, after) := by
  intro text world file directory load
  obtain ⟨hsections, hpairs⟩ := loads_fail_at_first_fault world 0 ⟨⟨1000⟩⟩ 0 none
  have hfaultless : ∀ step ending, ¬ Faulty world ⟨1000⟩ file step ending :=
    StoreSettings.faultless_iff.2
      ⟨⟨"pem", [⟨"cert-0", .trusted [0], none⟩]⟩, by decide +kernel⟩
  have hfails : directory.Fails world ⟨1000⟩ (.told (.io (.system .isDirectory))) :=
    StoreSettings.fails_iff.2 (by decide +kernel)
  refine ⟨?_, ?_, ?_⟩
  · obtain ⟨-, -, hloaded, hholds⟩ := hsections .willing .keyStore file
    obtain ⟨configuration, after, hload⟩ := hloaded.2 hfaultless
    exact ⟨configuration, after, hload, (hholds configuration after hload).2.2⟩
  · exact ((hsections .willing .keyStore directory).1 _).2 ⟨rfl, hfails⟩
  · refine ((hpairs (fun _ => .willing) _).1 ⟨some "/d", _⟩).2 (.inr ⟨?_, ?_⟩)
    · rintro location? ending ⟨settings, hsettings, -, hending⟩
      obtain rfl : file = settings := Option.some.inj hsettings
      obtain ⟨step, other, hfault⟩ := hending.faulty
      exact hfaultless step other hfault
    · exact ⟨directory, rfl, rfl, hfails⟩

/-- An archive with a password that has a NUL, and a pipe for a password file: neither load returns,
so that there is no cause. -/
theorem interrupted_loads_have_no_cause :
    let archive := Asn1.encodeSequence [Asn1.encodeUnsigned 3,
      Asn1.encodeSequence [Asn1.encodeObjectIdentifier (Archive.contentKind 1)]]
    let world : World := ⟨⟨[(["a.p12"], .file archive), (["p"], .pipe)], [], []⟩, []⟩
    let load (password? passwordFile? : Option String) :=
      StoreConfiguration.attempt .willing world 0 ⟨⟨1000⟩⟩ .keyStore
        ⟨some "/a.p12", some "PKCS12", password?, none, passwordFile?⟩ 0 none
    load (some "a\x00b") none = .interrupted .panicked ∧
      load none (some "/p") = .interrupted .blocked := by
  intro archive world load
  have hpanicked : StoreSettings.interruption? world ⟨1000⟩
      ⟨some "/a.p12", some "PKCS12", some "a\x00b", none, none⟩ = some .panicked := by
    decide +kernel
  have hblocked : StoreSettings.interruption? world ⟨1000⟩
      ⟨some "/a.p12", some "PKCS12", none, none, some "/p"⟩ = some .blocked := by
    decide +kernel
  simp only [load, StoreConfiguration.attempt, hpanicked, hblocked, and_self]

end CredentialWatch
