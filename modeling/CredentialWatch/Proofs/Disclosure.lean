import CredentialWatch.Command.Run
import CredentialWatch.Proofs.KeystoreFile
import CredentialWatch.Proofs.Loading

/-!
# What reports disclose

A report on stores is made from their summaries, and a summary from the outlines of credentials:
alias, kind, number of certificates and time. So keys, certificates and passwords bear on it only as
far as they decide whether a store can be loaded. A keystore refuses all passwords that are texts
but wrong with one and the same error, and a text that shows a value says of a password only that
there is one.
-/
namespace CredentialWatch

section Outlines

/-- What a report says of a credential. -/
structure Credential.Outline where
  name : String
  isKey : Bool
  certificates : Nat
  created : Option Instant
  deriving DecidableEq, Repr

def Credential.outline (credential : Credential) : Credential.Outline :=
  ⟨credential.name, credential.isKey, credential.certificates.length, credential.created⟩

/-- The outlines of the credentials of a store, in its order. -/
def StoreConfiguration.outlines (configuration : StoreConfiguration) : List Credential.Outline :=
  configuration.store.credentials.map Credential.outline

/-- The outlines of both stores of a pair, as far as they are there. -/
def StorePair.outlines (pair : StorePair) :
    Option (List Credential.Outline) × Option (List Credential.Outline) :=
  (pair.keyStore?.map StoreConfiguration.outlines, pair.trustStore?.map StoreConfiguration.outlines)

/-- Where a section says that its store is, and of which type. -/
def StoreSettings.target (settings : StoreSettings) : Option String × Option String :=
  (settings.location?, settings.storeType?)

/-- The targets of both sections, as far as they are there. -/
def Settings.targets (settings : Settings) :
    Option (Option String × Option String) × Option (Option String × Option String) :=
  (settings.keyStore?.map StoreSettings.target, settings.trustStore?.map StoreSettings.target)

/-- The line of a summary that an outline gives. -/
def Credential.Outline.entry (outline : Credential.Outline) : Report.EntrySummary :=
  ⟨outline.name, outline.isKey, outline.certificates, outline.created.map Instant.text⟩

theorem StoreConfiguration.entries_summary (configuration : StoreConfiguration) :
    configuration.summary.entries = configuration.outlines.map Credential.Outline.entry := by
  simp only [summary, outlines, List.map_map]
  rfl

end Outlines

section Reports

variable {world : World} {now : Nat} {loader : Loader} {role : StoreRole}

/-- The summary of a store that is loaded without being watched. -/
theorem section_summary {platform : Watch.Platform} {settings : StoreSettings} {identity : Nat}
    {store? : Option StoreConfiguration}
    (h : (StorePair.loadSection platform world now loader role (some settings) identity none).1 =
      .ok store?) :
    ∃ store, store? = some store ∧
      store.summary = ⟨role.name, settings.location?,
        settings.storeType?.getD StoreFormat.defaultName, none,
        store.outlines.map Credential.Outline.entry⟩ := by
  simp only [StorePair.loadSection, StoreConfiguration.ofSettings] at h
  cases hsource : settings.passwordSource with
  | error cause => simp [hsource] at h
  | ok source =>
    simp only [hsource, StoreConfiguration.loadOn] at h
    cases hpassword : source.password world with
    | error cause => simp [hpassword] at h
    | ok password =>
      simp only [hpassword] at h
      have hload := loadOn_none loader platform world.files now settings.location? password
        (settings.storeType?.getD StoreFormat.defaultName)
      generalize loader.loadOn platform world.files now settings.location? password
        (settings.storeType?.getD StoreFormat.defaultName) none = result at h hload
      obtain ⟨_ | loaded, after?⟩ := result
      · simp at h
      · obtain ⟨-, hunwatched⟩ := hload
        obtain rfl := Except.ok.inj h
        refine ⟨_, rfl, ?_⟩
        rw [← StoreConfiguration.entries_summary]
        simp [StoreConfiguration.summary, StoreConfiguration.watchedPath?, hunwatched]

/-- Two sections with one target give the same summary when their stores have the same outlines. -/
theorem section_summary_eq {world' : World} {loader' : Loader} {left? right? : Option StoreSettings}
    {identity : Nat} {platform : Watch.Platform} {store? store'? : Option StoreConfiguration}
    (hleft : (StorePair.loadSection platform world now loader role left? identity none).1 =
      .ok store?)
    (hright : (StorePair.loadSection platform world' now loader' role right? identity none).1 =
      .ok store'?)
    (htargets : left?.map StoreSettings.target = right?.map StoreSettings.target)
    (houtlines : store?.map StoreConfiguration.outlines =
      store'?.map StoreConfiguration.outlines) :
    store?.map StoreConfiguration.summary = store'?.map StoreConfiguration.summary := by
  cases left? with
  | none =>
    obtain rfl := Option.map_eq_none_iff.1 htargets.symm
    obtain rfl := Except.ok.inj hleft
    obtain rfl := Except.ok.inj hright
    rfl
  | some left =>
    obtain ⟨right, rfl, htarget⟩ := Option.map_eq_some_iff.1 htargets.symm
    obtain ⟨store, rfl, hsummary⟩ := section_summary hleft
    obtain ⟨store', rfl, hsummary'⟩ := section_summary hright
    obtain ⟨hlocation, htype⟩ := Prod.mk.inj htarget
    have hsame : store.outlines = store'.outlines := Option.some.inj houtlines
    simp only [Option.map_some, hsummary, hsummary', hlocation, htype, hsame]

/-- The stores of a pair that is loaded without being watched are those of its two sections. -/
theorem ofSettings_none {settings : Settings} {pair : StorePair}
    (h : (StorePair.ofSettings world now loader settings 0 none).1 = .ok pair) :
    (StorePair.loadSection .willing world now loader .keyStore settings.keyStore? 0 none).1 =
        .ok pair.keyStore? ∧
      (StorePair.loadSection .willing world now loader .trustStore settings.trustStore? 1 none).1 =
        .ok pair.trustStore? := by
  have hkey := section_none .willing world now loader .keyStore settings.keyStore? 0
  simp only [StorePair.ofSettings, StorePair.ofSettingsOn] at h
  generalize StorePair.loadSection .willing world now loader .keyStore settings.keyStore? 0 none =
    result at h hkey
  obtain ⟨_ | keyStore?, after?⟩ := result
  · simp at h
  obtain ⟨rfl, -⟩ := hkey
  dsimp only at h ⊢
  generalize StorePair.loadSection .willing world now loader .trustStore settings.trustStore? 1
    none = result at h
  obtain ⟨_ | trustStore?, after?⟩ := result
  · simp at h
  · obtain rfl := Except.ok.inj h
    exact ⟨rfl, rfl⟩

/-- What an inspection of the settings at a path finds: these settings, and the stores loaded from
them. -/
structure Inspected (world : World) (path : String) (settings : Settings) (pair : StorePair) :
    Prop where
  settings_eq : Settings.load world.files path = .ok settings
  pair_eq : (StorePair.ofSettings world 0 ⟨settings.loading.timeout⟩ settings 0 none).1 = .ok pair

theorem Inspected.inspect_eq {path : String} {settings : Settings} {pair : StorePair}
    (inspected : Inspected world path settings pair) (json : Bool) :
    inspect world path json = .ok (pair.report path json) := by
  have hpair := inspected.pair_eq
  simp only [inspect, inspected.settings_eq, Except.mapError, bind, Except.bind, hpair]
  rfl

/-- Inspecting succeeds exactly if it finds settings and their stores, which it then reports. -/
theorem inspect_eq_ok_iff {path : String} {json : Bool} {output : String} :
    inspect world path json = .ok output ↔
      ∃ settings pair, Inspected world path settings pair ∧ output = pair.report path json := by
  constructor
  · intro h
    obtain ⟨settings, hsettings, h⟩ := bind_eq_ok_iff.1 h
    obtain ⟨pair, hpair, h⟩ := bind_eq_ok_iff.1 h
    rw [mapError_eq_ok_iff] at hsettings hpair
    exact ⟨settings, pair, ⟨hsettings, hpair⟩, (pure_eq_ok_iff.1 h).symm⟩
  · rintro ⟨settings, pair, inspected, rfl⟩
    exact inspected.inspect_eq json

/-- A report is made from the summaries of the stores. -/
theorem report_eq_of_summaries_eq {left right : StorePair}
    (h : left.stores.map StoreConfiguration.summary = right.stores.map StoreConfiguration.summary)
    (path : String) (json : Bool) : left.report path json = right.report path json := by
  simp only [StorePair.report, h]

end Reports

section Refusals

/-- A keystore is refused for its structure, whatever the password, or for its digest. -/
theorem Keystore.decode_error_eq {bytes : Bytes} {left right : String} {defect defect' : Defect}
    (hleft : decode bytes (Text.Utf8.encode left) = .error defect)
    (hright : decode bytes (Text.Utf8.encode right) = .error defect') : defect = defect' := by
  have htext : ∀ text, passwordText (Text.Utf8.encode text) = .ok text := fun text =>
    passwordText_eq_ok_iff.2 rfl
  simp only [decode, decodeContents, htext] at hleft hright
  cases hcut : cut bytes with
  | error found =>
    rw [hcut] at hleft hright
    cases hleft
    cases hright
    rfl
  | ok parts =>
    obtain ⟨body, closing⟩ := parts
    cases hbody : readContents body with
    | error found =>
      simp only [hcut, hbody, bind, Except.bind] at hleft hright
      cases hleft
      cases hright
      rfl
    | ok contents =>
      simp only [hcut, hbody, bind, Except.bind] at hleft hright
      split at hleft
      · cases hleft
      split at hright
      · cases hright
      cases hleft
      cases hright
      rfl

variable {files : FileSystem} {location? : Option String} {left right storeType : String}

/-- The stages in which reading a store at a location can fail. -/
theorem CredentialStore.read_eq_error_iff {limit : Duration} {location : String} {password : Secret}
    {format : StoreFormat} {cause : LoadCause}
    (hformat : StoreFormat.ofName storeType = .ok format) :
    read files limit (some location) password storeType = .error cause ↔
      (Location.resolve location).mapError LoadCause.ofSource = .error cause ∨
        ∃ source, Location.resolve location = .ok source ∧
          ((source.read files limit).mapError LoadCause.ofSource = .error cause ∨
            ∃ bytes, source.read files limit = .ok bytes ∧
              format.decode bytes password.bytes = .error cause) := by
  have hpure : ∀ (credentials : List Credential) (source : Source),
      (pure (⟨storeType, credentials⟩, some source) :
        Except LoadCause (CredentialStore × Option Source)) ≠ .error cause := by
    intro credentials source h
    cases h
  have hread : read files limit (some location) password storeType =
      (Location.resolve location).mapError LoadCause.ofSource >>= fun source =>
        (source.read files limit).mapError LoadCause.ofSource >>= fun bytes =>
          format.decode bytes password.bytes >>= fun credentials =>
            pure (⟨storeType, credentials⟩, some source) := by
    simp only [read, hformat]
    rfl
  simp only [hread, bind_eq_error_iff, mapError_eq_ok_iff, hpure, and_false, exists_false, or_false]

theorem CredentialStore.read_error_eq {limit : Duration} {cause cause' : LoadCause}
    (htype : StoreFormat.ofName? storeType = some .keystore)
    (hleft : read files limit location? (.ofText left) storeType = .error cause)
    (hright : read files limit location? (.ofText right) storeType = .error cause') :
    cause = cause' := by
  have hformat : StoreFormat.ofName storeType = .ok .keystore := by
    rw [StoreFormat.ofName, htype]
  cases location? with
  | none =>
    simp only [read, hformat, bind, Except.bind] at hleft hright
    exact Except.error.inj (hleft.symm.trans hright)
  | some location =>
    rw [read_eq_error_iff hformat] at hleft hright
    obtain hleft | ⟨source, hsource, hleft⟩ := hleft <;>
      obtain hright | ⟨source', hsource', hright⟩ := hright
    · exact Except.error.inj (hleft.symm.trans hright)
    · simp [hsource', Except.mapError] at hleft
    · simp [hsource, Except.mapError] at hright
    obtain rfl : source = source' := Except.ok.inj (hsource.symm.trans hsource')
    obtain hleft | ⟨bytes, hbytes, hleft⟩ := hleft <;>
      obtain hright | ⟨bytes', hbytes', hright⟩ := hright
    · exact Except.error.inj (hleft.symm.trans hright)
    · simp [hbytes', Except.mapError] at hleft
    · simp [hbytes, Except.mapError] at hright
    obtain rfl : bytes = bytes' := Except.ok.inj (hbytes.symm.trans hbytes')
    obtain ⟨defect, hdefect, rfl⟩ := mapError_eq_error_iff.1 hleft
    obtain ⟨defect', hdefect', rfl⟩ := mapError_eq_error_iff.1 hright
    rw [Keystore.decode_error_eq hdefect hdefect']

/-- A load of a keystore that fails for two passwords that are texts fails with one error. -/
theorem Loader.error_eq {loader : Loader} {platform : Watch.Platform} {now : Nat}
    {service? : Option Watch.Service} {error error' : LoadError}
    (htype : StoreFormat.ofName? storeType = some .keystore)
    (hleft : (loader.loadOn platform files now location? (.ofText left) storeType service?).1 =
      .error error)
    (hright : (loader.loadOn platform files now location? (.ofText right) storeType service?).1 =
      .error error') : error = error' := by
  have hcause : ∀ text error,
      (loader.loadOn platform files now location? (.ofText text) storeType service?).1 =
        .error error →
      ∃ cause, CredentialStore.read files loader.limit location? (.ofText text) storeType =
        .error cause ∧ error = ⟨location?, cause⟩ := by
    intro text error h
    unfold loadOn at h
    split at h
    · rename_i cause hread
      cases h
      exact ⟨cause, hread, rfl⟩
    · cases h
  obtain ⟨cause, hread, rfl⟩ := hcause left error hleft
  obtain ⟨cause', hread', rfl⟩ := hcause right error' hright
  rw [CredentialStore.read_error_eq htype hread hread']

end Refusals

section Masks

/-- A section with any password replaced by the empty one. -/
def StoreSettings.masked (settings : StoreSettings) : StoreSettings :=
  { settings with password? := settings.password?.map fun _ => "" }

def Settings.masked (settings : Settings) : Settings :=
  { settings with
    keyStore? := settings.keyStore?.map StoreSettings.masked
    trustStore? := settings.trustStore?.map StoreSettings.masked }

/-- A source of passwords with a password that is given directly replaced by the empty one. -/
def PasswordSource.masked : PasswordSource → PasswordSource
  | memory _ => memory .empty
  | other => other

def StoreConfiguration.masked (configuration : StoreConfiguration) : StoreConfiguration :=
  { configuration with
    provider := { configuration.provider with source := configuration.provider.source.masked } }

@[simp] theorem StoreSettings.shown_masked (settings : StoreSettings) :
    settings.masked.shown = settings.shown := by
  simp [shown, masked, Function.comp_def]

@[simp] theorem Settings.shown_masked (settings : Settings) :
    settings.masked.shown = settings.shown := by
  simp [shown, masked, Function.comp_def]

@[simp] theorem PasswordSource.shown_masked (source : PasswordSource) :
    source.masked.shown = source.shown := by
  cases source <;> rfl

@[simp] theorem StoreConfiguration.shown_masked (service? : Option Watch.Service)
    (configuration : StoreConfiguration) :
    configuration.masked.shown service? = configuration.shown service? := by
  simp [shown, masked]

end Masks

/-- Two inspections of one path, of settings with the same targets but any passwords, report the
same if the stores that they find have the same outlines. Two passwords that are texts and with
which a keystore cannot be loaded are refused with one error. What is shown of settings, of a source
of passwords or of a configuration does not depend on a password that is given directly. -/
theorem secrets_not_disclosed :
    (∀ left right path leftSettings rightSettings leftPair rightPair,
      Inspected left path leftSettings leftPair → Inspected right path rightSettings rightPair →
      leftSettings.targets = rightSettings.targets → leftPair.outlines = rightPair.outlines →
      ∀ json, ∃ output,
        inspect left path json = .ok output ∧ inspect right path json = .ok output) ∧
    (∀ bytes left right cause cause',
      StoreFormat.keystore.decode bytes (Text.Utf8.encode left) = .error cause →
      StoreFormat.keystore.decode bytes (Text.Utf8.encode right) = .error cause' →
      cause = cause') ∧
    (∀ loader platform files now location? left right storeType service? error error',
      StoreFormat.ofName? storeType = some .keystore →
      (Loader.loadOn loader platform files now location? (.ofText left) storeType service?).1 =
        .error error →
      (Loader.loadOn loader platform files now location? (.ofText right) storeType service?).1 =
        .error error' →
      error = error') ∧
    (∀ left right : Settings, left.masked = right.masked → left.shown = right.shown) ∧
    (∀ left right : PasswordSource, left.masked = right.masked → left.shown = right.shown) ∧
    ∀ (service? : Option Watch.Service) (left right : StoreConfiguration),
      left.masked = right.masked → left.shown service? = right.shown service? := by
  refine ⟨?_, ?_, ?_, ?_, ?_, ?_⟩
  · intro left right path leftSettings rightSettings leftPair rightPair hleft hright htargets
      houtlines json
    obtain ⟨hkeyTargets, htrustTargets⟩ := Prod.mk.inj htargets
    obtain ⟨hkeyOutlines, htrustOutlines⟩ := Prod.mk.inj houtlines
    obtain ⟨hleftKey, hleftTrust⟩ := ofSettings_none hleft.pair_eq
    obtain ⟨hrightKey, hrightTrust⟩ := ofSettings_none hright.pair_eq
    have hkey := section_summary_eq hleftKey hrightKey hkeyTargets hkeyOutlines
    have htrust := section_summary_eq hleftTrust hrightTrust htrustTargets htrustOutlines
    have hsummaries : leftPair.stores.map StoreConfiguration.summary =
        rightPair.stores.map StoreConfiguration.summary := by
      simp only [StorePair.stores, List.map_append, ← Option.toList_map, hkey, htrust]
    refine ⟨leftPair.report path json, hleft.inspect_eq json, ?_⟩
    rw [report_eq_of_summaries_eq hsummaries]
    exact hright.inspect_eq json
  · intro bytes left right cause cause' hleft hright
    obtain ⟨defect, hdefect, rfl⟩ := mapError_eq_error_iff.1 hleft
    obtain ⟨defect', hdefect', rfl⟩ := mapError_eq_error_iff.1 hright
    rw [Keystore.decode_error_eq hdefect hdefect']
  · intro loader platform files now location? left right storeType service? error error'
    exact Loader.error_eq
  · intro left right h
    rw [← left.shown_masked, h, right.shown_masked]
  · intro left right h
    rw [← left.shown_masked, h, right.shown_masked]
  · intro service? left right h
    rw [← left.shown_masked service?, h, right.shown_masked service?]

/-- What bears on a report: the targets of the settings and the outlines of the stores. -/
structure Findings where
  targets : Option (Option String × Option String) × Option (Option String × Option String)
  outlines : Option (List Credential.Outline) × Option (List Credential.Outline)
  deriving DecidableEq, Repr

/-- What an inspection finds, if it succeeds. -/
def findings (world : World) (path : String) : Option Findings :=
  match Settings.load world.files path with
  | .error _ => none
  | .ok settings =>
    match (StorePair.ofSettings world 0 ⟨settings.loading.timeout⟩ settings 0 none).1 with
    | .error _ => none
    | .ok pair => some ⟨settings.targets, pair.outlines⟩

theorem findings_eq_some {world : World} {path : String} {found : Findings}
    (h : findings world path = some found) :
    ∃ settings pair, Inspected world path settings pair ∧
      settings.targets = found.targets ∧ pair.outlines = found.outlines := by
  unfold findings at h
  split at h
  · cases h
  rename_i settings hsettings
  split at h
  · cases h
  rename_i pair hpair
  obtain rfl := Option.some.inj h
  exact ⟨settings, pair, ⟨hsettings, hpair⟩, rfl, rfl⟩

/-- A world with settings for a key store in PEM text, and with the body of its only certificate. -/
def certificateWorld (password body : String) (environment : List (String × Bytes)) : World :=
  let settings := "[key_store]\nlocation = \"/a.pem\"\ntype = \"PEM\"\n" ++ password
  let certificate :=
    "-----BEGIN CERTIFICATE-----\n" ++ body ++ "\n-----END CERTIFICATE-----\n"
  ⟨⟨[(["s.toml"], .file (Text.Utf8.encode settings)),
    (["a.pem"], .file (Text.Utf8.encode certificate))], [], []⟩, environment⟩

/-- Another certificate, opened with another password from another source, is reported alike. -/
theorem other_certificate_reported_alike :
    ∃ output,
      inspect (certificateWorld "password = \"one\"" "AA==" []) "/s.toml" true = .ok output ∧
      inspect (certificateWorld "password_env = \"SECRET\"" "AQ==" [("SECRET", [0x32])])
        "/s.toml" true = .ok output := by
  have hleft : findings (certificateWorld "password = \"one\"" "AA==" []) "/s.toml" =
      some ⟨(some (some "/a.pem", some "PEM"), none),
        (some [⟨"cert-0", false, 1, none⟩], none)⟩ := by
    decide +kernel
  have hright : findings (certificateWorld "password_env = \"SECRET\"" "AQ=="
        [("SECRET", [0x32])]) "/s.toml" =
      some ⟨(some (some "/a.pem", some "PEM"), none),
        (some [⟨"cert-0", false, 1, none⟩], none)⟩ := by
    decide +kernel
  obtain ⟨_, _, hleft, hleftTargets, hleftOutlines⟩ := findings_eq_some hleft
  obtain ⟨_, _, hright, hrightTargets, hrightOutlines⟩ := findings_eq_some hright
  exact secrets_not_disclosed.1 _ _ "/s.toml" _ _ _ _ hleft hright
    (hleftTargets.trans hrightTargets.symm) (hleftOutlines.trans hrightOutlines.symm) true

end CredentialWatch
