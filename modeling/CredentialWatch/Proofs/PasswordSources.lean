import CredentialWatch.Configuration.Custody
import CredentialWatch.Proofs.KeystoreFile
import CredentialWatch.Proofs.LoadFailures

/-!
# Sources of passwords agree

A password that is given directly, in a variable or in a file leads to the same load, whatever line
end the file has behind it. A provider keeps what it was made with: what is done with the passwords
that it has handed out, and the loads that it has served, do not change what a later load comes to.
-/
namespace CredentialWatch

section Texts

/-- What may stand behind the password in a file. -/
def lineEnds : List Bytes := [[], [0x0A], [0x0D, 0x0A]]

/-- A line end behind a text that ends in none is cut off. -/
theorem PasswordSource.trimLineEnd_append {bytes ending : Bytes}
    (hlast : ∀ last ∈ bytes.getLast?, last ≠ 0x0A ∧ last ≠ 0x0D) (hending : ending ∈ lineEnds) :
    trimLineEnd (bytes ++ ending) = bytes := by
  obtain rfl | ⟨front, last, rfl⟩ := bytes.eq_nil_or_concat
  · simp only [lineEnds, List.mem_cons, List.not_mem_nil, or_false] at hending
    rcases hending with rfl | rfl | rfl <;> rfl
  · obtain ⟨hfeed, hreturn⟩ := hlast last (by simp)
    simp only [lineEnds, List.mem_cons, List.not_mem_nil, or_false] at hending
    rcases hending with rfl | rfl | rfl <;> simp [trimLineEnd, hfeed, hreturn]

/-- A section gives a text as its password, in one of the three ways. -/
inductive StoreSettings.Gives (world : World) (text : String) (settings : StoreSettings) :
    Prop where
  | directly (given : settings.password? = some text)
      (noVariable : settings.passwordVariable? = none) (noFile : settings.passwordFile? = none)
  | byVariable {name : String} (notDirectly : settings.password? = none)
      (named : settings.passwordVariable? = some name) (noFile : settings.passwordFile? = none)
      (set : world.lookup name = some (Text.Utf8.encode text))
  | byFile {path : String} {ending : Bytes} (notDirectly : settings.password? = none)
      (noVariable : settings.passwordVariable? = none) (named : settings.passwordFile? = some path)
      (content : world.files.read path = .ok (Text.Utf8.encode text ++ ending))
      (ends : ending ∈ lineEnds)

/-- A section that gives a text has it as its secret. -/
theorem StoreSettings.Gives.secret {world : World} {text : String} {settings : StoreSettings}
    (h : settings.Gives world text)
    (hlast : ∀ last ∈ (Text.Utf8.encode text).getLast?, last ≠ 0x0A ∧ last ≠ 0x0D) :
    settings.secret world = .ok (.ofText text) := by
  cases h with
  | directly given noVariable noFile =>
    simp [StoreSettings.secret, passwordSource, given, noVariable, noFile, bind, Except.bind,
      PasswordSource.password]
  | byVariable notDirectly named noFile set =>
    simp [StoreSettings.secret, passwordSource, notDirectly, named, noFile, bind, Except.bind,
      PasswordSource.password, set, Secret.ofText]
  | byFile notDirectly noVariable named content ends =>
    simp [StoreSettings.secret, passwordSource, notDirectly, noVariable, named, bind, Except.bind,
      PasswordSource.password, content, PasswordSource.trimLineEnd_append hlast ends, Secret.ofText]

end Texts

section Loads

variable {platform : Watch.Platform} {world : World} {now : Nat} {loader : Loader}
  {role : StoreRole} {service? : Option Watch.Service}

/-- What is loaded with a configuration: its store and the handle on its watch. -/
def StoreConfiguration.loaded (configuration : StoreConfiguration) : LoadedStore :=
  ⟨configuration.store, configuration.watch?⟩

/-- A configuration with another provider. -/
def StoreConfiguration.withProvider (provider : PasswordProvider)
    (configuration : StoreConfiguration) : StoreConfiguration :=
  { configuration with provider }

/-- A load depends on its provider through the password alone. -/
theorem loadOn_congr {location? : Option String} {provider other : PasswordProvider}
    {storeType? : Option String}
    (h : provider.source.password world = other.source.password world) (any : PasswordProvider) :
    let loaded := StoreConfiguration.loadOn platform world now loader role location? provider
      storeType? service?
    let loaded' := StoreConfiguration.loadOn platform world now loader role location? other
      storeType? service?
    loaded.1.map (·.withProvider any) = loaded'.1.map (·.withProvider any) ∧
      loaded.2 = loaded'.2 := by
  simp only [StoreConfiguration.loadOn, h]
  cases other.source.password world with
  | error cause => exact ⟨rfl, rfl⟩
  | ok secret =>
    dsimp only
    generalize loader.loadOn platform world.files now location? secret
      (storeType?.getD StoreFormat.defaultName) service? = result
    obtain ⟨_ | loaded, after?⟩ := result <;> exact ⟨rfl, rfl⟩

theorem StoreSettings.source_of_secret {settings : StoreSettings} {secret : Secret}
    (h : settings.secret world = .ok secret) :
    ∃ source, settings.passwordSource = .ok source ∧ source.password world = .ok secret := by
  rw [StoreSettings.secret] at h
  cases hsource : settings.passwordSource with
  | error cause =>
    rw [hsource] at h
    cases h
  | ok source =>
    rw [hsource] at h
    exact ⟨source, rfl, h⟩

/-- Sections that differ in where their common password stands are loaded alike. -/
theorem ofSettings_congr {settings other : StoreSettings} {secret : Secret}
    (hlocation : settings.location? = other.location?)
    (htype : settings.storeType? = other.storeType?)
    (h : settings.secret world = .ok secret) (h' : other.secret world = .ok secret) (identity : Nat)
    (any : PasswordProvider) :
    let loaded :=
      StoreConfiguration.ofSettings platform world now loader role settings identity service?
    let loaded' :=
      StoreConfiguration.ofSettings platform world now loader role other identity service?
    loaded.1.map (·.withProvider any) = loaded'.1.map (·.withProvider any) ∧
      loaded.2 = loaded'.2 := by
  obtain ⟨source, hsource, hsecret⟩ := StoreSettings.source_of_secret h
  obtain ⟨source', hsource', hsecret'⟩ := StoreSettings.source_of_secret h'
  simp only [StoreConfiguration.ofSettings, hsource, hsource', hlocation, htype]
  exact loadOn_congr (hsecret.trans hsecret'.symm) any

/-- What a section is loaded to depends on its password, its location and type, and what its file
holds. -/
theorem store_congr (limit : Duration) {settings other : StoreSettings} {world' : World}
    {secret : Secret} (hlocation : settings.location? = other.location?)
    (htype : settings.storeType? = other.storeType?)
    (h : settings.secret world = .ok secret) (h' : other.secret world' = .ok secret)
    (hread : ∀ location ∈ settings.location?, ∀ source, Location.resolve location = .ok source →
      source.read world.files limit = source.read world'.files limit) :
    settings.store world limit = other.store world' limit := by
  have hdeclared : settings.declaredType = other.declaredType := by
    rw [StoreSettings.declaredType, StoreSettings.declaredType, htype]
  simp only [StoreSettings.store, h, h', hdeclared, ← hlocation, bind, Except.bind]
  cases hpresent : settings.location? with
  | none => rfl
  | some location =>
    cases hresolve : Location.resolve location with
    | error error => simp only [CredentialStore.read, hresolve, Except.mapError, bind, Except.bind]
    | ok source =>
      simp only [CredentialStore.read, hresolve, hread location hpresent source hresolve,
        Except.mapError, bind, Except.bind]

/-- The store that a section is loaded to, and the failure at its location. -/
theorem store_ofSettings (settings : StoreSettings) (identity : Nat) :
    (StoreConfiguration.ofSettings platform world now loader role settings identity service?).1.map
        StoreConfiguration.store =
      (settings.store world loader.limit).mapError (LoadError.mk settings.location?) := by
  have hmap := map_store_ofSettings platform world now loader role settings identity service?
  generalize (StoreConfiguration.ofSettings platform world now loader role settings identity
    service?).1 = loaded at hmap ⊢
  generalize settings.store world loader.limit = store at hmap ⊢
  cases loaded <;> cases store <;> simp_all [Except.map, Except.mapError]

end Loads

section Rebuilds

variable {custody : Custody} {source : PasswordSource}

/-- A provider keeps a source: its own buffer still holds what it was made with, and was not handed
out. -/
structure Custody.Keeps (custody : Custody) (source : PasswordSource) : Prop where
  source_eq : custody.keeper.source custody.vault = source
  own : ∀ handle, custody.keeper = .memory handle →
    handle < custody.vault.buffers.length ∧ handle ∉ custody.handed

namespace Custody

/-- A provider that is made of a buffer keeps what was in it, though the buffer is erased. -/
theorem keeps_ofSource (vault : Vault) (source : PasswordSource) :
    (ofSource vault source).Keeps source := by
  cases source with
  | memory secret =>
    have hne : ((vault.put secret).2.put secret).1 ≠ (vault.put secret).1 := by simp [Vault.put]
    refine ⟨?_, ?_⟩
    · simp only [ofSource, Keeper.source, Vault.secret_put_self]
      rw [Vault.secret_erase_of_ne hne]
      exact congrArg PasswordSource.memory (Vault.secret_put_self _ _)
    · intro handle hhandle
      cases hhandle
      simp [ofSource, Vault.put]
  | environment name => exact ⟨rfl, fun handle hhandle => by cases hhandle⟩
  | file path => exact ⟨rfl, fun handle hhandle => by cases hhandle⟩

theorem Keeps.ask (h : custody.Keeps source) (world : World) :
    (custody.ask world).2.Keeps source := by
  obtain ⟨hsource, hown⟩ := h
  rw [Custody.ask]
  split
  · exact ⟨hsource, hown⟩
  · rename_i secret _
    refine ⟨?_, ?_⟩
    · rw [← hsource]
      cases hkeeper : custody.keeper with
      | memory handle =>
        exact congrArg PasswordSource.memory (Vault.secret_put_of_lt secret (hown handle hkeeper).1)
      | environment name => rfl
      | file path => rfl
    · intro handle hkeeper
      obtain ⟨hlt, hnot⟩ := hown handle hkeeper
      simp only [Vault.put, List.length_append, List.length_singleton, List.mem_append,
        List.mem_singleton]
      exact ⟨by omega, fun hmem => hmem.elim hnot fun heq => by omega⟩

theorem Keeps.erase (h : custody.Keeps source) {handle : Nat} (hhanded : handle ∈ custody.handed) :
    (custody.erase handle).Keeps source := by
  obtain ⟨hsource, hown⟩ := h
  refine ⟨?_, ?_⟩
  · rw [← hsource]
    cases hkeeper : custody.keeper with
    | memory own =>
      have hne : own ≠ handle := fun heq => (hown own hkeeper).2 (heq ▸ hhanded)
      simp [Custody.erase, hkeeper, Keeper.source, Vault.secret_erase_of_ne hne]
    | environment name => simp [Custody.erase, hkeeper, Keeper.source]
    | file path => simp [Custody.erase, hkeeper, Keeper.source]
  · intro own hkeeper
    simpa [Custody.erase] using hown own hkeeper

/-- What is asked for is what the source gives, in a buffer that counts as handed out. -/
theorem Keeps.ask_eq (h : custody.Keeps source) (world : World) :
    (∃ cause, source.password world = .error cause ∧ (custody.ask world).1 = .error cause) ∨
      ∃ secret handle, source.password world = .ok secret ∧ (custody.ask world).1 = .ok handle ∧
        (custody.ask world).2.vault.secret handle = secret ∧
          handle ∈ (custody.ask world).2.handed := by
  simp only [Custody.ask, h.source_eq]
  cases source.password world with
  | error cause => exact .inl ⟨cause, rfl, rfl⟩
  | ok secret => exact .inr ⟨secret, _, rfl, rfl, Vault.secret_put_self _ _, by simp⟩

/-- A load with a provider comes to what a load with its source does. -/
theorem Keeps.build_eq (h : custody.Keeps source) (commission : Commission) :
    (custody.build commission).1 = source.load commission := by
  rw [Custody.build, PasswordSource.load]
  obtain ⟨cause, hpassword, hask⟩ | ⟨secret, handle, hpassword, hask, hsecret, -⟩ :=
    h.ask_eq commission.world
  · rw [← Prod.eta (custody.ask commission.world), hask, hpassword]
  · rw [← Prod.eta (custody.ask commission.world), hask, hpassword]
    exact congrArg commission.load hsecret

theorem Keeps.build (h : custody.Keeps source) (commission : Commission) :
    (custody.build commission).2.Keeps source := by
  have hasked := h.ask commission.world
  rw [Custody.build]
  obtain ⟨cause, -, hask⟩ | ⟨secret, handle, -, hask, -, hhanded⟩ := h.ask_eq commission.world
  · rw [← Prod.eta (custody.ask commission.world), hask]
    exact hasked
  · rw [← Prod.eta (custody.ask commission.world), hask]
    exact hasked.erase hhanded

/-- Whatever is done with a provider and its passwords, it keeps its source. -/
theorem Keeps.apply (h : custody.Keeps source) (use : Use) : (custody.apply use).Keeps source := by
  cases use with
  | ask world => exact h.ask world
  | erase index =>
    rw [Custody.apply]
    split
    · rename_i handle hhandle
      exact h.erase (List.mem_of_getElem? hhandle)
    · exact h
  | build commission => exact h.build commission

theorem Keeps.run (h : custody.Keeps source) (uses : List Use) :
    (custody.run uses).Keeps source := by
  induction uses generalizing custody with
  | nil => exact h
  | cons use rest ih => exact ih (h.apply use)

end Custody

/-- The load of a configuration, apart from what it notes of itself, is a load with the source of
its provider. -/
theorem loadOn_eq_load (commission : Commission) (role : StoreRole) (provider : PasswordProvider) :
    let result := StoreConfiguration.loadOn commission.platform commission.world commission.now
      commission.loader role commission.location? provider commission.storeType? commission.service?
    (result.1.map StoreConfiguration.loaded, result.2) = provider.source.load commission := by
  simp only [StoreConfiguration.loadOn, PasswordSource.load, Commission.load]
  cases provider.source.password commission.world with
  | error cause => rfl
  | ok secret =>
    dsimp only
    generalize commission.loader.loadOn commission.platform commission.world.files commission.now
      commission.location? secret (commission.storeType?.getD StoreFormat.defaultName)
      commission.service? = result
    obtain ⟨_ | loaded, after?⟩ := result <;> rfl

end Rebuilds

/-- A text that does not end in a line end may be given as a password directly, in a variable, or in
a file with or without a line end behind it: sections that are otherwise the same are then loaded
alike, to the same store and watch or with the same failure, and to the same store also where files
and variables differ, as long as what is read of the file of the store does not. A load from a
provider comes to what the load of its section does and what its first load does, whatever was done
before with the passwords that it has handed out. -/
theorem password_sources_agree :
    (∀ (text : String), (∀ last ∈ (Text.Utf8.encode text).getLast?, last ≠ 0x0A ∧ last ≠ 0x0D) →
      ∀ settings other : StoreSettings, settings.location? = other.location? →
        settings.storeType? = other.storeType? →
      (∀ platform world now loader role identity service? any, settings.Gives world text →
        other.Gives world text →
        let loaded :=
          StoreConfiguration.ofSettings platform world now loader role settings identity service?
        let loaded' :=
          StoreConfiguration.ofSettings platform world now loader role other identity service?
        loaded.1.map (·.withProvider any) = loaded'.1.map (·.withProvider any) ∧
          loaded.2 = loaded'.2) ∧
      ∀ platform platform' world world' now now' loader role role' identity identity'
          service? service?',
        settings.Gives world text → other.Gives world' text →
        (∀ location ∈ settings.location?, ∀ source, Location.resolve location = .ok source →
          source.read world.files loader.limit = source.read world'.files loader.limit) →
        (StoreConfiguration.ofSettings platform world now loader role settings
            identity service?).1.map
            StoreConfiguration.store =
          (StoreConfiguration.ofSettings platform' world' now' loader role' other identity'
            service?').1.map StoreConfiguration.store) ∧
    ∀ (settings : StoreSettings) source, settings.passwordSource = .ok source →
      ∀ vault uses platform world now loader role identity service?,
        let custody := Custody.ofSource vault source
        let commission : Commission :=
          ⟨platform, world, now, loader, settings.location?, settings.storeType?, service?⟩
        let rebuilt := ((custody.run uses).build commission).1
        let direct :=
          StoreConfiguration.ofSettings platform world now loader role settings identity service?
        rebuilt = (custody.build commission).1 ∧
          rebuilt = (direct.1.map StoreConfiguration.loaded, direct.2) := by
  refine ⟨?_, ?_⟩
  · intro text hlast settings other hlocation htype
    refine ⟨?_, ?_⟩
    · intro platform world now loader role identity service? any hgives hgives'
      exact ofSettings_congr hlocation htype (hgives.secret hlast)
        (hgives'.secret hlast) identity any
    · intro platform platform' world world' now now' loader role role' identity identity' service?
        service?' hgives hgives' hread
      have hstore := store_congr loader.limit hlocation htype (hgives.secret hlast)
        (hgives'.secret hlast) hread
      rw [store_ofSettings, store_ofSettings, hstore, hlocation]
  · intro settings source hsource vault uses platform world now loader role identity
      service? custody
      commission rebuilt direct
    have hkeeps : custody.Keeps source := Custody.keeps_ofSource vault source
    have hrebuilt : rebuilt = source.load commission := (hkeeps.run uses).build_eq commission
    have hdirect : direct =
        StoreConfiguration.loadOn platform world now loader role settings.location?
        ⟨identity, source⟩ settings.storeType? service? := by
      simp only [direct, StoreConfiguration.ofSettings, hsource]
    refine ⟨hrebuilt.trans (hkeeps.build_eq commission).symm, ?_⟩
    rw [hrebuilt, hdirect]
    exact (loadOn_eq_load commission role ⟨identity, source⟩).symm

/-- A keystore under a password that is given directly, and stands in a file with a carriage return
and a line feed behind it: both sections are loaded to its one certificate. So is a section whose
first password was handed out and erased before. -/
theorem password_given_or_in_file :
    ∃ file, StoreFormat.keystore.decode file (Text.Utf8.encode "s") =
        .ok [⟨"a", .trusted [0], some ⟨0, 0⟩⟩] ∧
      let store : CredentialStore := ⟨"JKS", [⟨"a", .trusted [0], some ⟨0, 0⟩⟩]⟩
      let world : World :=
        ⟨⟨[(["password"], .file [0x73, 0x0D, 0x0A]), (["a.jks"], .file file)], [], []⟩, []⟩
      let settings : StoreSettings := ⟨some "/a.jks", none, some "s", none, none⟩
      let other : StoreSettings := ⟨some "/a.jks", none, none, none, some "/password"⟩
      let load (settings : StoreSettings) :=
        StoreConfiguration.ofSettings .willing world 0 ⟨⟨1000⟩⟩ .keyStore settings 0 none
      let custody := Custody.ofSource ⟨[]⟩ (.memory (.ofText "s"))
      let commission : Commission := ⟨.willing, world, 0, ⟨⟨1000⟩⟩, some "/a.jks", none, none⟩
      let rebuilt := ((custody.run [.ask world, .erase 0]).build commission).1
      (load settings).1.map StoreConfiguration.store = .ok store ∧
        (load other).1.map StoreConfiguration.store = .ok store ∧
        rebuilt = (custody.build commission).1 ∧ rebuilt.1.map LoadedStore.store = .ok store := by
  obtain ⟨file, hopens⟩ : ∃ file, StoreFormat.keystore.decode file (Text.Utf8.encode "s") =
      .ok [⟨"a", .trusted [0], some ⟨0, 0⟩⟩] :=
    ⟨_, Keystore.decode_eq_ok_iff.2
      ⟨"s", Keystore.Draft.contents ⟨0, 0⟩ [⟨"a", .trusted [0]⟩], rfl,
        (Keystore.fits_contents_iff _ _).2 ⟨by decide, by decide⟩, rfl, by decide +kernel⟩⟩
  refine ⟨file, hopens, ?_⟩
  intro store world settings other load custody commission rebuilt
  have hlast : ∀ last ∈ (Text.Utf8.encode "s").getLast?, last ≠ 0x0A ∧ last ≠ 0x0D := by
    decide +kernel
  have hgives : settings.Gives world "s" := .directly rfl rfl rfl
  have hcontent : world.files.read "/password" = .ok (Text.Utf8.encode "s" ++ [0x0D, 0x0A]) := rfl
  have hgives' : other.Gives world "s" := .byFile rfl rfl rfl hcontent (by decide)
  have hformat : StoreFormat.ofName "JKS" = .ok .keystore := by decide +kernel
  have hresolve : Location.resolve "/a.jks" = .ok ⟨"/a.jks"⟩ := by decide +kernel
  have hread : Source.read world.files ⟨"/a.jks"⟩ ⟨1000⟩ = .ok file := rfl
  have hstored : CredentialStore.read world.files ⟨1000⟩ (some "/a.jks") (.ofText "s") "JKS" =
      .ok (store, some ⟨"/a.jks"⟩) :=
    bind_eq_ok_iff.2 ⟨_, hformat, bind_eq_ok_iff.2 ⟨_, mapError_eq_ok_iff.2 hresolve,
      bind_eq_ok_iff.2 ⟨_, mapError_eq_ok_iff.2 hread, bind_eq_ok_iff.2 ⟨_, hopens, rfl⟩⟩⟩⟩
  have hstore : settings.store world ⟨1000⟩ = .ok store :=
    bind_eq_ok_iff.2 ⟨_, hgives.secret hlast, bind_eq_ok_iff.2 ⟨_, hstored, rfl⟩⟩
  have hloaded : (load settings).1.map StoreConfiguration.store = .ok store := by
    rw [store_ofSettings, hstore]
    rfl
  obtain ⟨hagree, hrebuild⟩ := password_sources_agree
  obtain ⟨hsame, hdirect⟩ := hrebuild settings _ rfl ⟨[]⟩ [.ask world, .erase 0] .willing world 0
    ⟨⟨1000⟩⟩ .keyStore 0 none
  refine ⟨hloaded, ?_, hsame, ?_⟩
  · rw [← hloaded]
    exact ((hagree "s" hlast settings other rfl rfl).2 .willing .willing world world 0 0 ⟨⟨1000⟩⟩
      .keyStore .keyStore 0 0 none none hgives hgives' fun _ _ _ _ => rfl).symm
  · calc rebuilt.1.map LoadedStore.store
        = ((load settings).1.map StoreConfiguration.loaded).map LoadedStore.store :=
          congrArg (fun result => result.1.map LoadedStore.store) hdirect
      _ = (load settings).1.map StoreConfiguration.store := by
          cases (load settings).1 <;> rfl
      _ = .ok store := hloaded

end CredentialWatch
