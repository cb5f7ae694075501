import CredentialWatch.Configuration.Attempt
import CredentialWatch.Outcome
import CredentialWatch.Proofs.FileUris

/-!
# What can be at fault with a load

A section of settings, the files and the environment may be at fault in several ways at once. Each
step of a load has faults of its own, which say nothing of the other steps; they are told with a
cause, or the load does not return. For each step, its faults are how it can end without a result.
-/
namespace CredentialWatch

namespace FileSystem

/-- A path leads to no file that can be read, and is refused with an error. -/
inductive Refuses (files : FileSystem) (path : String) : IoError → Prop where
  | nowhere {error : IoError} (missing : files.find path = .error error) :
      Refuses files path error
  | directory {place : Place} (found : files.find path = .ok (place, .directory)) :
      Refuses files path (.system .isDirectory)
  | unreadable {place : Place} {error : SystemError}
      (found : files.find path = .ok (place, .unreadable error)) :
      Refuses files path (.system error)
  | link {place : Place} {target : String} (found : files.find path = .ok (place, .link target)) :
      Refuses files path (.system .loop)

/-- A path leads to a file with some content. -/
def Contains (files : FileSystem) (path : String) (content : Bytes) : Prop :=
  ∃ place, files.find path = .ok (place, .file content)

/-- A read of a path has come to its end before a limit. -/
def Ends (files : FileSystem) (path : String) (limit : Duration) : Prop :=
  ∃ time, files.readingTime? path = some time ∧ time.millis < limit.millis

variable {files : FileSystem} {path : String} {limit : Duration} {content : Bytes} {error : IoError}

theorem readingTime?_eq_none_iff :
    files.readingTime? path = none ↔ ∃ place, files.find path = .ok (place, .pipe) := by
  rw [readingTime?]
  rcases files.find path with error | ⟨place, node⟩
  · simp
  · cases node <;> simp

theorem read_eq_ok_iff : files.read path = .ok content ↔ files.Contains path content := by
  rw [read, Contains]
  rcases files.find path with error | ⟨place, node⟩
  · simp [bind, Except.bind]
  · cases node <;> simp [bind, Except.bind]

theorem read_eq_error_iff :
    files.read path = .error error ↔
      files.Refuses path error ∨ files.readingTime? path = none ∧ error = .neverReady := by
  rw [readingTime?_eq_none_iff, read]
  constructor
  · intro h
    rcases hfind : files.find path with found | ⟨place, node⟩
    · rw [hfind] at h
      exact .inl (Except.error.inj h ▸ .nowhere hfind)
    · rw [hfind] at h
      cases node with
      | file content => cases h
      | directory => exact .inl (Except.error.inj h ▸ .directory hfind)
      | link target => exact .inl (Except.error.inj h ▸ .link hfind)
      | pipe => exact .inr ⟨⟨place, rfl⟩, (Except.error.inj h).symm⟩
      | unreadable error => exact .inl (Except.error.inj h ▸ .unreadable hfind)
  · rintro (hrefuses | ⟨⟨place, hfind⟩, rfl⟩)
    · cases hrefuses with
      | nowhere hfind | directory hfind | unreadable hfind | link hfind => rw [hfind]; rfl
    · rw [hfind]
      rfl

theorem endsWithin_iff : files.endsWithin path limit ↔ files.Ends path limit := by
  simp [endsWithin, Ends, Option.any_eq_true]

end FileSystem

namespace Source

variable {files : FileSystem} {source : Source} {limit : Duration} {content : Bytes}
  {error : IoError}

theorem read_eq_ok_iff :
    source.read files limit = .ok content ↔
      files.Ends source.path limit ∧ files.Contains source.path content := by
  rw [read, ← FileSystem.endsWithin_iff, ← FileSystem.read_eq_ok_iff]
  split
  · simp [*]
  · simp [*]

theorem read_eq_error_iff :
    source.read files limit = .error error ↔
      ¬ files.Ends source.path limit ∧ error = .timedOut limit ∨
        files.Ends source.path limit ∧ files.Refuses source.path error := by
  rw [read]
  by_cases hends : files.Ends source.path limit
  · have ⟨time, htime, _⟩ := hends
    simp [FileSystem.endsWithin_iff.2 hends, hends, FileSystem.read_eq_error_iff, htime]
  · have hlate : ¬ files.endsWithin source.path limit :=
      fun h => hends (FileSystem.endsWithin_iff.1 h)
    simp [hlate, hends, eq_comm]

end Source

/-- The steps of the load of a section, in their order. -/
inductive LoadStep where
  | password
  | format
  | presence
  | resolution
  | reading
  | decoding
  deriving DecidableEq, Repr

/-- The place of a step among the others. -/
def LoadStep.rank : LoadStep → Nat
  | password => 0
  | format => 1
  | presence => 2
  | resolution => 3
  | reading => 4
  | decoding => 5

theorem LoadStep.rank_injective : Function.Injective LoadStep.rank := by
  intro left right h
  cases left <;> cases right <;> first | rfl | cases h

/-- How a load ends that has no store: it fails with a cause, or does not return. -/
inductive Ending where
  | told (cause : LoadCause)
  | interrupted (how : Interruption)
  deriving DecidableEq

/-- The names that a store type can have, in any case of ASCII letters. -/
def StoreFormat.names : List String := ["JKS", "PKCS12", "P12", "PEM"]

/-- The credentials that bytes hold in a format, or how decoding ends without any. -/
def StoreFormat.decoded (bytes password : Bytes) (format : StoreFormat) :
    Except Ending (List Credential) :=
  match format.interruption? bytes password with
  | some how => .error (.interrupted how)
  | none => (format.decode bytes password).mapError .told

/-- The password that a source gives, or how asking for it ends without any. -/
def PasswordSource.asked (world : World) (source : PasswordSource) : Except Ending Secret :=
  match source.interruption? world with
  | some how => .error (.interrupted how)
  | none => (source.password world).mapError .told

namespace StoreSettings

/-- The type of the store, as it is written. -/
def declaredType (settings : StoreSettings) : String :=
  settings.storeType?.getD StoreFormat.defaultName

/-- Which of the fields that give a password are set. -/
def passwordFields (settings : StoreSettings) : List Bool :=
  [settings.password?.isSome, settings.passwordVariable?.isSome, settings.passwordFile?.isSome]

/-- The password of a section, or how the load ends without one. -/
def given (world : World) (settings : StoreSettings) : Except Ending Secret := do
  let source ← settings.passwordSource.mapError .told
  source.asked world

/-- The secret that a section comes with: the empty one, a text, the value of a variable, or the
content of a file without one line end. -/
inductive Supplies (world : World) (settings : StoreSettings) : Secret → Prop where
  | nothing (unset : settings.passwordFields.count true = 0) : Supplies world settings .empty
  | directly {text : String} (single : settings.passwordFields.count true = 1)
      (named : settings.password? = some text) : Supplies world settings (.ofText text)
  | byVariable {name : String} {bytes : Bytes} (single : settings.passwordFields.count true = 1)
      (named : settings.passwordVariable? = some name) (set : world.lookup name = some bytes) :
      Supplies world settings ⟨bytes⟩
  | byFile {path : String} {content : Bytes} (single : settings.passwordFields.count true = 1)
      (named : settings.passwordFile? = some path) (found : world.files.Contains path content) :
      Supplies world settings ⟨PasswordSource.trimLineEnd content⟩

/-- The source that the location of a section leads to. -/
def Names (settings : StoreSettings) (source : Source) : Prop :=
  ∃ location, settings.location? = some location ∧ Location.resolve location = .ok source

/-- The location of a section leads to a file that can be read in time, with some content. -/
def Reads (world : World) (limit : Duration) (settings : StoreSettings) (content : Bytes) : Prop :=
  ∃ source, settings.Names source ∧ world.files.Ends source.path limit ∧
    world.files.Contains source.path content

end StoreSettings

/-- Whether an archive is handed to the library with a password that it cannot take. -/
def StoreFormat.Chokes (format : StoreFormat) (bytes password : Bytes) : Prop :=
  format = .archive ∧ 0 ∈ password ∧ (Text.Utf8.decode? password).isSome ∧
    (Archive.Library.standard.recognise bytes).isOk

/-- The faults that each step of the load of a section can have, with how the load ends for them. -/
inductive Faulty (world : World) (limit : Duration) (settings : StoreSettings) :
    LoadStep → Ending → Prop
  | severalPasswords (several : 1 < settings.passwordFields.count true) :
      Faulty world limit settings .password (.told (.invalidConfig .severalPasswords))
  | variableNotSet {name : String} (single : settings.passwordFields.count true = 1)
      (named : settings.passwordVariable? = some name) (unset : world.lookup name = none) :
      Faulty world limit settings .password (.told (.invalidConfig (.variableNotSet name)))
  | passwordFile {path : String} {error : IoError}
      (single : settings.passwordFields.count true = 1)
      (named : settings.passwordFile? = some path) (refused : world.files.Refuses path error) :
      Faulty world limit settings .password (.told (.invalidConfig (.passwordFile path error)))
  | passwordPipe {path : String} {place : Place}
      (single : settings.passwordFields.count true = 1)
      (named : settings.passwordFile? = some path)
      (pipe : world.files.find path = .ok (place, .pipe)) :
      Faulty world limit settings .password (.interrupted .blocked)
  | unknownType
      (unknown : ∀ name ∈ StoreFormat.names, ¬ Text.AsciiCase.same settings.declaredType name) :
      Faulty world limit settings .format
        (.told (.storeEngine settings.declaredType .unknownType))
  | noLocation {format : StoreFormat}
      (known : StoreFormat.ofName? settings.declaredType = some format)
      (required : format = .keystore ∨ format = .archive) (absent : settings.location? = none) :
      Faulty world limit settings .presence (.told (.invalidConfig .locationRequired))
  | unresolved {location : String} {error : IoError} (present : settings.location? = some location)
      (nowhere : Location.resolve location = .error error) :
      Faulty world limit settings .resolution (.told (.io error))
  | late {source : Source} (named : settings.Names source)
      (late : ¬ world.files.Ends source.path limit) :
      Faulty world limit settings .reading (.told (.io (.timedOut limit)))
  | sourceMissing {source : Source} {error : IoError} (named : settings.Names source)
      (soon : world.files.Ends source.path limit)
      (refused : world.files.Refuses source.path error) (missing : error.kind = "NotFound") :
      Faulty world limit settings .reading (.told (.sourceNotFound error))
  | sourceUnreadable {source : Source} {error : IoError} (named : settings.Names source)
      (soon : world.files.Ends source.path limit)
      (refused : world.files.Refuses source.path error) (other : error.kind ≠ "NotFound") :
      Faulty world limit settings .reading (.told (.io error))
  | unhandled {secret : Secret} {format : StoreFormat} {bytes : Bytes}
      (supplied : settings.Supplies world secret)
      (known : StoreFormat.ofName? settings.declaredType = some format)
      (content : settings.Reads world limit bytes) (chokes : format.Chokes bytes secret.bytes) :
      Faulty world limit settings .decoding (.interrupted .panicked)
  | rejected {secret : Secret} {format : StoreFormat} {bytes : Bytes} {cause : LoadCause}
      (supplied : settings.Supplies world secret)
      (known : StoreFormat.ofName? settings.declaredType = some format)
      (content : settings.Reads world limit bytes)
      (handled : ¬ format.Chokes bytes secret.bytes)
      (undecoded : format.decode bytes secret.bytes = .error cause) :
      Faulty world limit settings .decoding (.told cause)

namespace StoreFormat

variable {name : String} {format : StoreFormat} {bytes password : Bytes}

theorem ofName_eq_ok_iff : ofName name = .ok format ↔ ofName? name = some format := by
  unfold ofName
  cases ofName? name <;> simp

theorem ofName?_eq_none_iff :
    ofName? name = none ↔ ∀ known ∈ names, ¬ Text.AsciiCase.same name known := by
  unfold ofName?
  split
  · simp_all [names]
  split
  · rename_i h
    rcases h with h | h <;> simp_all [names]
  split <;> simp_all [names]

theorem ofName_eq_error_iff {cause : LoadCause} :
    ofName name = .error cause ↔
      (∀ known ∈ names, ¬ Text.AsciiCase.same name known) ∧
        cause = .storeEngine name .unknownType := by
  rw [← ofName?_eq_none_iff, ofName]
  cases ofName? name <;> simp [eq_comm]

theorem requiresLocation_iff :
    format.requiresLocation ↔ format = .keystore ∨ format = .archive := by
  cases format <;> simp [requiresLocation]

theorem interruption?_eq_some_iff {how : Interruption} :
    format.interruption? bytes password = some how ↔
      format.Chokes bytes password ∧ how = .panicked := by
  cases format with
  | keystore | pem => simp [interruption?, Chokes]
  | archive =>
    rw [interruption?]
    split
    · rename_i h
      simp [Chokes, h, eq_comm (b := how)]
    · rename_i h
      simp [Chokes, h]

theorem decoded_eq_ok_iff {credentials : List Credential} :
    format.decoded bytes password = .ok credentials ↔
      ¬ format.Chokes bytes password ∧ format.decode bytes password = .ok credentials := by
  rw [decoded]
  cases hhow : format.interruption? bytes password with
  | some how =>
    have hchokes := (interruption?_eq_some_iff.1 hhow).1
    simp [hchokes]
  | none =>
    have hhandled : ¬ format.Chokes bytes password := by
      intro h
      rw [interruption?_eq_some_iff.2 ⟨h, rfl⟩] at hhow
      cases hhow
    simp [hhandled, mapError_eq_ok_iff]

theorem decoded_eq_error_iff {ending : Ending} :
    format.decoded bytes password = .error ending ↔
      format.Chokes bytes password ∧ ending = .interrupted .panicked ∨
        ¬ format.Chokes bytes password ∧
          ∃ cause, format.decode bytes password = .error cause ∧ ending = .told cause := by
  rw [decoded]
  cases hhow : format.interruption? bytes password with
  | some how =>
    obtain ⟨hchokes, rfl⟩ := interruption?_eq_some_iff.1 hhow
    simp [hchokes, eq_comm]
  | none =>
    have hhandled : ¬ format.Chokes bytes password := by
      intro h
      rw [interruption?_eq_some_iff.2 ⟨h, rfl⟩] at hhow
      cases hhow
    rw [mapError_eq_error_iff]
    simp [hhandled, eq_comm]

end StoreFormat

/-- No failure to resolve a location says that a file is missing. -/
theorem Location.kind_of_resolve {location : String} {error : IoError}
    (h : Location.resolve location = .error error) : error.kind ≠ "NotFound" := by
  by_cases hscheme : ∃ scheme rest, Location.IsSchemeName scheme ∧ location = scheme ++ ":" ++ rest
  · obtain ⟨scheme, rest, hname, rfl⟩ := hscheme
    by_cases hfile : Text.AsciiCase.same scheme "file"
    · simp [Location.resolve_file_error_kind hfile h]
    · rw [Location.resolve_unsupported hname hfile] at h
      cases h
      simp [IoError.kind]
  · rw [Location.resolve_verbatim fun scheme rest hname hlocation =>
      hscheme ⟨scheme, rest, hname, hlocation⟩] at h
    cases h

theorem LoadCause.ofSource_of_missing {error : IoError} (h : error.kind = "NotFound") :
    LoadCause.ofSource error = .sourceNotFound error := by
  simp [LoadCause.ofSource, IoError.isNotFound, h]

theorem LoadCause.ofSource_of_other {error : IoError} (h : error.kind ≠ "NotFound") :
    LoadCause.ofSource error = .io error := by
  simp [LoadCause.ofSource, IoError.isNotFound, h]

namespace PasswordSource

variable {world : World} {path : String} {secret : Secret} {ending : Ending}

theorem asked_memory (world : World) (secret : Secret) :
    (memory secret).asked world = .ok secret := rfl

theorem asked_environment (world : World) (name : String) :
    (environment name).asked world =
      match world.lookup name with
      | some bytes => .ok ⟨bytes⟩
      | none => .error (.told (.invalidConfig (.variableNotSet name))) := by
  rw [asked, interruption?, password]
  cases world.lookup name <;> rfl

theorem asked_file_eq_ok_iff :
    (file path).asked world = .ok secret ↔
      ∃ content, world.files.Contains path content ∧ secret = ⟨trimLineEnd content⟩ := by
  simp only [asked, interruption?, ← FileSystem.read_eq_ok_iff]
  cases htime : world.files.readingTime? path with
  | none =>
    obtain ⟨place, hpipe⟩ := FileSystem.readingTime?_eq_none_iff.1 htime
    simp [FileSystem.read, hpipe, bind, Except.bind]
  | some time =>
    cases hread : world.files.read path <;> simp [password, hread, Except.mapError, eq_comm]

theorem asked_file_eq_error_iff :
    (file path).asked world = .error ending ↔
      (∃ place, world.files.find path = .ok (place, .pipe)) ∧ ending = .interrupted .blocked ∨
        ∃ error, world.files.Refuses path error ∧
          ending = .told (.invalidConfig (.passwordFile path error)) := by
  rw [asked, interruption?, ← FileSystem.readingTime?_eq_none_iff]
  cases htime : world.files.readingTime? path with
  | none =>
    obtain ⟨place, hpipe⟩ := FileSystem.readingTime?_eq_none_iff.1 htime
    have hnone : ∀ error, ¬ world.files.Refuses path error := by
      intro error h
      cases h <;> simp_all
    simp [hnone, eq_comm]
  | some time =>
    have hrefuses : ∀ error, world.files.read path = .error error ↔
        world.files.Refuses path error := by
      simp [FileSystem.read_eq_error_iff, htime]
    simp only [← hrefuses]
    cases hread : world.files.read path <;> simp [password, hread, Except.mapError, eq_comm]

end PasswordSource

namespace StoreSettings

variable {world : World} {limit : Duration} {settings : StoreSettings} {secret : Secret}
  {ending : Ending}

/-- A section names several sources of its password, none, or one. -/
theorem passwordFields_cases (settings : StoreSettings) :
    1 < settings.passwordFields.count true ∨ settings.passwordFields.count true = 0 ∨
      settings.passwordFields.count true = 1 ∧
        ((∃ text, settings.password? = some text) ∨
          (∃ name, settings.passwordVariable? = some name) ∨
          ∃ path, settings.passwordFile? = some path) := by
  obtain ⟨location?, storeType?, _ | password, _ | name, _ | path⟩ := settings <;>
    simp [passwordFields]

theorem given_of_several (h : 1 < settings.passwordFields.count true) :
    settings.given world = .error (.told (.invalidConfig .severalPasswords)) := by
  obtain ⟨location?, storeType?, _ | password, _ | name, _ | path⟩ := settings <;>
    first | rfl | simp [passwordFields] at h

theorem given_of_unset (h : settings.passwordFields.count true = 0) :
    settings.given world = .ok .empty := by
  obtain ⟨location?, storeType?, _ | password, _ | name, _ | path⟩ := settings <;>
    first | rfl | simp [passwordFields] at h

section Single

variable (single : settings.passwordFields.count true = 1)

include single

theorem given_of_text {text : String} (named : settings.password? = some text) :
    settings.given world = .ok (.ofText text) := by
  obtain ⟨location?, storeType?, _ | password, _ | name, _ | path⟩ := settings <;>
    simp_all [passwordFields, given, passwordSource, bind, Except.bind, Except.mapError,
      PasswordSource.asked_memory]

theorem given_of_variable {name : String} (named : settings.passwordVariable? = some name) :
    settings.given world = (PasswordSource.environment name).asked world := by
  obtain ⟨location?, storeType?, _ | password, _ | _, _ | path⟩ := settings <;>
    simp_all [passwordFields, given, passwordSource, bind, Except.bind, Except.mapError]

theorem given_of_file {path : String} (named : settings.passwordFile? = some path) :
    settings.given world = (PasswordSource.file path).asked world := by
  obtain ⟨location?, storeType?, _ | password, _ | name, _ | _⟩ := settings <;>
    simp_all [passwordFields, given, passwordSource, bind, Except.bind, Except.mapError]

end Single

theorem given_eq_ok_iff : settings.given world = .ok secret ↔ settings.Supplies world secret := by
  constructor
  · intro h
    obtain several | unset | ⟨single, ⟨text, named⟩ | ⟨name, named⟩ | ⟨path, named⟩⟩ :=
      passwordFields_cases settings
    · rw [given_of_several several] at h
      cases h
    · rw [given_of_unset unset] at h
      cases h
      exact .nothing unset
    · rw [given_of_text single named] at h
      cases h
      exact .directly single named
    · rw [given_of_variable single named, PasswordSource.asked_environment] at h
      split at h
      · rename_i bytes set
        cases h
        exact .byVariable single named set
      · cases h
    · rw [given_of_file single named, PasswordSource.asked_file_eq_ok_iff] at h
      obtain ⟨content, found, rfl⟩ := h
      exact .byFile single named found
  · intro h
    cases h with
    | nothing unset => exact given_of_unset unset
    | directly single named => exact given_of_text single named
    | byVariable single named set =>
      rw [given_of_variable single named, PasswordSource.asked_environment, set]
    | byFile single named found =>
      rw [given_of_file single named]
      exact PasswordSource.asked_file_eq_ok_iff.2 ⟨_, found, rfl⟩

theorem faulty_password_iff :
    Faulty world limit settings .password ending ↔ settings.given world = .error ending := by
  constructor
  · intro h
    cases h with
    | severalPasswords several => exact given_of_several several
    | variableNotSet single named unset =>
      rw [given_of_variable single named, PasswordSource.asked_environment, unset]
    | passwordFile single named refused =>
      rw [given_of_file single named]
      exact PasswordSource.asked_file_eq_error_iff.2 (.inr ⟨_, refused, rfl⟩)
    | passwordPipe single named pipe =>
      rw [given_of_file single named]
      exact PasswordSource.asked_file_eq_error_iff.2 (.inl ⟨⟨_, pipe⟩, rfl⟩)
  · intro h
    obtain several | unset | ⟨single, ⟨text, named⟩ | ⟨name, named⟩ | ⟨path, named⟩⟩ :=
      passwordFields_cases settings
    · rw [given_of_several several] at h
      cases h
      exact .severalPasswords several
    · rw [given_of_unset unset] at h
      cases h
    · rw [given_of_text single named] at h
      cases h
    · rw [given_of_variable single named, PasswordSource.asked_environment] at h
      split at h
      · cases h
      · rename_i unset
        cases h
        exact .variableNotSet single named unset
    · rw [given_of_file single named, PasswordSource.asked_file_eq_error_iff] at h
      obtain ⟨⟨place, pipe⟩, rfl⟩ | ⟨error, refused, rfl⟩ := h
      · exact .passwordPipe single named pipe
      · exact .passwordFile single named refused

theorem faulty_format_iff :
    Faulty world limit settings .format ending ↔
      ∃ cause, StoreFormat.ofName settings.declaredType = .error cause ∧ ending = .told cause := by
  simp only [StoreFormat.ofName_eq_error_iff]
  constructor
  · intro h
    cases h with
    | unknownType unknown => exact ⟨_, ⟨unknown, rfl⟩, rfl⟩
  · rintro ⟨cause, ⟨unknown, rfl⟩, rfl⟩
    exact .unknownType unknown

theorem faulty_presence_iff :
    Faulty world limit settings .presence ending ↔
      (∃ format, StoreFormat.ofName? settings.declaredType = some format ∧
        format.requiresLocation) ∧ settings.location? = none ∧
          ending = .told (.invalidConfig .locationRequired) := by
  simp only [StoreFormat.requiresLocation_iff]
  constructor
  · intro h
    cases h with
    | noLocation known required absent => exact ⟨⟨_, known, required⟩, absent, rfl⟩
  · rintro ⟨⟨format, known, required⟩, absent, rfl⟩
    exact .noLocation known required absent

theorem faulty_resolution_iff :
    Faulty world limit settings .resolution ending ↔
      ∃ location error, settings.location? = some location ∧
        Location.resolve location = .error error ∧ ending = .told (.ofSource error) := by
  constructor
  · intro h
    cases h with
    | unresolved present nowhere =>
      refine ⟨_, _, present, nowhere, ?_⟩
      rw [LoadCause.ofSource_of_other (Location.kind_of_resolve nowhere)]
  · rintro ⟨location, error, present, nowhere, rfl⟩
    rw [LoadCause.ofSource_of_other (Location.kind_of_resolve nowhere)]
    exact .unresolved present nowhere

theorem faulty_reading_iff :
    Faulty world limit settings .reading ending ↔
      ∃ source error, settings.Names source ∧ source.read world.files limit = .error error ∧
        ending = .told (.ofSource error) := by
  simp only [Source.read_eq_error_iff]
  constructor
  · intro h
    cases h with
    | late named late => exact ⟨_, _, named, .inl ⟨late, rfl⟩, rfl⟩
    | sourceMissing named soon refused missing =>
      refine ⟨_, _, named, .inr ⟨soon, refused⟩, ?_⟩
      rw [LoadCause.ofSource_of_missing missing]
    | sourceUnreadable named soon refused other =>
      refine ⟨_, _, named, .inr ⟨soon, refused⟩, ?_⟩
      rw [LoadCause.ofSource_of_other other]
  · rintro ⟨source, error, named, ⟨late, rfl⟩ | ⟨soon, refused⟩, rfl⟩
    · exact .late named late
    · by_cases hmissing : error.kind = "NotFound"
      · rw [LoadCause.ofSource_of_missing hmissing]
        exact .sourceMissing named soon refused hmissing
      · rw [LoadCause.ofSource_of_other hmissing]
        exact .sourceUnreadable named soon refused hmissing

theorem reads_iff {content : Bytes} :
    settings.Reads world limit content ↔
      ∃ source, settings.Names source ∧ source.read world.files limit = .ok content := by
  simp only [Reads, Source.read_eq_ok_iff]

theorem faulty_decoding_iff :
    Faulty world limit settings .decoding ending ↔
      ∃ secret format bytes, settings.given world = .ok secret ∧
        StoreFormat.ofName? settings.declaredType = some format ∧
        settings.Reads world limit bytes ∧ format.decoded bytes secret.bytes = .error ending := by
  simp only [given_eq_ok_iff, StoreFormat.decoded_eq_error_iff]
  constructor
  · intro h
    cases h with
    | unhandled supplied known content chokes =>
      exact ⟨_, _, _, supplied, known, content, .inl ⟨chokes, rfl⟩⟩
    | rejected supplied known content handled undecoded =>
      exact ⟨_, _, _, supplied, known, content, .inr ⟨handled, _, undecoded, rfl⟩⟩
  · rintro ⟨secret, format, bytes, supplied, known, content, ⟨chokes, rfl⟩ |
      ⟨handled, cause, undecoded, rfl⟩⟩
    · exact .unhandled supplied known content chokes
    · exact .rejected supplied known content handled undecoded

end StoreSettings

end CredentialWatch
