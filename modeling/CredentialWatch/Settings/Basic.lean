import CredentialWatch.Password
import CredentialWatch.Text.Quoted
import CredentialWatch.Toml.Document

/-!
# Settings

Settings name a key store and a trust store, either of which may be absent, and say how long a load
may take and whether and how files are watched. They are read from a document in which only known
fields may stand. A section may also be a list of its fields in order: a store's section then needs
all of them, the others take defaults for those that are missing, and what goes beyond is ignored.
-/
namespace CredentialWatch

structure StoreSettings where
  location? : Option String
  storeType? : Option String
  password? : Option String
  passwordVariable? : Option String
  passwordFile? : Option String
  deriving DecidableEq, Repr

structure LoadingSettings where
  timeout : Duration
  deriving DecidableEq, Repr

structure WatchSettings where
  enabled : Bool
  debounce : Duration
  deriving DecidableEq, Repr

structure Settings where
  keyStore? : Option StoreSettings
  trustStore? : Option StoreSettings
  loading : LoadingSettings
  watch : WatchSettings
  deriving DecidableEq, Repr

def StoreSettings.empty : StoreSettings := ⟨none, none, none, none, none⟩

/-- A load may take thirty seconds. -/
def LoadingSettings.standard : LoadingSettings := ⟨⟨30000⟩⟩

/-- Files are watched, and bursts of half a second make one change. -/
def WatchSettings.standard : WatchSettings := ⟨true, ⟨500⟩⟩

def Settings.standard : Settings := ⟨none, none, .standard, .standard⟩

/-- The largest number of milliseconds that a field takes. -/
def largestMillis : Nat := Bytes.capacity 8 - 1

namespace Toml.Value

def text? : Value → Option String
  | text value => some value
  | _ => none

def boolean? : Value → Option Bool
  | boolean value => some value
  | _ => none

def millis? : Value → Option Duration
  | integer value =>
    if 0 ≤ value ∧ value ≤ largestMillis then some ⟨value.toNat⟩ else none
  | _ => none

end Toml.Value

open Toml (Value)

namespace StoreSettings

/-- Take one field of a section. -/
def setField (settings : StoreSettings) (field : String × Value) : Option StoreSettings := do
  let value ← field.2.text?
  match field.1 with
  | "location" => return { settings with location? := some value }
  | "type" => return { settings with storeType? := some value }
  | "password" => return { settings with password? := some value }
  | "password_env" => return { settings with passwordVariable? := some value }
  | "password_file" => return { settings with passwordFile? := some value }
  | _ => none

def ofValue? : Value → Option StoreSettings
  | .table _ fields => fields.foldlM setField empty
  | .list (location :: storeType :: password :: passwordVariable :: passwordFile :: _) => do
    return ⟨some (← location.text?), some (← storeType.text?), some (← password.text?),
      some (← passwordVariable.text?), some (← passwordFile.text?)⟩
  | _ => none

/-- Where the password of a store comes from; at most one source may be named, and none means the
empty password. -/
def passwordSource (settings : StoreSettings) : Except LoadCause PasswordSource :=
  match settings.password?, settings.passwordVariable?, settings.passwordFile? with
  | none, none, none => .ok (.memory .empty)
  | some password, none, none => .ok (.memory (.ofText password))
  | none, some name, none => .ok (.environment name)
  | none, none, some path => .ok (.file path)
  | _, _, _ => .error (.invalidConfig .severalPasswords)

/-- A section's text, in which a password is only said to be there. -/
def shown (settings : StoreSettings) : String :=
  let quoted (value? : Option String) : String :=
    Text.Quoted.optional (value?.map Text.Quoted.quote)
  Text.Quoted.record "StoreSettings"
    [("location", quoted settings.location?), ("store_type", quoted settings.storeType?),
      ("password", quoted (settings.password?.map fun _ => "[REDACTED]")),
      ("password_env", quoted settings.passwordVariable?),
      ("password_file", quoted settings.passwordFile?)]

end StoreSettings

namespace LoadingSettings

def setField (settings : LoadingSettings) (field : String × Value) : Option LoadingSettings :=
  match field.1 with
  | "timeout_ms" => do return { settings with timeout := ← field.2.millis? }
  | _ => none

def ofValue? : Value → Option LoadingSettings
  | .table _ fields => fields.foldlM setField standard
  | .list [] => some standard
  | .list (timeout :: _) => do return ⟨← timeout.millis?⟩
  | _ => none

def shown (settings : LoadingSettings) : String :=
  Text.Quoted.record "LoadingSettings" [("timeout_ms", toString settings.timeout.millis)]

end LoadingSettings

namespace WatchSettings

def setField (settings : WatchSettings) (field : String × Value) : Option WatchSettings :=
  match field.1 with
  | "enabled" => do return { settings with enabled := ← field.2.boolean? }
  | "debounce_ms" => do return { settings with debounce := ← field.2.millis? }
  | _ => none

def ofValue? : Value → Option WatchSettings
  | .table _ fields => fields.foldlM setField standard
  | .list [] => some standard
  | .list [enabled] => do return { standard with enabled := ← enabled.boolean? }
  | .list (enabled :: debounce :: _) => do return ⟨← enabled.boolean?, ← debounce.millis?⟩
  | _ => none

def shown (settings : WatchSettings) : String :=
  Text.Quoted.record "WatchSettings"
    [("enabled", toString settings.enabled), ("debounce_ms", toString settings.debounce.millis)]

end WatchSettings

namespace Settings

/-- Take one section. -/
def setField (settings : Settings) (field : String × Value) : Option Settings :=
  match field.1 with
  | "key_store" => do return { settings with keyStore? := some (← StoreSettings.ofValue? field.2) }
  | "trust_store" => do
    return { settings with trustStore? := some (← StoreSettings.ofValue? field.2) }
  | "loading" => do return { settings with loading := ← LoadingSettings.ofValue? field.2 }
  | "watch" => do return { settings with watch := ← WatchSettings.ofValue? field.2 }
  | _ => none

/-- The settings that the text of a document gives, if it is well formed and all fields are known
and of their types. -/
def ofText? (text : String) : Option Settings :=
  match Toml.parse? text with
  | some (.table _ fields) => fields.foldlM setField standard
  | _ => none

def shown (settings : Settings) : String :=
  Text.Quoted.record "Settings"
    [("key_store", Text.Quoted.optional (settings.keyStore?.map StoreSettings.shown)),
      ("trust_store", Text.Quoted.optional (settings.trustStore?.map StoreSettings.shown)),
      ("loading", settings.loading.shown), ("watch", settings.watch.shown)]

end Settings

end CredentialWatch
