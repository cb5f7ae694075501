import CredentialWatch.Configuration.Pair

/-!
# Loads that do not return

A load may come to no result at all. A password file is read without a time limit, so a pipe in its
place is waited for for ever; and the library that reads archives cannot be handed a password with a
NUL, so the thread that does so panics. What the other definitions say of a load holds of one that
returns.
-/
namespace CredentialWatch

/-- How a call ends that does not return. -/
inductive Interruption where
  | blocked
  | panicked
  deriving DecidableEq, Repr

/-- What a call comes to. -/
inductive Attempt (Result : Type) where
  | returned (result : Result)
  | interrupted (how : Interruption)

/-- Why asking for a password does not return. -/
def PasswordSource.interruption? (world : World) : PasswordSource → Option Interruption
  | memory _ | environment _ => none
  | file path => if (world.files.readingTime? path).isNone then some .blocked else none

/-- Why decoding does not return: only an archive with a password that is text is handed to a
library, and only what the library recognises is opened. -/
def StoreFormat.interruption? (bytes password : Bytes) : StoreFormat → Option Interruption
  | keystore | pem => none
  | archive =>
    if 0 ∈ password ∧ (Text.Utf8.decode? password).isSome ∧
        (Archive.Library.standard.recognise bytes).isOk then
      some .panicked
    else none

/-- Why reading a store does not return. -/
def CredentialStore.interruption? (files : FileSystem) (limit : Duration)
    (location? : Option String)
    (password : Secret) (storeType : String) : Option Interruption := do
  let format ← (StoreFormat.ofName storeType).toOption
  let source ← (Location.resolve (← location?)).toOption
  format.interruption? (← (source.read files limit).toOption) password.bytes

/-- Why the load of a section does not return. -/
def StoreSettings.interruption? (world : World) (limit : Duration) (settings : StoreSettings) :
    Option Interruption := do
  let source ← settings.passwordSource.toOption
  match source.interruption? world with
  | some how => return how
  | none =>
    CredentialStore.interruption? world.files limit settings.location?
      (← (source.password world).toOption) (settings.storeType?.getD StoreFormat.defaultName)

/-- The load of the store that a section of settings names, as a call. -/
def StoreConfiguration.attempt (platform : Watch.Platform) (world : World) (now : Nat)
    (loader : Loader) (role : StoreRole) (settings : StoreSettings) (identity : Nat)
    (service? : Option Watch.Service) :
    Attempt (Except LoadError StoreConfiguration × Option Watch.Service) :=
  match settings.interruption? world loader.limit with
  | some how => .interrupted how
  | none => .returned (ofSettings platform world now loader role settings identity service?)

/-- The load of both stores that settings name, as a call. The trust store is loaded only if the key
store was. -/
def StorePair.attempt (platform : StoreRole → Watch.Platform) (world : World) (now : Nat)
    (loader : Loader) (settings : Settings) (identity : Nat) (service? : Option Watch.Service) :
    Attempt (Except LoadError StorePair × Option Watch.Service) :=
  match settings.keyStore?.bind (StoreSettings.interruption? world loader.limit) with
  | some how => .interrupted how
  | none =>
    match (loadSection (platform .keyStore) world now loader .keyStore settings.keyStore? identity
        service?).1, settings.trustStore?.bind (StoreSettings.interruption? world loader.limit) with
    | .ok _, some how => .interrupted how
    | _, _ => .returned (ofSettingsOn platform world now loader settings identity service?)

end CredentialWatch
