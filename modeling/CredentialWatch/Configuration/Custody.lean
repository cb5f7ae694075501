import CredentialWatch.Configuration.Basic

/-!
# The custody of passwords

Passwords are kept in buffers, and a handle is the number of a buffer. A provider of a password that
is given in a buffer copies it into one of its own and erases the one that it was given in; other
providers keep none. A password that is asked for is put into a new buffer, which the provider does
not keep. Who has it may use and erase it; a load erases it, whatever comes of the load.
-/
namespace CredentialWatch

/-- The buffers of passwords, by their numbers. -/
structure Vault where
  buffers : List Secret

namespace Vault

/-- What is in a buffer. -/
def secret (vault : Vault) (handle : Nat) : Secret :=
  vault.buffers.getD handle .empty

/-- Put a secret into a new buffer. -/
def put (vault : Vault) (secret : Secret) : Nat × Vault :=
  (vault.buffers.length, ⟨vault.buffers ++ [secret]⟩)

/-- Erase what is in a buffer. -/
def erase (vault : Vault) (handle : Nat) : Vault :=
  ⟨vault.buffers.modify handle Secret.erase⟩

variable {vault : Vault} {handle other : Nat}

@[simp] theorem secret_put_self (vault : Vault) (secret : Secret) :
    (vault.put secret).2.secret (vault.put secret).1 = secret := by
  simp [put, Vault.secret]

theorem secret_put_of_lt (secret : Secret) (h : handle < vault.buffers.length) :
    (vault.put secret).2.secret handle = vault.secret handle := by
  simp [put, Vault.secret, List.getElem?_append_left h]

theorem secret_erase_of_ne (h : other ≠ handle) :
    (vault.erase handle).secret other = vault.secret other := by
  simp [erase, secret, h.symm]

@[simp] theorem length_buffers_erase (vault : Vault) (handle : Nat) :
    (vault.erase handle).buffers.length = vault.buffers.length := by
  simp [erase]

end Vault

/-- What a provider keeps: a buffer, or where the password stands. -/
inductive Keeper where
  | memory (handle : Nat)
  | environment (name : String)
  | file (path : String)

/-- The source that a keeper is with what is in its buffer now. -/
def Keeper.source (vault : Vault) : Keeper → PasswordSource
  | memory handle => .memory (vault.secret handle)
  | environment name => .environment name
  | file path => .file path

/-- What a store is loaded with beside a password. -/
structure Commission where
  platform : Watch.Platform
  world : World
  now : Nat
  loader : Loader
  location? : Option String
  storeType? : Option String
  service? : Option Watch.Service

/-- Load a store with a password. -/
def Commission.load (commission : Commission) (password : Secret) :
    Except LoadError LoadedStore × Option Watch.Service :=
  commission.loader.loadOn commission.platform commission.world.files commission.now
    commission.location? password (commission.storeType?.getD StoreFormat.defaultName)
    commission.service?

/-- Load a store with the password that a source gives. -/
def PasswordSource.load (source : PasswordSource) (commission : Commission) :
    Except LoadError LoadedStore × Option Watch.Service :=
  match source.password commission.world with
  | .error cause => (.error ⟨commission.location?, cause⟩, commission.service?)
  | .ok secret => commission.load secret

/-- A provider among the buffers, and the handles that it has handed out. -/
structure Custody where
  vault : Vault
  keeper : Keeper
  handed : List Nat

namespace Custody

/-- The provider of a source. A password that is there already comes in a buffer, which is
erased. -/
def ofSource (vault : Vault) : PasswordSource → Custody
  | .memory secret =>
    let (given, vault) := vault.put secret
    let (own, vault) := vault.put (vault.secret given)
    ⟨vault.erase given, .memory own, []⟩
  | .environment name => ⟨vault, .environment name, []⟩
  | .file path => ⟨vault, .file path, []⟩

/-- Ask for a password: a handle of a new buffer. -/
def ask (custody : Custody) (world : World) : Except LoadCause Nat × Custody :=
  match (custody.keeper.source custody.vault).password world with
  | .error cause => (.error cause, custody)
  | .ok secret =>
    let (handle, vault) := custody.vault.put secret
    (.ok handle, { custody with vault, handed := custody.handed ++ [handle] })

def erase (custody : Custody) (handle : Nat) : Custody :=
  { custody with vault := custody.vault.erase handle }

/-- Load a store with a password that is asked for, and erase the password. -/
def build (custody : Custody) (commission : Commission) :
    (Except LoadError LoadedStore × Option Watch.Service) × Custody :=
  match custody.ask commission.world with
  | (.error cause, custody) =>
    ((.error ⟨commission.location?, cause⟩, commission.service?), custody)
  | (.ok handle, custody) =>
    (commission.load (custody.vault.secret handle), custody.erase handle)

/-- What is done with a provider and with the passwords that it has handed out. -/
inductive Use where
  | ask (world : World)
  | erase (index : Nat)
  | build (commission : Commission)

def apply (custody : Custody) : Use → Custody
  | .ask world => (custody.ask world).2
  | .erase index =>
    match custody.handed[index]? with
    | some handle => custody.erase handle
    | none => custody
  | .build commission => (custody.build commission).2

/-- One use after the other. -/
def run (custody : Custody) (uses : List Use) : Custody :=
  uses.foldl apply custody

end Custody

end CredentialWatch
