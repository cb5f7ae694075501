import CredentialWatch.Text.Utf8

/-!
# Secrets

A secret is a byte string that can be erased: every byte becomes zero and the length stays. A secret
never shows its bytes.
-/
namespace CredentialWatch

structure Secret where
  bytes : Bytes
  deriving DecidableEq

namespace Secret

def empty : Secret := ⟨[]⟩

/-- The secret that a text spells. -/
def ofText (text : String) : Secret := ⟨Text.Utf8.encode text⟩

/-- The text that a secret spells, or why there is none. -/
def text (secret : Secret) : Except Text.Utf8.Defect String :=
  Text.Utf8.decode secret.bytes

def length (secret : Secret) : Nat := secret.bytes.length

def isEmpty (secret : Secret) : Bool := secret.bytes.isEmpty

/-- Overwrite every byte with zero. -/
def erase (secret : Secret) : Secret :=
  ⟨secret.bytes.map fun _ => 0⟩

/-- Whether nothing but zeros is left; an empty secret counts as erased. -/
def isErased (secret : Secret) : Bool :=
  secret.bytes.all (· == 0)

def shown : String := "PasswordHandle([REDACTED])"

@[simp] theorem length_erase (secret : Secret) : secret.erase.length = secret.length := by
  simp [erase, length]

@[simp] theorem isErased_erase (secret : Secret) : secret.erase.isErased = true := by
  simp [erase, isErased]

end Secret

end CredentialWatch
