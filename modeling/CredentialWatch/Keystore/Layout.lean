import CredentialWatch.Store.Credential
import CredentialWatch.Text.Utf8

/-!
# Layout of a keystore file

A keystore's body is a magic number, a version, a count and that many records; every number is
unsigned and written most significant byte first. A record is a tag, an alias, a time in
milliseconds and either a wrapped key with a counted chain or one certificate. In version 2 each
certificate is preceded by the name of its type. `bytes` writes each part; `Fits` says that its
lengths and numbers can be written in the fields they have.
-/
namespace CredentialWatch.Keystore

/-- What can be wrong with a keystore, or keep one from being written. -/
inductive Defect where
  | truncated
  | notKeystore
  | version (number : Nat)
  | tag (number : Nat)
  | certificateType (name : String)
  | trailing
  | passwordNotUtf8
  | integrity
  | lengthTooLarge
  | aliasTooLong
  deriving DecidableEq, Repr

def Defect.message : Defect → String
  | truncated => "keystore is truncated"
  | notKeystore => "invalid keystore format"
  | version number => s!"unsupported keystore version {number}"
  | tag number => s!"unrecognized keystore entry tag {number}"
  | certificateType name => s!"unsupported certificate type '{name}'"
  | trailing => "trailing data after keystore entries"
  | passwordNotUtf8 => "keystore password is not valid UTF-8"
  | integrity => "keystore was tampered with, or password was incorrect"
  | lengthTooLarge => "length exceeds u32"
  | aliasTooLong => "alias too long"

inductive Version where
  | one
  | two
  deriving DecidableEq, Repr

def Version.number : Version → Nat
  | one => 1
  | two => 2

def magic : Nat := 0xFEEDFEED

/-- The name that version 2 writes before each certificate. -/
def certificateType : String := "X.509"

inductive Content where
  | key (wrapped : Bytes) (chain : List Bytes)
  | trusted (certificate : Bytes)
  deriving DecidableEq, Repr

/-- A record as the file has it: the alias still in bytes, the time still an unsigned number. -/
structure Record where
  name : Bytes
  time : Nat
  content : Content
  deriving DecidableEq, Repr

structure Contents where
  version : Version
  records : List Record
  deriving DecidableEq, Repr

/-- A byte string behind its length in `width` bytes. -/
def counted (width : Nat) (bytes : Bytes) : Bytes :=
  Bytes.bigEndian width bytes.length ++ bytes

def certificateBytes (version : Version) (certificate : Bytes) : Bytes :=
  match version with
  | .one => counted 4 certificate
  | .two => counted 2 (Text.Utf8.encode certificateType) ++ counted 4 certificate

namespace Content

def tag : Content → Nat
  | key _ _ => 1
  | trusted _ => 2

def bytes (version : Version) : Content → Bytes
  | key wrapped chain =>
    counted 4 wrapped ++ Bytes.bigEndian 4 chain.length ++ chain.flatMap (certificateBytes version)
  | trusted certificate => certificateBytes version certificate

/-- What a credential holds that was stored so; its key stays wrapped. -/
def holding : Content → Holding
  | key wrapped chain => .key (.wrapped wrapped) chain
  | trusted certificate => .trusted certificate

def Fits : Content → Prop
  | key wrapped chain =>
    wrapped.length < Bytes.capacity 4 ∧ chain.length < Bytes.capacity 4 ∧
      ∀ certificate ∈ chain, certificate.length < Bytes.capacity 4
  | trusted certificate => certificate.length < Bytes.capacity 4

instance : DecidablePred Fits
  | key _ _ => inferInstanceAs (Decidable (_ ∧ _ ∧ _))
  | trusted _ => inferInstanceAs (Decidable (_ < _))

end Content

namespace Record

def bytes (version : Version) (record : Record) : Bytes :=
  Bytes.bigEndian 4 record.content.tag ++ counted 2 record.name ++
    Bytes.bigEndian 8 record.time ++ record.content.bytes version

def Fits (record : Record) : Prop :=
  record.name.length < Bytes.capacity 2 ∧ record.time < Bytes.capacity 8 ∧ record.content.Fits

instance : DecidablePred Fits := fun _ => inferInstanceAs (Decidable (_ ∧ _ ∧ _))

/-- An unsigned 64-bit number read as a signed one. -/
def signed (number : Nat) : Int :=
  if number < Bytes.capacity 8 / 2 then number else (number : Int) - Bytes.capacity 8

/-- A signed number in 64 bits. -/
def unsigned (number : Int) : Nat :=
  (number % Bytes.capacity 8).toNat

theorem signed_unsigned {number : Int} (hlow : -9223372036854775808 ≤ number)
    (hhigh : number < 9223372036854775808) : signed (unsigned number) = number := by
  have hcapacity : Bytes.capacity 8 = 18446744073709551616 := by decide
  simp only [signed, unsigned, hcapacity]
  split
  · omega
  · omega

theorem unsigned_signed {number : Nat} (h : number < Bytes.capacity 8) :
    unsigned (signed number) = number := by
  have hcapacity : Bytes.capacity 8 = 18446744073709551616 := by decide
  simp only [signed, unsigned, hcapacity] at h ⊢
  split
  · omega
  · omega

theorem unsigned_lt (number : Int) : unsigned number < Bytes.capacity 8 := by
  have hcapacity : Bytes.capacity 8 = 18446744073709551616 := by decide
  simp only [unsigned, hcapacity]
  omega

/-- The credential that a record stands for. Bad UTF-8 in its alias shows as U+FFFD, and a time that
the calendar does not have is no time. -/
def credential (record : Record) : Credential :=
  ⟨Text.Utf8.lossy record.name, record.content.holding, Instant.ofMillis? (signed record.time)⟩

end Record

namespace Contents

def bytes (contents : Contents) : Bytes :=
  Bytes.bigEndian 4 magic ++ Bytes.bigEndian 4 contents.version.number ++
    Bytes.bigEndian 4 contents.records.length ++
    contents.records.flatMap (Record.bytes contents.version)

def Fits (contents : Contents) : Prop :=
  contents.records.length < Bytes.capacity 4 ∧ ∀ record ∈ contents.records, record.Fits

instance : DecidablePred Fits := fun _ => inferInstanceAs (Decidable (_ ∧ _))

end Contents

end CredentialWatch.Keystore
