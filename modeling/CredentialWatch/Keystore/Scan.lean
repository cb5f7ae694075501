import CredentialWatch.Keystore.Layout

/-!
# Reading a keystore's body

A scan consumes bytes from the front. The bytes that are left are its state, which a failure keeps:
a field that does not fit takes nothing. Counters in the file only bound loops that stop at the
first item that does not fit.
-/
namespace CredentialWatch.Keystore

abbrev Scan := ExceptT Defect (StateM Bytes)

namespace Scan

/-- The outcome of a scan and the bytes it leaves. -/
def runOn {α : Type} (scan : Scan α) (bytes : Bytes) : Except Defect α × Bytes :=
  StateT.run (ExceptT.run scan) bytes

/-- The next `count` bytes. -/
def take (count : Nat) : Scan Bytes := do
  match (← get).split? count with
  | some (first, rest) =>
    set rest
    return first
  | none => throw .truncated

/-- Go on only under a condition. -/
def expect (condition : Bool) (defect : Defect) : Scan Unit :=
  if condition then return () else throw defect

/-- The number in the next `width` bytes. -/
def number (width : Nat) : Scan Nat :=
  Bytes.value <$> take width

/-- A byte string behind its length in `width` bytes. -/
def counted (width : Nat) : Scan Bytes := do
  take (← number width)

/-- A text behind its length, with U+FFFD for what is not UTF-8. -/
def text : Scan String :=
  Text.Utf8.lossy <$> counted 2

/-- As many items as a counter says. -/
def many {α : Type} (item : Scan α) : Nat → Scan (List α)
  | 0 => return []
  | count + 1 => do
    let first ← item
    let others ← many item count
    return first :: others

def certificate : Version → Scan Bytes
  | .one => counted 4
  | .two => do
    let name ← text
    expect (name = certificateType) (.certificateType name)
    counted 4

/-- What a record with a tag holds. -/
def content (version : Version) (tag : Nat) : Scan Content := do
  if tag = 1 then
    let wrapped ← counted 4
    let chain ← many (certificate version) (← number 4)
    return .key wrapped chain
  else if tag = 2 then
    return .trusted (← certificate version)
  else throw (.tag tag)

def record (version : Version) : Scan Record := do
  let tag ← number 4
  let name ← counted 2
  let time ← number 8
  return ⟨name, time, ← content version tag⟩

def version : Scan Version := do
  let number ← number 4
  if number = 1 then return .one
  else if number = 2 then return .two
  else throw (.version number)

/-- A whole body, with nothing behind its last record. -/
def contents : Scan Contents := do
  expect ((← number 4) = magic) .notKeystore
  let version ← version
  let records ← many (record version) (← number 4)
  expect (← get).isEmpty .trailing
  return ⟨version, records⟩

end Scan

/-- The contents that a body spells, or what is wrong with it. -/
def readContents (body : Bytes) : Except Defect Contents :=
  (Scan.contents.runOn body).1

end CredentialWatch.Keystore
