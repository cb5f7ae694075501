import CredentialWatch.Keystore.Codec

/-!
# Reading by positions

A reader stands at a position of a body that stays as it is, while a scan knows only the bytes that
are left. It notes every request for bytes, and every certificate and record once it is built, with
the positions between which that happened. So it tells what has been done also where reading fails.
-/
namespace CredentialWatch.Keystore

/-- A request for the next bytes, and whether there were as many. -/
structure Request where
  start : Nat
  count : Nat
  met : Bool
  deriving DecidableEq, Repr

/-- The position at which a request leaves the reader. -/
def Request.stop (request : Request) : Nat :=
  if request.met then request.start + request.count else request.start

/-- What is built from a stretch of the body. -/
inductive Item where
  | certificate (version : Version) (certificate : Bytes)
  | record (version : Version) (record : Record)
  deriving DecidableEq, Repr

/-- The certificates of a record with some content. -/
def Content.certificates : Content → List Bytes
  | key _ chain => chain
  | trusted certificate => [certificate]

/-- What is built for a record: its certificates, then the record. -/
def Record.items (version : Version) (record : Record) : List Item :=
  record.content.certificates.map (.certificate version) ++ [.record version record]

namespace Item

/-- The bytes that an item is built from. -/
def bytes : Item → Bytes
  | certificate version held => certificateBytes version held
  | record version held => held.bytes version

/-- How many bytes of an item are not those of a certificate in it. -/
def ownLength : Item → Nat
  | certificate version held => (certificateBytes version held).length
  | record _ ⟨name, _, .key wrapped _⟩ => 22 + name.length + wrapped.length
  | record _ ⟨name, _, .trusted _⟩ => 14 + name.length

/-- The fewest bytes that an item of a kind takes. -/
def least : Item → Nat
  | certificate .one _ => 4
  | certificate .two _ => 11
  | record _ _ => 18

def isRecord : Item → Bool
  | certificate _ _ => false
  | record _ _ => true

end Item

/-- An item and the positions before and behind it. -/
structure Built where
  item : Item
  start : Nat
  stop : Nat
  deriving DecidableEq, Repr

structure Reader where
  position : Nat
  requests : List Request
  built : List Built
  deriving DecidableEq, Repr

namespace Reader

def start : Reader := ⟨0, [], []⟩

/-- Request the next `count` bytes; where there are fewer, stay. -/
def take (body : Bytes) (count : Nat) (reader : Reader) : Except Defect Bytes × Reader :=
  if reader.position + count ≤ body.length then
    (.ok ((body.drop reader.position).take count),
      { reader with
        position := reader.position + count
        requests := reader.requests ++ [⟨reader.position, count, true⟩] })
  else
    (.error .truncated,
      { reader with requests := reader.requests ++ [⟨reader.position, count, false⟩] })

/-- Note an item that was read from a position on. -/
def note (item : Item) (start : Nat) (reader : Reader) : Reader :=
  { reader with built := reader.built ++ [⟨item, start, reader.position⟩] }

@[simp] theorem built_note (item : Item) (start : Nat) (reader : Reader) :
    (reader.note item start).built = reader.built ++ [⟨item, start, reader.position⟩] := rfl

end Reader

abbrev Reading := ExceptT Defect (StateM Reader)

namespace Reading

def runOn {α : Type} (reading : Reading α) (reader : Reader) : Except Defect α × Reader :=
  StateT.run (ExceptT.run reading) reader

/-- Go on only under a condition. -/
def expect (condition : Bool) (defect : Defect) : Reading Unit :=
  if condition then return () else throw defect

/-- As many items as a counter says. -/
def many {α : Type} (item : Reading α) : Nat → Reading (List α)
  | 0 => return []
  | count + 1 => do
    let first ← item
    let others ← many item count
    return first :: others

/-- Note what has been read when it is complete. -/
def noting {α : Type} (item : α → Item) (reading : Reading α) : Reading α := do
  let start := (← get).position
  let value ← reading
  modify (Reader.note (item value) start)
  return value

section Body

variable (body : Bytes)

/-- The next `count` bytes. -/
def take (count : Nat) : Reading Bytes :=
  ExceptT.mk (modifyGet (Reader.take body count))

def number (width : Nat) : Reading Nat :=
  Bytes.value <$> take body width

def counted (width : Nat) : Reading Bytes := do
  take body (← number body width)

def text : Reading String :=
  Text.Utf8.lossy <$> counted body 2

/-- A certificate in the layout of a version. -/
def certificateBy : Version → Reading Bytes
  | .one => counted body 4
  | .two => do
    let name ← text body
    expect (name = certificateType) (.certificateType name)
    counted body 4

def certificate (version : Version) : Reading Bytes :=
  noting (.certificate version) (certificateBy body version)

def content (version : Version) (tag : Nat) : Reading Content := do
  if tag = 1 then
    let wrapped ← counted body 4
    let chain ← many (certificate body version) (← number body 4)
    return .key wrapped chain
  else if tag = 2 then
    return .trusted (← certificate body version)
  else throw (.tag tag)

/-- The fields of a record. -/
def fields (version : Version) : Reading Record := do
  let tag ← number body 4
  let name ← counted body 2
  let time ← number body 8
  return ⟨name, time, ← content body version tag⟩

def record (version : Version) : Reading Record :=
  noting (.record version) (fields body version)

def version : Reading Version := do
  let number ← number body 4
  if number = 1 then return .one
  else if number = 2 then return .two
  else throw (.version number)

/-- The magic number, the version and the count of records. -/
def header : Reading (Version × Nat) := do
  expect ((← number body 4) = magic) .notKeystore
  let version ← version body
  return (version, ← number body 4)

/-- The records, with nothing behind the last one. -/
def records (version : Version) (count : Nat) : Reading Contents := do
  let records ← many (record body version) count
  expect ((← get).position = body.length) .trailing
  return ⟨version, records⟩

def contents : Reading Contents := do
  let (version, count) ← header body
  records body version count

end Body

/-- Read a file under a password: its credentials, and the reader in the end. -/
def decode (file password : Bytes) : Except Defect (List Credential) × Reader :=
  match cut file with
  | .error defect => (.error defect, Reader.start)
  | .ok (body, closing) =>
    let (outcome, reader) := (contents body).runOn Reader.start
    let credentials := do
      let contents ← outcome
      let password ← passwordText password
      if closingDigest password body = closing then return contents.records.map Record.credential
      else throw .integrity
    (credentials, reader)

end Reading

end CredentialWatch.Keystore
