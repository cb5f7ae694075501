import CredentialWatch.Digest.Sha1
import CredentialWatch.Keystore.Scan
import CredentialWatch.Text.Utf16

/-!
# Keystore files

A keystore file is a body and a digest over the password, a fixed text and the body. Reading checks
the structure before the digest. Writing always takes version 2 and one creation time for all
records.
-/
namespace CredentialWatch.Keystore

def digestLength : Nat := 20

/-- The text between the password and the body in what is digested. -/
def whitener : Bytes := Bytes.ascii "Mighty Aphrodite"

/-- What a keystore's digest is taken over. -/
def signedMessage (password : String) (body : Bytes) : Bytes :=
  Text.Utf16.encode password ++ whitener ++ body

/-- The digest that closes a keystore. -/
def closingDigest (password : String) (body : Bytes) : Bytes :=
  Digest.sha1 (signedMessage password body)

/-- A password as text. -/
def passwordText (password : Bytes) : Except Defect String :=
  match Text.Utf8.decode? password with
  | some text => .ok text
  | none => .error .passwordNotUtf8

/-- The body of a file and the digest behind it. -/
def cut (bytes : Bytes) : Except Defect (Bytes × Bytes) :=
  let start := bytes.length - digestLength
  if bytes.length < digestLength then .error .truncated
  else .ok (bytes.take start, bytes.drop start)

/-- The records of a keystore file under a password. -/
def decodeContents (bytes password : Bytes) : Except Defect Contents := do
  let (body, closing) ← cut bytes
  let contents ← readContents body
  let password ← passwordText password
  if closingDigest password body = closing then return contents
  else throw .integrity

/-- The credentials of a keystore file under a password. -/
def decode (bytes password : Bytes) : Except Defect (List Credential) :=
  (fun contents => contents.records.map Record.credential) <$> decodeContents bytes password

/-- A credential to be written: its alias and what it holds. -/
structure Draft where
  name : String
  content : Content
  deriving DecidableEq, Repr

namespace Draft

def record (created : Instant) (draft : Draft) : Record :=
  ⟨Text.Utf8.encode draft.name, Record.unsigned created.millis, draft.content⟩

/-- The credential that a draft is written for. -/
def credential (created : Instant) (draft : Draft) : Credential :=
  ⟨draft.name, draft.content.holding, some created⟩

/-- The draft that a credential of a keystore is written again by; there is none for a plain key. -/
def ofCredential? (credential : Credential) : Option Draft :=
  match credential.holding with
  | .key (.wrapped wrapped) chain => some ⟨credential.name, .key wrapped chain⟩
  | .key (.plain _ _) _ => none
  | .trusted certificate => some ⟨credential.name, .trusted certificate⟩

/-- The lengths of a draft can be written. -/
def Fits (draft : Draft) : Prop :=
  draft.name.utf8ByteSize ≤ 65535 ∧ draft.content.Fits

instance (draft : Draft) : Decidable draft.Fits := inferInstanceAs (Decidable (_ ∧ _))

/-- The contents that drafts are written as. -/
def contents (created : Instant) (drafts : List Draft) : Contents :=
  ⟨.two, drafts.map (record created)⟩

end Draft

/-- Refuse a length that four bytes cannot hold. -/
def checkLength (length : Nat) : Except Defect Unit :=
  if length < Bytes.capacity 4 then .ok () else .error .lengthTooLarge

/-- Refuse an alias whose length two bytes cannot hold. -/
def checkName (name : Bytes) : Except Defect Unit :=
  if name.length < Bytes.capacity 2 then .ok () else .error .aliasTooLong

def Content.check : Content → Except Defect Unit
  | key wrapped chain => do
    checkLength wrapped.length
    checkLength chain.length
    chain.forM fun certificate => checkLength certificate.length
  | trusted certificate => checkLength certificate.length

/-- Refuse the first field of a record that does not fit. -/
def Record.check (record : Record) : Except Defect Unit := do
  checkName record.name
  record.content.check

/-- The file that holds the drafts in order, all created at one time. -/
def encode (drafts : List Draft) (created : Instant) (password : Bytes) : Except Defect Bytes := do
  let contents := Draft.contents created drafts
  checkLength contents.records.length
  contents.records.forM Record.check
  let password ← passwordText password
  return contents.bytes ++ closingDigest password contents.bytes

end CredentialWatch.Keystore
