import CredentialWatch.Pem.Section
import CredentialWatch.Store.Credential

/-!
# Credentials in PEM text

One private key makes a single credential with all certificates as its chain. Without a key each
certificate is a trusted one, named by its place. Sections of other kinds do not count.
-/
namespace CredentialWatch.Pem

inductive Defect where
  | badSection (defect : SectionDefect)
  | nothingFound
  | keyWithoutChain
  | severalKeys
  deriving DecidableEq, Repr

def Defect.message : Defect → String
  | badSection defect => "invalid PEM section: " ++ defect.message
  | nothingFound => "no certificates or private keys found in PEM data"
  | keyWithoutChain => "PEM private key has no certificate chain"
  | severalKeys => "PEM data contains more than one private key"

def Section.certificate? (part : Section) : Option Bytes :=
  if part.label = .certificate then some part.content else none

/-- The private key in a section, if it holds one. -/
def Section.key? (part : Section) : Option KeyMaterial :=
  match part.label with
  | .pkcs1Key => some (.plain .pkcs1 part.content)
  | .pkcs8Key => some (.plain .pkcs8 part.content)
  | .sec1Key => some (.plain .sec1 part.content)
  | _ => none

/-- Trusted certificates named by their place. -/
def trusted (certificates : List Bytes) : List Credential :=
  certificates.zipIdx.map fun (certificate, index) => ⟨s!"cert-{index}", .trusted certificate, none⟩

/-- The credentials that certificates and private keys make up. -/
def assemble (certificates : List Bytes) : List KeyMaterial → Except Defect (List Credential)
  | [] => if certificates.isEmpty then .error .nothingFound else .ok (trusted certificates)
  | [key] =>
    if certificates.isEmpty then .error .keyWithoutChain
    else .ok [⟨"key", .key key certificates, none⟩]
  | _ => .error .severalKeys

/-- The credentials of a PEM text; the first defective section makes the whole text defective. -/
def decode (text : Bytes) : Except Defect (List Credential) := do
  let parts ← (sections text).mapM fun part => part.mapError Defect.badSection
  assemble (parts.filterMap Section.certificate?) (parts.filterMap Section.key?)

end CredentialWatch.Pem
