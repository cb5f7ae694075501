import CredentialWatch.Pem.Base64
import CredentialWatch.Text.Quoted
import CredentialWatch.Text.Utf8

/-!
# Sections of PEM text

Lines end at a line feed or a carriage return, each of which ends one. A line that opens a section
names its label; the section runs to the line that closes that label, and lines between are its
Base64 text. Opening a section inside another one changes the label and keeps the text. Text outside
sections and sections with other labels are passed over.
-/
namespace CredentialWatch.Pem

/-- The labels whose content is decoded. -/
inductive Label where
  | certificate
  | publicKey
  | pkcs1Key
  | pkcs8Key
  | sec1Key
  | revocationList
  | certificateRequest
  | helloConfiguration
  deriving DecidableEq, Repr

namespace Label

def all : List Label :=
  [certificate, publicKey, pkcs1Key, pkcs8Key, sec1Key, revocationList, certificateRequest,
    helloConfiguration]

def text : Label → String
  | certificate => "CERTIFICATE"
  | publicKey => "PUBLIC KEY"
  | pkcs1Key => "RSA PRIVATE KEY"
  | pkcs8Key => "PRIVATE KEY"
  | sec1Key => "EC PRIVATE KEY"
  | revocationList => "X509 CRL"
  | certificateRequest => "CERTIFICATE REQUEST"
  | helloConfiguration => "ECHCONFIG"

def ofBytes? (bytes : Bytes) : Option Label :=
  all.find? fun label => Bytes.ascii label.text == bytes

end Label

structure Section where
  label : Label
  content : Bytes
  deriving DecidableEq, Repr

inductive SectionDefect where
  | illegalStart (line : Bytes)
  | missingEnd (label : Bytes)
  | content (defect : Base64.Defect)
  deriving DecidableEq, Repr

def SectionDefect.message : SectionDefect → String
  | illegalStart line => "illegal section start: " ++ Text.Quoted.quote (Text.Utf8.lossy line)
  | missingEnd label => "section end " ++ Text.Quoted.quote (Text.Utf8.lossy label) ++ " missing"
  | content (.invalidCharacter byte) => s!"InvalidCharacter({byte.toNat})"
  | content .prematurePadding => "PrematurePadding"
  | content .invalidTrailingPadding => "InvalidTrailingPadding"

/-- The lines of a text with their ends; what is left at the end is a line if it is not empty. -/
def lines (text : Bytes) : List Bytes :=
  go [] text
where
  go : Bytes → Bytes → List Bytes
    | [], [] => []
    | line, [] => [line.reverse]
    | line, byte :: rest =>
      if byte = 0x0A ∨ byte = 0x0D then (byte :: line).reverse :: go [] rest
      else go (byte :: line) rest

def opening : Bytes := Bytes.ascii "-----BEGIN "

/-- The line that closes a label begins with this. -/
def closing (label : Bytes) : Bytes :=
  Bytes.ascii "-----END " ++ label ++ Bytes.ascii "-----"

/-- The dashes, blanks and line ends at the end of a line. -/
def trailer (line : Bytes) : Bytes :=
  (line.reverse.takeWhile fun byte =>
    byte == 0x2D || byte == 0x20 || byte == 0x0A || byte == 0x0D).reverse

/-- The label that an opening line names: what stands before its last five dashes, provided that it
ends in five. -/
def openedLabel? (line : Bytes) : Option Bytes :=
  let tail := (trailer line).dropWhile (· != 0x2D)
  if tail.count 0x2D = 5 then some ((line.take (line.length - tail.length)).drop opening.length)
  else none

/-- Where a reader stands: the label of an open section, if any, and the text collected. -/
structure State where
  label? : Option Bytes
  text : List Bytes

def State.outside : State := ⟨none, []⟩

/-- Take a line: what it completes, if anything, and the state behind it. -/
def State.step (state : State) (line : Bytes) : Option (Except SectionDefect Section) × State :=
  if opening.isPrefixOf line then
    match openedLabel? line with
    | none => (some (.error (.illegalStart line)), outside)
    | some label => (none, ⟨some label, state.text⟩)
  else
    match state.label? with
    | none => (none, state)
    | some label =>
      if (closing label).isPrefixOf line then
        match Label.ofBytes? label with
        | none => (none, outside)
        | some known =>
          match Base64.decode state.text.reverse.flatten with
          | .ok content => (some (.ok ⟨known, content⟩), outside)
          | .error defect => (some (.error (.content defect)), outside)
      else (none, ⟨some label, line :: state.text⟩)

/-- What the lines complete one after the other, the end of the text included. -/
def State.run : State → List Bytes → List (Except SectionDefect Section)
  | state, [] =>
    match state.label? with
    | some label => [.error (.missingEnd label)]
    | none => []
  | state, line :: rest =>
    let (completed, next) := state.step line
    completed.toList ++ next.run rest

/-- The sections of a text in order, each decoded or with its defect. -/
def sections (text : Bytes) : List (Except SectionDefect Section) :=
  State.outside.run (lines text)

end CredentialWatch.Pem
