import CredentialWatch.Asn1.ObjectIdentifier
import CredentialWatch.Asn1.Reader

/-!
# Values of the universal types

Each universal type says which content it admits: an integer is written without needless bytes, a
bit string tells how many bits of its last byte are unused, a path is well formed, and strings of
wide characters and times have lengths that fit. `value` reads a value of any type.
-/
namespace CredentialWatch.Asn1

/-- A value as it was read: its tag, its content with pieces put together, and its encoding. -/
structure Value where
  tag : Tag
  content : Bytes
  encoding : Bytes
  deriving DecidableEq, Repr

/-- Bits in whole bytes, the unused ones at the end zero. -/
structure BitString where
  unused : Nat
  bytes : Bytes
  deriving DecidableEq, Repr

/-- An algorithm and the parameter that it is used with. -/
structure AlgorithmIdentifier where
  algorithm : ObjectIdentifier
  parameter? : Option Value
  deriving DecidableEq, Repr

/-- Whether content is an integer without a needless first byte. -/
def isInteger : Bytes → Bool
  | [] => false
  | [_] => true
  | 0x00 :: second :: _ => 0x80 ≤ second
  | 0xff :: second :: rest => second < 0x80 ∨ (second :: rest).all (· = 0)
  | _ => true

/-- The number that content spells in two's complement. -/
def signedValue (content : Bytes) : Int :=
  match content with
  | [] => 0
  | first :: _ =>
    if first < 0x80 then content.value else (content.value : Int) - Bytes.capacity content.length

/-- The bits that content spells: a count of unused bits, then bytes. -/
def bitString? : Bytes → Option BitString
  | [] => none
  | unused :: bytes =>
    if 7 < unused then none
    else
      let masked := bytes.dropLast ++
        (bytes.getLast?.map fun last => last >>> unused <<< unused).toList
      some ⟨unused.toNat, masked⟩

/-- Whether content is admitted under a tag. -/
def admits (tag : Tag) (content : Bytes) : Bool :=
  if tag = .boolean then content.length = 1
  else if tag = .integer ∨ tag = .enumerated then isInteger content
  else if tag = .bitString then (bitString? content).isSome
  else if tag = .null then content.isEmpty
  else if tag = .objectIdentifier then (ObjectIdentifier.ofContent? content).isSome
  else if tag = .utcTime then 13 ≤ content.length
  else if tag = .generalizedTime then 15 ≤ content.length
  else if tag = .universalString then content.length % 4 = 0
  else if tag = .bmpString then content.length % 2 = 0
  else true

/-- The types whose values cannot be in pieces. -/
def simpleTags : List Tag :=
  [.boolean, .integer, .null, .objectIdentifier, .enumerated]

namespace Reader

/-- The content behind the header of a value of any type. -/
def anyContent (header : Header) : Reader Bytes :=
  if header.tag.tagClass ≠ .universal then wholeContent header
  else if header.tag = .sequence ∨ header.tag = .set then
    if header.constructed then wholeContent header else throw .detail
  else if header.tag ∈ simpleTags then simpleContent header
  else stringContent header

/-- A value of any type. -/
def value : Reader Value := do
  let before ← get
  let header ← header
  let content ← anyContent header
  let encoding := before.take (before.length - (← get).length)
  if admits header.tag content then return ⟨header.tag, content, encoding⟩ else throw .detail

/-- A value whose type is one of several. -/
def oneOf (tags : List Tag) : Reader Value := do
  let value ← value
  if value.tag ∈ tags then return value else throw .detail

/-- A value that must be of a type, as what its content means. -/
def meaning {α : Type} (tag : Tag) (of? : Bytes → Option α) : Reader α := do
  match of? (← oneOf [tag]).content with
  | some result => return result
  | none => throw .detail

def integer : Reader Int := signedValue <$> Value.content <$> oneOf [.integer]

/-- An integer of at most 32 bits. -/
def shortInteger : Reader Int := do
  let number ← integer
  if -0x80000000 ≤ number ∧ number < 0x80000000 then return number else throw .detail

/-- An integer whose content is taken as an unsigned number, however long it is. -/
def unsigned : Reader Nat := do
  Bytes.value <$> simpleContent (← headerOf .integer)

def boolean : Reader Bytes := Value.content <$> oneOf [.boolean]

def octetString : Reader Bytes := Value.content <$> oneOf [.octetString]

def bitString : Reader BitString := meaning .bitString bitString?

def objectIdentifier : Reader ObjectIdentifier :=
  meaning .objectIdentifier ObjectIdentifier.ofContent?

/-- A byte string under a tag from its context. -/
def implicitOctetString (number : Nat) : Reader Bytes := do
  stringContent (← headerOf (.context number))

/-- A bit string under a tag from its context. -/
def implicitBitString (number : Nat) : Reader BitString := do
  match bitString? (← stringContent (← headerOf (.context number))) with
  | some bits => return bits
  | none => throw .detail

def algorithmIdentifier : Reader AlgorithmIdentifier :=
  sequence do
    let algorithm ← Fields.required objectIdentifier
    let parameter? ← Fields.last value
    return ⟨algorithm, parameter?⟩

/-- The outcome of a reader on bytes; what follows the value is ignored. -/
def runOn {α : Type} (reader : Reader α) (bytes : Bytes) : Except Defect α :=
  (StateT.run reader bytes).map Prod.fst

/-- The value at the front of bytes, if there is one. -/
def of? {α : Type} (reader : Reader α) (bytes : Bytes) : Option α :=
  (runOn reader bytes).toOption

end Reader

end CredentialWatch.Asn1
