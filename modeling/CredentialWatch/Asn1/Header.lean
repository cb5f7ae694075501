import CredentialWatch.Bytes

/-!
# Tags and headers

An encoded value is a header and its content. The header tells the value's tag, whether the content
is made of further values, and the length of the content; a length may also be left open, and an
end mark of two zeros then follows the content. Lengths need not be written as short as they can
be. `read?` takes a header off the front of a byte string and refuses content that is not there in
full.
-/
namespace CredentialWatch.Asn1

inductive TagClass where
  | universal
  | application
  | context
  | personal
  deriving DecidableEq, Repr

structure Tag where
  tagClass : TagClass
  number : Nat
  deriving DecidableEq, Repr

namespace Tag

/-- A tag that the encoding itself defines. -/
def universal (number : Nat) : Tag := ⟨.universal, number⟩

/-- A tag that has a meaning in its context only. -/
def context (number : Nat) : Tag := ⟨.context, number⟩

def boolean : Tag := universal 1
def integer : Tag := universal 2
def bitString : Tag := universal 3
def octetString : Tag := universal 4
def null : Tag := universal 5
def objectIdentifier : Tag := universal 6
def enumerated : Tag := universal 10
def utf8String : Tag := universal 12
def sequence : Tag := universal 16
def set : Tag := universal 17
def numericString : Tag := universal 18
def printableString : Tag := universal 19
def teletexString : Tag := universal 20
def ia5String : Tag := universal 22
def utcTime : Tag := universal 23
def generalizedTime : Tag := universal 24
def visibleString : Tag := universal 26
def universalString : Tag := universal 28
def bmpString : Tag := universal 30

end Tag

structure Header where
  tag : Tag
  constructed : Bool
  /-- The length of the content, unless it is left open. -/
  length? : Option Nat
  deriving DecidableEq, Repr

namespace Header

/-- A tag number in groups of seven bits, after what has been read of it; something must follow. -/
def longNumber? (sum : Nat) : Bytes → Option (Nat × Bytes)
  | [] => none
  | byte :: rest =>
    let sum := 128 * sum + byte.toNat % 128
    if rest.isEmpty then none
    else if byte < 0x80 then some (sum, rest)
    else if 0x1000000 ≤ sum then none
    else longNumber? sum rest

/-- The tag number in the first byte or after it. -/
def number? (first : UInt8) (rest : Bytes) : Option (Nat × Bytes) :=
  if first &&& 0x1f = 0x1f then longNumber? 0 rest
  else if rest.isEmpty then none
  else some ((first &&& 0x1f).toNat, rest)

/-- The length of the content, or that it is open. After a length of several bytes at least one
more must follow, and the length must be below `2 ^ 63`. -/
def contentLength? : Bytes → Option (Option Nat × Bytes)
  | [] => none
  | first :: rest =>
    if first = 0x80 then some (none, rest)
    else if first < 0x80 then some (some first.toNat, rest)
    else
      let count := first.toNat - 128
      let length := Bytes.value (rest.take count)
      if (rest.drop count).isEmpty ∨ Bytes.capacity 8 / 2 ≤ length then none
      else some (some length, rest.drop count)

def tagClass (first : UInt8) : TagClass :=
  if first < 0x40 then .universal
  else if first < 0x80 then .application
  else if first < 0xc0 then .context
  else .personal

/-- The header at the front of a byte string, and what follows it. -/
def read? : Bytes → Option (Header × Bytes)
  | [] => none
  | first :: rest => do
    let (number, rest) ← number? first rest
    let (length?, rest) ← contentLength? rest
    let constructed := first &&& 0x20 = 0x20
    match length? with
    | none => if constructed then some (⟨⟨tagClass first, number⟩, true, none⟩, rest) else none
    | some length =>
      if (rest.take length).length = length then
        some (⟨⟨tagClass first, number⟩, constructed, some length⟩, rest)
      else none

end Header

end CredentialWatch.Asn1
