import CredentialWatch.Bytes

/-!
# Base64

Blanks between symbols are skipped. Symbols come in blocks of eight, and a block is settled when a
symbol follows it: padding may stand in the last block only, and there only at the end of its last
four symbols, where it may also be left out. The bits that the last symbol has to spare are not
looked at.
-/
namespace CredentialWatch.Pem.Base64

inductive Defect where
  | invalidCharacter (byte : UInt8)
  | prematurePadding
  | invalidTrailingPadding
  deriving DecidableEq, Repr

inductive Symbol where
  | value (sextet : Nat)
  | padding
  deriving DecidableEq, Repr

def Symbol.isPadding : Symbol → Bool
  | value _ => false
  | padding => true

def Symbol.sextet? : Symbol → Option Nat
  | value sextet => some sextet
  | padding => none

/-- Space, tabs, line feed, form feed and carriage return. -/
def isBlank (byte : UInt8) : Bool :=
  byte == 0x20 || (0x09 ≤ byte && byte ≤ 0x0D)

/-- The symbol that a byte stands for. -/
def symbol? (byte : UInt8) : Option Symbol :=
  let code := byte.toNat
  if 65 ≤ code ∧ code ≤ 90 then some (.value (code - 65))
  else if 97 ≤ code ∧ code ≤ 122 then some (.value (code - 71))
  else if 48 ≤ code ∧ code ≤ 57 then some (.value (code + 4))
  else if code = 43 then some (.value 62)
  else if code = 47 then some (.value 63)
  else if code = 61 then some .padding
  else none

/-- The symbols up to the end or up to a byte that is none, and that byte. -/
def symbols : Bytes → List Symbol × Option UInt8
  | [] => ([], none)
  | byte :: rest =>
    if isBlank byte then symbols rest
    else
      match symbol? byte with
      | none => ([], some byte)
      | some symbol =>
        let (others, stop) := symbols rest
        (symbol :: others, stop)

/-- The bytes that sextets spell, four of them for three bytes. -/
def bytesOf : List Nat → Bytes
  | a :: b :: c :: d :: rest =>
    UInt8.ofNat (a * 4 + b / 16) :: UInt8.ofNat (b % 16 * 16 + c / 4) ::
      UInt8.ofNat (c % 4 * 64 + d) :: bytesOf rest
  | [a, b, c] => [UInt8.ofNat (a * 4 + b / 16), UInt8.ofNat (b % 16 * 16 + c / 4)]
  | [a, b] => [UInt8.ofNat (a * 4 + b / 16)]
  | _ => []

/-- Whether the last symbols, at most four, end as a text may end: whole, or cut after two or three
values, the padding being complete or absent. -/
def endsWell (last : List Symbol) : Bool :=
  let values := last.takeWhile (!·.isPadding)
  let pads := last.dropWhile (!·.isPadding)
  pads.all Symbol.isPadding &&
    (if pads.isEmpty then values.length != 1
     else values.length + pads.length == 4 && 2 ≤ values.length)

/-- The largest multiple of a positive size that is below a length. -/
def settled (size length : Nat) : Nat :=
  (length - 1) / size * size

/-- The bytes of a Base64 text. -/
def decode (text : Bytes) : Except Defect Bytes :=
  let (symbols, stop) := symbols text
  if (symbols.take (settled 8 symbols.length)).any Symbol.isPadding then .error .prematurePadding
  else
    match stop with
    | some byte => .error (.invalidCharacter byte)
    | none =>
      let front := settled 4 symbols.length
      if (symbols.take front).any Symbol.isPadding then .error .prematurePadding
      else if endsWell (symbols.drop front) then .ok (bytesOf (symbols.filterMap Symbol.sextet?))
      else .error .invalidTrailingPadding

end CredentialWatch.Pem.Base64
