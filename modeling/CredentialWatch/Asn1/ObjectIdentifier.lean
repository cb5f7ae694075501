import CredentialWatch.Bytes

/-!
# Object identifiers

An object identifier is a path of numbers. It is written as groups of seven bits, most significant
first, the top bit set on all but the last group of a number; the first two numbers share one. A
number is never written with an empty group in front, so `ofContent?` undoes `content`.
-/
namespace CredentialWatch.Asn1

structure ObjectIdentifier where
  path : List Nat
  deriving DecidableEq, Repr

namespace ObjectIdentifier

/-- The groups of a number before its last one, each with the top bit. -/
def leadingGroups : Nat → Nat → Bytes
  | 0, _ => []
  | fuel + 1, number =>
    if number = 0 then []
    else leadingGroups fuel (number / 128) ++ [UInt8.ofNat (number % 128 + 128)]

/-- The groups of a number. -/
def groups (number : Nat) : Bytes :=
  leadingGroups number (number / 128) ++ [UInt8.ofNat (number % 128)]

/-- The written form of a path. -/
def content (identifier : ObjectIdentifier) : Bytes :=
  match identifier.path with
  | first :: second :: rest => ((40 * first + second) :: rest).flatMap groups
  | _ => []

/-- The numbers that groups spell, after what has been read of the first one. -/
def numbers? (pending : Option Nat) : Bytes → Option (List Nat)
  | [] => if pending.isNone then some [] else none
  | byte :: rest =>
    let sum := 128 * pending.getD 0 + byte.toNat % 128
    if byte < 0x80 then (sum :: ·) <$> numbers? none rest
    else if pending.isNone ∧ byte = 0x80 then none
    else numbers? (some sum) rest

/-- The path that a written form spells. -/
def ofContent? (content : Bytes) : Option ObjectIdentifier := do
  match ← numbers? none content with
  | [] => none
  | both :: rest =>
    let first := min (both / 40) 2
    return ⟨first :: (both - 40 * first) :: rest⟩

end ObjectIdentifier

end CredentialWatch.Asn1
