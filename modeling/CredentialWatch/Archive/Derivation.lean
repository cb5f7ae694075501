import CredentialWatch.Archive.Error
import CredentialWatch.Digest.Algorithm
import CredentialWatch.Text.Utf16
import CredentialWatch.Text.Utf8

/-!
# Keys from passwords

There are two ways from a password to a key. The archive's own way fills blocks with a purpose, the
salt and the password, digests them, and carries the digest into the next turn. The general way
adds up authentication codes under the password. Having no password is not the same as having the
empty one: only the latter is written with an end mark.
-/
namespace CredentialWatch.Archive

/-- A password, or none at all. -/
abbrev Passphrase := Option String

namespace Passphrase

/-- A password in two bytes for each unit, with an end mark of two zeros; nothing for none. -/
def wide : Passphrase → Bytes
  | none => []
  | some text => Text.Utf16.encode text ++ [0, 0]

/-- A password in the bytes of its UTF-8 form. -/
def narrow : Passphrase → Bytes
  | none => []
  | some text => Text.Utf8.encode text

end Passphrase

/-- What derived bytes are for. -/
inductive Purpose where
  | key
  | start
  | integrity
  deriving DecidableEq, Repr

def Purpose.number : Purpose → UInt8
  | key => 1
  | start => 2
  | integrity => 3

/-- A byte string repeated up to a whole number of blocks. -/
def filled (block : Nat) (bytes : Bytes) : Bytes :=
  let length := block * ((bytes.length + block - 1) / block)
  ((List.replicate length bytes).flatten).take length

/-- Carry a block into another one: their sum and one, modulo the size of a block. -/
def carry (block : Nat) (carried piece : Bytes) : Bytes :=
  Bytes.bigEndian block ((piece.value + carried.value + 1) % Bytes.capacity block)

/-- The first digest of a message and `count` less one digests of digests. -/
def repeatedDigest (algorithm : Digest.Algorithm) (count : Nat) (message : Bytes) : Bytes :=
  Nat.repeat algorithm.digest (count - 1) (algorithm.digest message)

/-- Digests one after the other, each carried into the material of the next. -/
def turns (algorithm : Digest.Algorithm) (purpose : Bytes) (count : Nat) : Nat → Bytes → Bytes
  | 0, _ => []
  | left + 1, material =>
    let block := algorithm.blockLength
    let digest := repeatedDigest algorithm count (purpose ++ material)
    let carried := (filled block digest).take block
    let material := (material.pieces block).flatMap (carry block carried)
    digest ++ turns algorithm purpose count left material

/-- The archive's own derivation of bytes from a wide password. -/
def derived (algorithm : Digest.Algorithm) (purpose : Purpose) (password salt : Bytes)
    (count length : Nat) : Bytes :=
  let block := algorithm.blockLength
  let material := filled block salt ++ filled block password
  let needed := (length + algorithm.length - 1) / algorithm.length
  (turns algorithm (List.replicate block purpose.number) count needed material).take length

/-- The sum of `count` codes, each of the one before it. -/
def summedCodes (code : Bytes → Bytes) (count : Nat) (message : Bytes) : Bytes :=
  let first := code message
  (Nat.repeat
    (fun (sum, last) =>
      let next := code last
      (Bytes.xor sum next, next))
    (count - 1) (first, first)).1

/-- The general derivation of bytes from a password. -/
def stretched (algorithm : Digest.Algorithm) (password salt : Bytes) (count length : Nat) : Bytes :=
  let needed := (length + algorithm.length - 1) / algorithm.length
  ((List.range needed).flatMap fun index =>
    summedCodes (algorithm.code password) count (salt ++ Bytes.bigEndian 4 (index + 1))).take length

/-- The number of turns that an integer asks for, in 32 bits; one beyond 64 bits counts as below
zero. -/
def turnCount (number : Int) : Int :=
  let bound : Int := 0x8000000000000000
  if -bound ≤ number ∧ number < bound then Int.bmod number 0x100000000 else -1

/-- A number of turns that is not below zero. -/
def turnsOf (number : Int) : Except Failure Nat :=
  if turnCount number < 0 then .error .unavailable else .ok (turnCount number).toNat

end CredentialWatch.Archive
