import CredentialWatch.Cipher.Aes
import CredentialWatch.Cipher.Des

/-!
# Chained blocks

A message is padded to whole blocks, and each block is combined with the encrypted block before it,
the first one with a starting block. The padding tells its own length.
-/
namespace CredentialWatch

/-- The block ciphers that a message may be chained with. -/
inductive Cipher where
  | aes128
  | aes192
  | aes256
  | tripleDes
  | tripleDesTwoKeys
  deriving DecidableEq, Repr

namespace Cipher

def blockLength : Cipher → Nat
  | aes128 | aes192 | aes256 => Aes.blockLength
  | tripleDes | tripleDesTwoKeys => Des.blockLength

def keyLength : Cipher → Nat
  | aes128 => 16
  | aes192 => 24
  | aes256 => 32
  | tripleDes => 24
  | tripleDesTwoKeys => 16

/-- Decryption of single blocks under a key. With two keys, the first one is also the third. -/
def decryption (cipher : Cipher) (key : Bytes) : Bytes → Bytes :=
  match cipher with
  | aes128 | aes192 | aes256 => Aes.decryption key
  | tripleDes => Des.tripleDecryption key
  | tripleDesTwoKeys => Des.tripleDecryption (key ++ key.take 8)

/-- The padding of a message with `count` bytes missing in its last block. -/
def padding (count : Nat) : Bytes := List.replicate count (UInt8.ofNat count)

/-- A padded message without its padding, if that is well formed. -/
def unpadded? (block : Nat) (padded : Bytes) : Option Bytes := do
  let count := (← padded.getLast?).toNat
  let (message, rest) := (padded.take (padded.length - count), padded.drop (padded.length - count))
  if 0 < count ∧ count ≤ block ∧ rest = padding count then return message else none

theorem unpadded?_append_padding (block count : Nat) (message : Bytes)
    (hpos : 0 < count) (hle : count ≤ block) (hbyte : count < 256) :
    unpadded? block (message ++ padding count) = some message := by
  have hlast : (message ++ padding count).getLast? = some (UInt8.ofNat count) := by
    obtain ⟨n, rfl⟩ := Nat.exists_eq_succ_of_ne_zero (Nat.pos_iff_ne_zero.1 hpos)
    simp [padding, List.replicate_succ']
  have hcount : (UInt8.ofNat count).toNat = count := by
    rw [UInt8.toNat_ofNat']
    omega
  have hlength : (padding count).length = count := by simp [padding]
  simp [unpadded?, hlast, hcount, hlength, hpos, hle]

/-- The padded message under chained blocks. -/
def unchained (cipher : Cipher) (key start message : Bytes) : Bytes :=
  let decrypt := cipher.decryption key
  let blocks := message.pieces cipher.blockLength
  (blocks.zip (start :: blocks)).flatMap fun (block, before) => Bytes.xor (decrypt block) before

/-- The message that was chained under a key and a starting block, if it is one. -/
def decrypt? (cipher : Cipher) (key start message : Bytes) : Option Bytes :=
  if message.length % cipher.blockLength = 0 then
    unpadded? cipher.blockLength (cipher.unchained key start message)
  else none

end Cipher

end CredentialWatch
