import CredentialWatch.Bytes

/-!
# Blocks and words

Digests of the older families work on whole blocks. A message is padded with a one bit, zeros and
its length; a block is then a list of words.
-/
namespace CredentialWatch.Digest

/-- A message with a one bit, zeros, and its written length, as a whole number of blocks. -/
def padded (block : Nat) (length message : Bytes) : Bytes :=
  let used := message.length + 1 + length.length
  let zeros := (block - used % block) % block
  message ++ 0x80 :: List.replicate zeros 0 ++ length

/-- A padded message fills its blocks. -/
theorem length_padded (block : Nat) (length message : Bytes) (h : 0 < block) :
    (padded block length message).length % block = 0 := by
  have hlt := Nat.mod_lt (message.length + 1 + length.length) h
  have hsum : (padded block length message).length =
      message.length + 1 + length.length +
        (block - (message.length + 1 + length.length) % block) % block := by
    simp only [padded, List.length_append, List.length_cons, List.length_replicate]
    omega
  rw [hsum]
  rcases Nat.eq_zero_or_pos ((message.length + 1 + length.length) % block) with hz | hz
  · rw [hz, Nat.sub_zero, Nat.mod_self, Nat.add_zero, hz]
  · rw [Nat.mod_eq_of_lt (a := block - _) (by omega), Nat.add_mod,
      Nat.mod_eq_of_lt (a := block - _) (by omega), Nat.add_sub_cancel' (by omega), Nat.mod_self]

/-- The 32-bit words that a block spells, most significant byte first. -/
def words32 (block : Bytes) : List UInt32 :=
  (block.pieces 4).map fun piece => UInt32.ofNat piece.value

/-- Rotation of a 32-bit word to the left. -/
def rotateLeft32 (word : UInt32) (count : UInt32) : UInt32 :=
  (word <<< count) ||| (word >>> (32 - count))

end CredentialWatch.Digest
