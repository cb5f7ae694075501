import CredentialWatch.Digest.Block

/-!
# SHA-1

A message is padded to whole blocks of 64 bytes; each block is expanded to eighty words that drive
eighty rounds over five words of state.
-/
namespace CredentialWatch.Digest

namespace Sha1

structure State where
  a : UInt32
  b : UInt32
  c : UInt32
  d : UInt32
  e : UInt32

def initial : State :=
  ⟨0x67452301, 0xEFCDAB89, 0x98BADCFE, 0x10325476, 0xC3D2E1F0⟩

/-- The eighty words that a block of sixteen words expands to. -/
def schedule (block : List UInt32) : Array UInt32 :=
  (List.range 64).foldl
    (fun words i =>
      words.push (rotateLeft32
        (words.getD (i + 13) 0 ^^^ words.getD (i + 8) 0 ^^^ words.getD (i + 2) 0 ^^^
          words.getD i 0) 1))
    block.toArray

/-- The mixing function and the constant of a round. -/
def mixing (round : Nat) (b c d : UInt32) : UInt32 × UInt32 :=
  if round < 20 then ((b &&& c) ||| (~~~b &&& d), 0x5A827999)
  else if round < 40 then (b ^^^ c ^^^ d, 0x6ED9EBA1)
  else if round < 60 then ((b &&& c) ||| (b &&& d) ||| (c &&& d), 0x8F1BBCDC)
  else (b ^^^ c ^^^ d, 0xCA62C1D6)

def round (words : Array UInt32) (state : State) (index : Nat) : State :=
  let (mixed, constant) := mixing index state.b state.c state.d
  let sum := rotateLeft32 state.a 5 + mixed + state.e + constant + words.getD index 0
  ⟨sum, state.a, rotateLeft32 state.b 30, state.c, state.d⟩

def compress (state : State) (block : Bytes) : State :=
  let after := (List.range 80).foldl (round (schedule (words32 block))) state
  ⟨state.a + after.a, state.b + after.b, state.c + after.c, state.d + after.d,
    state.e + after.e⟩

def State.bytes (state : State) : Bytes :=
  [state.a, state.b, state.c, state.d, state.e].flatMap fun word =>
    Bytes.bigEndian 4 word.toNat

@[simp] theorem State.length_bytes (state : State) : state.bytes.length = 20 := by
  simp [State.bytes]

end Sha1

/-- The twenty bytes of the SHA-1 digest of a message. -/
def sha1 (message : Bytes) : Bytes :=
  let whole := padded 64 (Bytes.bigEndian 8 (message.length * 8)) message
  ((whole.pieces 64).foldl Sha1.compress Sha1.initial).bytes

@[simp] theorem length_sha1 (message : Bytes) : (sha1 message).length = 20 := by
  simp [sha1]

end CredentialWatch.Digest
