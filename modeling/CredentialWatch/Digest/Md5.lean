import CredentialWatch.Digest.Block

/-!
# MD5

A block is sixteen words, least significant byte first; sixty-four steps mix them into four words
of state. A step is told by its number alone: which word it takes, how far it rotates, and the
constant it adds.
-/
namespace CredentialWatch.Digest

namespace Md5

structure State where
  a : UInt32
  b : UInt32
  c : UInt32
  d : UInt32

def initial : State :=
  ⟨0x67452301, 0xEFCDAB89, 0x98BADCFE, 0x10325476⟩

/-- The constants of the steps: the sines of the step numbers, from one, in units of `2 ^ (-32)`. -/
def sines : Array UInt32 :=
  #[0xd76aa478, 0xe8c7b756, 0x242070db, 0xc1bdceee, 0xf57c0faf, 0x4787c62a, 0xa8304613, 0xfd469501,
    0x698098d8, 0x8b44f7af, 0xffff5bb1, 0x895cd7be, 0x6b901122, 0xfd987193, 0xa679438e, 0x49b40821,
    0xf61e2562, 0xc040b340, 0x265e5a51, 0xe9b6c7aa, 0xd62f105d, 0x02441453, 0xd8a1e681, 0xe7d3fbc8,
    0x21e1cde6, 0xc33707d6, 0xf4d50d87, 0x455a14ed, 0xa9e3e905, 0xfcefa3f8, 0x676f02d9, 0x8d2a4c8a,
    0xfffa3942, 0x8771f681, 0x6d9d6122, 0xfde5380c, 0xa4beea44, 0x4bdecfa9, 0xf6bb4b60, 0xbebfbc70,
    0x289b7ec6, 0xeaa127fa, 0xd4ef3085, 0x04881d05, 0xd9d4d039, 0xe6db99e5, 0x1fa27cf8, 0xc4ac5665,
    0xf4292244, 0x432aff97, 0xab9423a7, 0xfc93a039, 0x655b59c3, 0x8f0ccc92, 0xffeff47d, 0x85845dd1,
    0x6fa87e4f, 0xfe2ce6e0, 0xa3014314, 0x4e0811a1, 0xf7537e82, 0xbd3af235, 0x2ad7d2bb, 0xeb86d391]

/-- How far the steps of each quarter rotate, by their number modulo four. -/
def rotations : Array (Array UInt32) :=
  #[#[7, 12, 17, 22], #[5, 9, 14, 20], #[4, 11, 16, 23], #[6, 10, 15, 21]]

/-- What a step makes of three words, and the word of the block that it takes. -/
def mixing (index : Nat) (b c d : UInt32) : UInt32 × Nat :=
  if index < 16 then ((b &&& c) ||| (~~~b &&& d), index)
  else if index < 32 then ((d &&& b) ||| (~~~d &&& c), (5 * index + 1) % 16)
  else if index < 48 then (b ^^^ c ^^^ d, (3 * index + 5) % 16)
  else (c ^^^ (b ||| ~~~d), 7 * index % 16)

def step (words : Array UInt32) (state : State) (index : Nat) : State :=
  let (mixed, taken) := mixing index state.b state.c state.d
  let sum := state.a + mixed + sines.getD index 0 + words.getD taken 0
  let count := (rotations.getD (index / 16) #[]).getD (index % 4) 0
  ⟨state.d, state.b + rotateLeft32 sum count, state.b, state.c⟩

/-- The sixteen words of a block. -/
def words (block : Bytes) : Array UInt32 :=
  ((block.pieces 4).map fun piece => UInt32.ofNat (Bytes.value piece.reverse)).toArray

def compress (state : State) (block : Bytes) : State :=
  let after := (List.range 64).foldl (step (words block)) state
  ⟨state.a + after.a, state.b + after.b, state.c + after.c, state.d + after.d⟩

def State.bytes (state : State) : Bytes :=
  [state.a, state.b, state.c, state.d].flatMap fun word => Bytes.littleEndian 4 word.toNat

@[simp] theorem State.length_bytes (state : State) : state.bytes.length = 16 := by
  simp [State.bytes, Bytes.littleEndian]

end Md5

/-- The sixteen bytes of the MD5 digest of a message. -/
def md5 (message : Bytes) : Bytes :=
  let whole := padded 64 (Bytes.littleEndian 8 (message.length * 8)) message
  ((whole.pieces 64).foldl Md5.compress Md5.initial).bytes

@[simp] theorem length_md5 (message : Bytes) : (md5 message).length = 16 := by
  simp [md5]

end CredentialWatch.Digest
