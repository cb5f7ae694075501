import CredentialWatch.Digest.Block

/-!
# SHA-2

The family has words of 32 or of 64 bits and one structure: a block of sixteen words is expanded by
a recurrence, and each word drives one round over eight words of state. Its constants are the
fractional bits of roots of the first primes, so they are computed here and not listed. The digests
differ in where they start and in how many bytes they keep.
-/
namespace CredentialWatch.Digest

namespace Sha2

/-- The largest number whose power of a degree is no larger than a number below
`2 ^ (72 * degree)`. -/
def root (degree number : Nat) : Nat :=
  (List.range 72).reverse.foldl
    (fun found bit =>
      let larger := found + Nat.pow 2 bit
      if Nat.pow larger degree ≤ number then larger else found) 0

/-- The first 64 bits of the fraction of a number's root. -/
def rootFraction (degree number : Nat) : Nat :=
  root degree (number * Bytes.capacity (8 * degree)) % Bytes.capacity 8

/-- The primes up to the eightieth. -/
def primes : List Nat :=
  (List.range 410).filter fun number =>
    1 < number && (List.range number).all fun divisor => divisor < 2 || number % divisor ≠ 0

/-- A word of the family, and the ways of mixing the bits of one word. -/
class Word (W : Type) extends Add W, XorOp W, AndOp W, Complement W, Inhabited W where
  /-- The bytes in a word. -/
  width : Nat
  /-- The rounds that a block is put through. -/
  rounds : Nat
  ofNat : Nat → W
  toNat : W → Nat
  /-- The mixing of the first and of the fifth word of the state. -/
  sum0 : W → W
  sum1 : W → W
  /-- The mixing of older words in the expansion of a block. -/
  spread0 : W → W
  spread1 : W → W

def rotateRight32 (word count : UInt32) : UInt32 :=
  (word >>> count) ||| (word <<< (32 - count))

def rotateRight64 (word count : UInt64) : UInt64 :=
  (word >>> count) ||| (word <<< (64 - count))

instance : Word UInt32 where
  width := 4
  rounds := 64
  ofNat := UInt32.ofNat
  toNat := UInt32.toNat
  sum0 x := rotateRight32 x 2 ^^^ rotateRight32 x 13 ^^^ rotateRight32 x 22
  sum1 x := rotateRight32 x 6 ^^^ rotateRight32 x 11 ^^^ rotateRight32 x 25
  spread0 x := rotateRight32 x 7 ^^^ rotateRight32 x 18 ^^^ (x >>> 3)
  spread1 x := rotateRight32 x 17 ^^^ rotateRight32 x 19 ^^^ (x >>> 10)

instance : Word UInt64 where
  width := 8
  rounds := 80
  ofNat := UInt64.ofNat
  toNat := UInt64.toNat
  sum0 x := rotateRight64 x 28 ^^^ rotateRight64 x 34 ^^^ rotateRight64 x 39
  sum1 x := rotateRight64 x 14 ^^^ rotateRight64 x 18 ^^^ rotateRight64 x 41
  spread0 x := rotateRight64 x 1 ^^^ rotateRight64 x 8 ^^^ (x >>> 7)
  spread1 x := rotateRight64 x 19 ^^^ rotateRight64 x 61 ^^^ (x >>> 6)

/-- The constants of the rounds, as 64-bit fractions. -/
def cubeFractions : List Nat := primes.map (rootFraction 3)

/-- The constants of the rounds over 32-bit words. -/
def constants32 : Array UInt32 :=
  (cubeFractions.map fun fraction => UInt32.ofNat (fraction / Bytes.capacity 4)).toArray

/-- The constants of the rounds over 64-bit words. -/
def constants64 : Array UInt64 :=
  (cubeFractions.map UInt64.ofNat).toArray

structure State (W : Type) where
  a : W
  b : W
  c : W
  d : W
  e : W
  f : W
  g : W
  h : W

namespace State

variable {W : Type} [Word W]

/-- The state that eight words make. -/
def ofWords (words : List W) : State W :=
  let word (index : Nat) := words.getD index default
  ⟨word 0, word 1, word 2, word 3, word 4, word 5, word 6, word 7⟩

def words (state : State W) : List W :=
  [state.a, state.b, state.c, state.d, state.e, state.f, state.g, state.h]

def bytes (state : State W) : Bytes :=
  state.words.flatMap fun word => Bytes.bigEndian (Word.width W) (Word.toNat word)

theorem length_bytes (state : State W) : state.bytes.length = 8 * Word.width W := by
  simp only [bytes, words, List.flatMap_cons, List.flatMap_nil, List.length_append,
    Bytes.length_bigEndian, List.length_nil]
  omega

/-- The word-wise sum of two states. -/
@[specialize] def add (left right : State W) : State W :=
  ⟨left.a + right.a, left.b + right.b, left.c + right.c, left.d + right.d,
    left.e + right.e, left.f + right.f, left.g + right.g, left.h + right.h⟩

end State

variable {W : Type} [Word W]

/-- The words of a block and those that they expand to, one for each round. -/
@[specialize] def schedule (block : List W) : Array W :=
  (List.range (Word.rounds W - 16)).foldl
    (fun words i =>
      words.push
        (Word.spread1 (words.getD (i + 14) default) + words.getD (i + 9) default +
          Word.spread0 (words.getD (i + 1) default) + words.getD i default))
    block.toArray

@[specialize] def round (constants words : Array W) (state : State W) (index : Nat) : State W :=
  let choice := (state.e &&& state.f) ^^^ (~~~state.e &&& state.g)
  let majority := (state.a &&& state.b) ^^^ (state.a &&& state.c) ^^^ (state.b &&& state.c)
  let first :=
    state.h + Word.sum1 state.e + choice + constants.getD index default + words.getD index default
  let second := Word.sum0 state.a + majority
  ⟨first + second, state.a, state.b, state.c, state.d + first, state.e, state.f, state.g⟩

@[specialize] def compress (constants : Array W) (state : State W) (block : List W) : State W :=
  state.add ((List.range (Word.rounds W)).foldl (round constants (schedule block)) state)

/-- The words that a block spells. -/
@[specialize] def words (block : Bytes) : List W :=
  (block.pieces (Word.width W)).map fun piece => Word.ofNat piece.value

/-- A message with its padding; the length takes two words. -/
def whole (width : Nat) (message : Bytes) : Bytes :=
  padded (16 * width) (Bytes.bigEndian (2 * width) (message.length * 8)) message

/-- The state after a message over 32-bit words. -/
def run32 (start : State UInt32) (message : Bytes) : State UInt32 :=
  ((whole 4 message).pieces 64).foldl (fun state block => compress constants32 state (words block))
    start

/-- The state after a message over 64-bit words. -/
def run64 (start : State UInt64) (message : Bytes) : State UInt64 :=
  ((whole 8 message).pieces 128).foldl (fun state block => compress constants64 state (words block))
    start

/-- The fractions of the square roots of the first eight primes. -/
def firstFractions : List Nat := (primes.take 8).map (rootFraction 2)

/-- The fractions of the square roots of the next eight primes. -/
def secondFractions : List Nat := ((primes.drop 8).take 8).map (rootFraction 2)

/-- The start of SHA-256: the upper halves of the first fractions. -/
def start256 : State UInt32 :=
  .ofWords (firstFractions.map fun fraction => UInt32.ofNat (fraction / Bytes.capacity 4))

/-- The start of SHA-224: the lower halves of the second fractions. -/
def start224 : State UInt32 :=
  .ofWords (secondFractions.map UInt32.ofNat)

def start512 : State UInt64 := .ofWords (firstFractions.map UInt64.ofNat)

def start384 : State UInt64 := .ofWords (secondFractions.map UInt64.ofNat)

/-- The start of a truncated SHA-512: what SHA-512, from a masked start, makes of its name. -/
def startTruncated (name : String) : State UInt64 :=
  run64 (.ofWords (start512.words.map (· ^^^ 0xa5a5a5a5a5a5a5a5))) (Bytes.ascii name)

def start512_224 : State UInt64 := startTruncated "SHA-512/224"

def start512_256 : State UInt64 := startTruncated "SHA-512/256"

end Sha2

def sha256 (message : Bytes) : Bytes := (Sha2.run32 Sha2.start256 message).bytes

def sha224 (message : Bytes) : Bytes := (Sha2.run32 Sha2.start224 message).bytes.take 28

def sha512 (message : Bytes) : Bytes := (Sha2.run64 Sha2.start512 message).bytes

def sha384 (message : Bytes) : Bytes := (Sha2.run64 Sha2.start384 message).bytes.take 48

def sha512_224 (message : Bytes) : Bytes := (Sha2.run64 Sha2.start512_224 message).bytes.take 28

def sha512_256 (message : Bytes) : Bytes := (Sha2.run64 Sha2.start512_256 message).bytes.take 32

@[simp] theorem length_sha256 (message : Bytes) : (sha256 message).length = 32 := by
  rw [sha256, Sha2.State.length_bytes]
  rfl

@[simp] theorem length_sha512 (message : Bytes) : (sha512 message).length = 64 := by
  rw [sha512, Sha2.State.length_bytes]
  rfl

end CredentialWatch.Digest
