import CredentialWatch.Bytes

/-!
# SHA-3

A sponge over twenty-five words of 64 bits: blocks of the message are added to the front of the
state, with the permutation after each. The words stand in rows of five. The offsets of the
rotations and the constants of the rounds follow from a walk over the state and from a shift
register, so they are computed here and not listed.
-/
namespace CredentialWatch.Digest

namespace Sha3

abbrev State := Array UInt64

def initial : State := Array.replicate 25 0

/-- The word in a column and a row. -/
def State.word (state : State) (x y : Nat) : UInt64 :=
  state.getD (x % 5 + 5 * (y % 5)) 0

/-- The state whose words are given by column and row. -/
def State.tabulate (word : Nat → Nat → UInt64) : State :=
  ((List.range 25).map fun index => word (index % 5) (index / 5)).toArray

def rotateLeft64 (word : UInt64) (count : Nat) : UInt64 :=
  if count % 64 = 0 then word
  else (word <<< UInt64.ofNat (count % 64)) ||| (word >>> UInt64.ofNat (64 - count % 64))

/-- Add to each word the parities of two columns. -/
def mixColumns (state : State) : State :=
  let parities := (List.range 5).map (fun x =>
    (List.range 5).foldl (fun sum y => sum ^^^ state.word x y) 0) |>.toArray
  let parity (x : Nat) := parities.getD (x % 5) 0
  .tabulate fun x y => state.word x y ^^^ parity (x + 4) ^^^ rotateLeft64 (parity (x + 1)) 1

/-- Places and rotations of the walk that starts in column one of row zero. -/
def walk : List (Nat × Nat × Nat) :=
  ((List.range 24).foldl
    (fun (found, x, y) step =>
      (found ++ [(x, y, (step + 1) * (step + 2) / 2)], y, (2 * x + 3 * y) % 5))
    ([], 1, 0)).1

/-- How far the word in each place is rotated. -/
def offsets : Array Nat :=
  walk.foldl (fun offsets (x, y, count) => offsets.setIfInBounds (x + 5 * y) (count % 64))
    (Array.replicate 25 0)

/-- Rotate each word and move it to its new place. -/
def scatter (state : State) : State :=
  .tabulate fun x y =>
    let column := x + 3 * y
    rotateLeft64 (state.word column x) (offsets.getD (column % 5 + 5 * x) 0)

/-- Combine each word with the two that follow it in its row. -/
def mixRows (state : State) : State :=
  .tabulate fun x y => state.word x y ^^^ (~~~(state.word (x + 1) y) &&& state.word (x + 2) y)

/-- The next value of the shift register. -/
def register (value : Nat) : Nat :=
  let doubled := 2 * value
  if doubled < 256 then doubled else (doubled - 256) ^^^ 0x71

/-- The constants of the twenty-four rounds: bit `2 ^ j - 1` is the output of the register after
`7 * round + j` steps. -/
def constants : Array UInt64 :=
  let outputs := ((List.range 168).foldl
    (fun (outputs, value) _ => (outputs.push (value % 2), register value)) (#[], 1)).1
  ((List.range 24).map fun round =>
    (List.range 7).foldl
      (fun sum j => sum + UInt64.ofNat
        (outputs.getD (7 * round + j) 0 * Nat.pow 2 (Nat.pow 2 j - 1))) 0).toArray

def round (state : State) (index : Nat) : State :=
  (mixRows (scatter (mixColumns state))).modify 0 (· ^^^ constants.getD index 0)

def permute (state : State) : State :=
  (List.range 24).foldl round state

/-- Add a block to the front of the state and permute it. -/
def absorb (state : State) (block : Bytes) : State :=
  let words := (block.pieces 8).map fun piece => UInt64.ofNat (Bytes.value piece.reverse)
  permute ((words.zipIdx).foldl (fun state (word, index) => state.modify index (· ^^^ word)) state)

/-- A message with its closing bits, as a whole number of blocks. -/
def padded (block : Nat) (message : Bytes) : Bytes :=
  let zeros := block - 1 - message.length % block
  if zeros = 0 then message ++ [0x86] else message ++ 0x06 :: List.replicate (zeros - 1) 0 ++ [0x80]

def bytes (state : State) : Bytes :=
  state.toList.flatMap fun word => Bytes.littleEndian 8 word.toNat

/-- The bytes in a block of the digest of a length. -/
def blockLength (length : Nat) : Nat := 200 - 2 * length

end Sha3

/-- The SHA-3 digest of a length. -/
def sha3 (length : Nat) (message : Bytes) : Bytes :=
  let block := Sha3.blockLength length
  (Sha3.bytes (((Sha3.padded block message).pieces block).foldl Sha3.absorb Sha3.initial)).take
    length

end CredentialWatch.Digest
