import CredentialWatch.Bytes

/-!
# Triple DES

A block of eight bytes is split into two halves, and sixteen rounds mix one half into the other.
Triple DES decrypts, encrypts and decrypts under three keys. Bits are counted from one, the most
significant bit of the first byte first.
-/
namespace CredentialWatch.Cipher.Des

def blockLength : Nat := 8

abbrev Bits := Array Bool

/-- The bits of a byte string. -/
def bits (bytes : Bytes) : Bits :=
  (bytes.flatMap fun byte => (List.range 8).map fun place => byte.toNat.testBit (7 - place)).toArray

/-- The number that bits spell. -/
def number (bits : Bits) : Nat :=
  bits.foldl (fun sum bit => 2 * sum + bit.toNat) 0

/-- The bits at the places of a table. -/
def select (table : List Nat) (bits : Bits) : Bits :=
  (table.map fun place => bits.getD (place - 1) false).toArray

def xor (left right : Bits) : Bits :=
  left.zipWith (· ^^ ·) right

/-- The order in which a block is taken apart: even places before odd ones, each from the last byte
to the first. -/
def initialPlaces : List Nat :=
  (List.range 64).map fun index =>
    let row := index / 8
    if row < 4 then 58 + 2 * row - 8 * (index % 8) else 49 + 2 * row - 8 * (index % 8)

/-- The order that puts a block together again. -/
def finalPlaces : List Nat :=
  (List.range 64).map fun place => (initialPlaces.idxOf (place + 1)) + 1

/-- Groups of four bits with their neighbours on either side, cyclically. -/
def expansionPlaces : List Nat :=
  (List.range 48).map fun index => (4 * (index / 6) + index % 6 + 31) % 32 + 1

def mixingPlaces : List Nat :=
  [16, 7, 20, 21, 29, 12, 28, 17, 1, 15, 23, 26, 5, 18, 31, 10,
    2, 8, 24, 14, 32, 27, 3, 9, 19, 13, 30, 6, 22, 11, 4, 25]

def keyPlaces : List Nat :=
  [57, 49, 41, 33, 25, 17, 9, 1, 58, 50, 42, 34, 26, 18, 10, 2, 59, 51, 43, 35, 27, 19, 11, 3, 60,
    52, 44, 36, 63, 55, 47, 39, 31, 23, 15, 7, 62, 54, 46, 38, 30, 22, 14, 6, 61, 53, 45, 37, 29,
    21, 13, 5, 28, 20, 12, 4]

def roundKeyPlaces : List Nat :=
  [14, 17, 11, 24, 1, 5, 3, 28, 15, 6, 21, 10, 23, 19, 12, 4, 26, 8, 16, 7, 27, 20, 13, 2, 41, 52,
    31, 37, 47, 55, 30, 40, 51, 45, 33, 48, 44, 49, 39, 56, 34, 53, 46, 42, 50, 36, 29, 32]

/-- How far the halves of the key have been rotated in each round. -/
def rotations : List Nat := [1, 2, 4, 6, 8, 10, 12, 14, 15, 17, 19, 21, 23, 25, 27, 28]

/-- The substitutions of the eight groups; a row has sixteen values. -/
def substitutions : Array (Array Nat) :=
  #[#[14, 4, 13, 1, 2, 15, 11, 8, 3, 10, 6, 12, 5, 9, 0, 7,
      0, 15, 7, 4, 14, 2, 13, 1, 10, 6, 12, 11, 9, 5, 3, 8,
      4, 1, 14, 8, 13, 6, 2, 11, 15, 12, 9, 7, 3, 10, 5, 0,
      15, 12, 8, 2, 4, 9, 1, 7, 5, 11, 3, 14, 10, 0, 6, 13],
    #[15, 1, 8, 14, 6, 11, 3, 4, 9, 7, 2, 13, 12, 0, 5, 10,
      3, 13, 4, 7, 15, 2, 8, 14, 12, 0, 1, 10, 6, 9, 11, 5,
      0, 14, 7, 11, 10, 4, 13, 1, 5, 8, 12, 6, 9, 3, 2, 15,
      13, 8, 10, 1, 3, 15, 4, 2, 11, 6, 7, 12, 0, 5, 14, 9],
    #[10, 0, 9, 14, 6, 3, 15, 5, 1, 13, 12, 7, 11, 4, 2, 8,
      13, 7, 0, 9, 3, 4, 6, 10, 2, 8, 5, 14, 12, 11, 15, 1,
      13, 6, 4, 9, 8, 15, 3, 0, 11, 1, 2, 12, 5, 10, 14, 7,
      1, 10, 13, 0, 6, 9, 8, 7, 4, 15, 14, 3, 11, 5, 2, 12],
    #[7, 13, 14, 3, 0, 6, 9, 10, 1, 2, 8, 5, 11, 12, 4, 15,
      13, 8, 11, 5, 6, 15, 0, 3, 4, 7, 2, 12, 1, 10, 14, 9,
      10, 6, 9, 0, 12, 11, 7, 13, 15, 1, 3, 14, 5, 2, 8, 4,
      3, 15, 0, 6, 10, 1, 13, 8, 9, 4, 5, 11, 12, 7, 2, 14],
    #[2, 12, 4, 1, 7, 10, 11, 6, 8, 5, 3, 15, 13, 0, 14, 9,
      14, 11, 2, 12, 4, 7, 13, 1, 5, 0, 15, 10, 3, 9, 8, 6,
      4, 2, 1, 11, 10, 13, 7, 8, 15, 9, 12, 5, 6, 3, 0, 14,
      11, 8, 12, 7, 1, 14, 2, 13, 6, 15, 0, 9, 10, 4, 5, 3],
    #[12, 1, 10, 15, 9, 2, 6, 8, 0, 13, 3, 4, 14, 7, 5, 11,
      10, 15, 4, 2, 7, 12, 9, 5, 6, 1, 13, 14, 0, 11, 3, 8,
      9, 14, 15, 5, 2, 8, 12, 3, 7, 0, 4, 10, 1, 13, 11, 6,
      4, 3, 2, 12, 9, 5, 15, 10, 11, 14, 1, 7, 6, 0, 8, 13],
    #[4, 11, 2, 14, 15, 0, 8, 13, 3, 12, 9, 7, 5, 10, 6, 1,
      13, 0, 11, 7, 4, 9, 1, 10, 14, 3, 5, 12, 2, 15, 8, 6,
      1, 4, 11, 13, 12, 3, 7, 14, 10, 15, 6, 8, 0, 5, 9, 2,
      6, 11, 13, 8, 1, 4, 10, 7, 9, 5, 0, 15, 14, 2, 3, 12],
    #[13, 2, 8, 4, 6, 15, 11, 1, 10, 9, 3, 14, 5, 0, 12, 7,
      1, 15, 13, 8, 10, 3, 7, 4, 12, 5, 6, 11, 0, 14, 9, 2,
      7, 11, 4, 1, 9, 12, 14, 2, 0, 6, 10, 13, 15, 3, 5, 8,
      2, 1, 14, 7, 4, 10, 8, 13, 15, 12, 9, 0, 3, 5, 6, 11]]

/-- The keys of the sixteen rounds of encryption. -/
def roundKeys (key : Bytes) : List Bits :=
  let chosen := select keyPlaces (bits key)
  rotations.map fun count =>
    let turned := (List.range 56).map fun place =>
      chosen.getD (place / 28 * 28 + (place % 28 + count) % 28) false
    select roundKeyPlaces turned.toArray

/-- The four bits that a group of six is substituted by: its outer bits choose the row. -/
def substitute (group : Nat) (six : Bits) : Bits :=
  let value := number six
  let row := value / 32 * 2 + value % 2
  let chosen := (substitutions.getD group #[]).getD (16 * row + value / 2 % 16) 0
  ((List.range 4).map fun place => chosen.testBit (3 - place)).toArray

/-- What a round makes of one half under the key of the round. -/
def mix (key half : Bits) : Bits :=
  let mixed := xor (select expansionPlaces half) key
  let groups := (List.range 8).map fun group =>
    substitute group (mixed.extract (6 * group) (6 * group + 6))
  select mixingPlaces (groups.foldl (· ++ ·) #[])

/-- A block after rounds under the given keys. -/
def run (keys : List Bits) (block : Bytes) : Bytes :=
  let whole := select initialPlaces (bits block)
  let (left, right) := keys.foldl (fun (left, right) key => (right, xor left (mix key right)))
    (whole.extract 0 32, whole.extract 32 64)
  Bytes.bigEndian 8 (number (select finalPlaces (right ++ left)))

/-- Decryption of single blocks under three keys of eight bytes. -/
def tripleDecryption (key : Bytes) : Bytes → Bytes :=
  let first := roundKeys (key.take 8)
  let second := roundKeys ((key.drop 8).take 8)
  let third := roundKeys ((key.drop 16).take 8)
  fun block => run first.reverse (run second (run third.reverse block))

end CredentialWatch.Cipher.Des
