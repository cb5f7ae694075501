import CredentialWatch.Bytes

/-!
# AES

Blocks of sixteen bytes are decrypted under keys of sixteen, twenty-four or thirty-two bytes. The
state stands in four columns of four bytes. The substitution follows from the inverse in the field
of 256 elements, so it is computed here and not listed.
-/
namespace CredentialWatch.Cipher.Aes

def blockLength : Nat := 16

/-- Twice an element of the field. -/
def double (x : UInt8) : UInt8 :=
  (x <<< 1) ^^^ (if x < 0x80 then 0 else 0x1b)

/-- The product of two elements of the field. -/
def times (x y : UInt8) : UInt8 :=
  ((List.range 8).foldl
    (fun (sum, multiple) bit =>
      (if (y >>> UInt8.ofNat bit) &&& 1 = 1 then sum ^^^ multiple else sum, double multiple))
    (0, x)).1

/-- The inverse of an element, which is its power 254; the inverse of zero is zero. -/
def inverse (x : UInt8) : UInt8 :=
  ((List.range 7).foldl
    (fun (product, power) _ =>
      let square := times power power
      (times product square, square))
    (1, x)).1

def rotateLeft8 (x count : UInt8) : UInt8 :=
  (x <<< count) ||| (x >>> (8 - count))

/-- The substitution of a byte: the inverse, mixed with its rotations. -/
def substitute (x : UInt8) : UInt8 :=
  let y := inverse x
  y ^^^ rotateLeft8 y 1 ^^^ rotateLeft8 y 2 ^^^ rotateLeft8 y 3 ^^^ rotateLeft8 y 4 ^^^ 0x63

/-- The substitution of each byte. -/
def substitutes : Array UInt8 :=
  ((List.range 256).map fun value => substitute (UInt8.ofNat value)).toArray

/-- The byte that each byte is the substitute of. -/
def preimages : Array UInt8 :=
  (List.range 256).foldl
    (fun table value =>
      table.setIfInBounds (substitutes.getD value 0).toNat (UInt8.ofNat value))
    (Array.replicate 256 0)

/-- The substitute of a byte, from the table. -/
def substituted (x : UInt8) : UInt8 := substitutes.getD x.toNat 0

/-- The byte with a substitute, from the table. -/
def preimage (x : UInt8) : UInt8 := preimages.getD x.toNat 0

/-- The word that follows a stretch of key words, after `index` of them. -/
def nextWord (keyWords : Nat) (words : Array Bytes) (index : Nat) : Bytes :=
  let last := words.getD (index - 1) []
  let mixed :=
    if index % keyWords = 0 then
      let constant := Nat.repeat double (index / keyWords - 1) 1
      (last.rotateLeft.map substituted).modifyHead (· ^^^ constant)
    else if 6 < keyWords ∧ index % keyWords = 4 then last.map substituted
    else last
  Bytes.xor (words.getD (index - keyWords) []) mixed

/-- The keys of the rounds, sixteen bytes each. -/
def roundKeys (key : Bytes) : List Bytes :=
  let keyWords := key.length / 4
  let words := (List.range' keyWords (4 * (keyWords + 7) - keyWords)).foldl
    (fun words index => words.push (nextWord keyWords words index)) (key.pieces 4).toArray
  Bytes.pieces blockLength words.toList.flatten

/-- Undo the rotation of the rows: row `r` goes back `r` columns. -/
def unshiftRows (state : Bytes) : Bytes :=
  let bytes := state.toArray
  (List.range 16).map fun place => bytes.getD ((place + 16 - 4 * (place % 4)) % 16 / 4 * 4 +
    place % 4) 0

/-- Undo the mixing of a column. -/
def unmixColumn : Bytes → Bytes
  | [a, b, c, d] =>
    [times a 14 ^^^ times b 11 ^^^ times c 13 ^^^ times d 9,
      times a 9 ^^^ times b 14 ^^^ times c 11 ^^^ times d 13,
      times a 13 ^^^ times b 9 ^^^ times c 14 ^^^ times d 11,
      times a 11 ^^^ times b 13 ^^^ times c 9 ^^^ times d 14]
  | column => column

/-- Undo a round up to the mixing of the columns. -/
def unround (state key : Bytes) : Bytes :=
  Bytes.xor ((unshiftRows state).map preimage) key

/-- The block that is encrypted to a block, under the keys of the rounds from the last one back. -/
def decryptBlock (keys : List Bytes) (block : Bytes) : Bytes :=
  match keys with
  | [] => block
  | last :: keys =>
    let start := Bytes.xor block last
    let state := keys.dropLast.foldl
      (fun state key => ((unround state key).pieces 4).flatMap unmixColumn) start
    unround state (keys.getLast?.getD [])

/-- Decryption of single blocks under a key. -/
def decryption (key : Bytes) : Bytes → Bytes :=
  decryptBlock (roundKeys key).reverse

end CredentialWatch.Cipher.Aes
