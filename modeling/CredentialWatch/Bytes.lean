/-!
# Byte strings

A byte string is a list of bytes. Unsigned numbers are written with the most significant byte
first; `value` reads what `bigEndian` writes. Hexadecimal text is lower case when written and of
either case when read.
-/
namespace CredentialWatch

abbrev Bytes := List UInt8

namespace Bytes

/-- The number that a byte string spells, most significant byte first. -/
def value (bytes : Bytes) : Nat :=
  bytes.foldl (fun sum byte => sum * 256 + byte.toNat) 0

/-- The lowest `width` bytes of a number, most significant byte first. -/
def bigEndian : Nat → Nat → Bytes
  | 0, _ => []
  | width + 1, number => bigEndian width (number / 256) ++ [UInt8.ofNat (number % 256)]

@[simp] theorem length_bigEndian (width number : Nat) :
    (bigEndian width number).length = width := by
  induction width generalizing number with
  | zero => rfl
  | succ width ih => simp [bigEndian, ih]

@[simp] theorem value_append_singleton (bytes : Bytes) (byte : UInt8) :
    value (bytes ++ [byte]) = value bytes * 256 + byte.toNat := by
  simp [value]

/-- How many numbers `width` bytes can spell. -/
def capacity (width : Nat) : Nat := Nat.pow 256 width

theorem capacity_succ (width : Nat) : capacity (width + 1) = capacity width * 256 := rfl

/-- Reading back a written number gives it modulo what its bytes can spell. -/
theorem value_bigEndian (width number : Nat) :
    value (bigEndian width number) = number % capacity width := by
  induction width generalizing number with
  | zero => simp [bigEndian, value, capacity, Nat.mod_one]
  | succ width ih =>
    have hbyte : (UInt8.ofNat (number % 256)).toNat = number % 256 := by
      rw [UInt8.toNat_ofNat']
      omega
    rw [bigEndian, value_append_singleton, ih, hbyte, capacity_succ,
      Nat.mul_comm (capacity width), Nat.mod_mul]
    omega

private theorem eq_append_singleton {width : Nat} {bytes : Bytes}
    (h : bytes.length = width + 1) :
    ∃ first last, bytes = first ++ [last] ∧ first.length = width := by
  obtain rfl | ⟨first, last, rfl⟩ := bytes.eq_nil_or_concat
  · simp at h
  · rw [List.length_concat] at h
    exact ⟨first, last, by rw [List.concat_eq_append], by omega⟩

theorem value_lt {width : Nat} {bytes : Bytes} (h : bytes.length = width) :
    value bytes < capacity width := by
  induction width generalizing bytes with
  | zero =>
    rw [List.eq_nil_of_length_eq_zero h]
    decide
  | succ width ih =>
    obtain ⟨first, last, rfl, hfirst⟩ := eq_append_singleton h
    have hlast := last.toNat_lt
    have hvalue := ih hfirst
    rw [value_append_singleton, capacity_succ]
    omega

/-- Writing the number that bytes spell gives these bytes again. -/
theorem bigEndian_value {width : Nat} {bytes : Bytes} (h : bytes.length = width) :
    bigEndian width (value bytes) = bytes := by
  induction width generalizing bytes with
  | zero => rw [List.eq_nil_of_length_eq_zero h, bigEndian]
  | succ width ih =>
    obtain ⟨first, last, rfl, hfirst⟩ := eq_append_singleton h
    have hlast := last.toNat_lt
    have hhigh : (value first * 256 + last.toNat) / 256 = value first := by omega
    have hlow : (value first * 256 + last.toNat) % 256 = last.toNat := by omega
    rw [value_append_singleton, bigEndian, hhigh, hlow, ih hfirst, UInt8.ofNat_toNat]

/-- The bytes of an ASCII text; a character beyond 255 keeps its lowest byte only. -/
def ascii (text : String) : Bytes :=
  text.toList.map fun char => UInt8.ofNat char.toNat

/-- The ASCII character that a digit below sixteen is written with. -/
def hexDigit (digit : Nat) : Char :=
  if digit < 10 then Char.ofNat (48 + digit) else Char.ofNat (87 + digit)

/-- The value of a hexadecimal digit of either case. -/
def hexValue? (char : Char) : Option Nat :=
  if '0' ≤ char ∧ char ≤ '9' then some (char.toNat - 48)
  else if 'a' ≤ char ∧ char ≤ 'f' then some (char.toNat - 87)
  else if 'A' ≤ char ∧ char ≤ 'F' then some (char.toNat - 55)
  else none

/-- Two lower-case hexadecimal digits for each byte. -/
def hex (bytes : Bytes) : String :=
  String.ofList (bytes.flatMap fun byte => [hexDigit (byte.toNat / 16), hexDigit (byte.toNat % 16)])

/-- The byte string that pairs of hexadecimal digits spell. -/
def ofHexDigits? : List Char → Option Bytes
  | [] => some []
  | [_] => none
  | high :: low :: rest => do
    let high ← hexValue? high
    let low ← hexValue? low
    return UInt8.ofNat (high * 16 + low) :: (← ofHexDigits? rest)

/-- The first `count` bytes and what follows them, if there are that many. -/
def split? (count : Nat) (bytes : Bytes) : Option (Bytes × Bytes) :=
  let first := bytes.take count
  if first.length = count then some (first, bytes.drop count) else none

theorem split?_eq_some_iff {count : Nat} {bytes first rest : Bytes} :
    bytes.split? count = some (first, rest) ↔ bytes = first ++ rest ∧ first.length = count := by
  constructor
  · intro h
    simp only [split?] at h
    split at h
    · cases h
      exact ⟨(List.take_append_drop count bytes).symm, by assumption⟩
    · cases h
  · rintro ⟨rfl, rfl⟩
    simp [split?]

/-- The bytes of a number in least significant first order, `width` of them. -/
def littleEndian (width number : Nat) : Bytes :=
  (bigEndian width number).reverse

/-- Byte-wise exclusive or, as long as the shorter operand. -/
def xor (left right : Bytes) : Bytes :=
  left.zipWith (· ^^^ ·) right

/-- Pieces of `size` bytes, the last one possibly shorter. -/
def pieces (size : Nat) (bytes : Bytes) : List Bytes :=
  go bytes.length bytes
where
  go : Nat → Bytes → List Bytes
    | 0, _ => []
    | _ + 1, [] => []
    | count + 1, bytes => bytes.take size :: go count (bytes.drop size)

end Bytes

end CredentialWatch
