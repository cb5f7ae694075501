import Mathlib
import CredentialWatch.Text.Utf8

/-!
# UTF-8 is read as it is written

The reader works byte by byte, the writer character by character. A byte string reads as one
character and a remainder exactly if it is that character's form and the remainder. So a text is
read back from its form, strictly and lossily, and only its own form reads as it.
-/
namespace CredentialWatch.Text.Utf8

open String (utf8EncodeChar)

theorem toNat_ofNat {number : Nat} (h : number < 0xD800 ∨ 0xDFFF < number ∧ number < 0x110000) :
    (Char.ofNat number).toNat = number := by
  have hvalid : number.isValidChar := h
  simp [Char.ofNat, hvalid, Char.ofNatAux, Char.toNat]

section Encoding

variable (char : Char)

theorem toNat_valid :
    char.toNat < 0xD800 ∨ 0xDFFF < char.toNat ∧ char.toNat < 0x110000 := char.valid

theorem encode_one (h : char.toNat < 0x80) :
    ∃ first, utf8EncodeChar char = [first] ∧ first.toNat = char.toNat := by
  have hval : char.val.toNat = char.toNat := rfl
  refine ⟨UInt8.ofNat char.toNat, ?_, ?_⟩
  · rw [utf8EncodeChar]
    simp only [hval]
    rw [if_pos (by omega)]
  · rw [UInt8.toNat_ofNat']
    omega

theorem encode_two (hlow : 0x80 ≤ char.toNat) (hhigh : char.toNat < 0x800) :
    ∃ first second, utf8EncodeChar char = [first, second] ∧
      first.toNat = char.toNat / 64 + 0xC0 ∧ second.toNat = char.toNat % 64 + 0x80 := by
  have hval : char.val.toNat = char.toNat := rfl
  refine ⟨UInt8.ofNat (char.toNat / 64 % 0x20 + 0xC0), UInt8.ofNat (char.toNat % 0x40 + 0x80),
    ?_, ?_, ?_⟩
  · rw [utf8EncodeChar]
    simp only [hval]
    rw [if_neg (by omega), if_pos (by omega)]
  · rw [UInt8.toNat_ofNat']
    omega
  · rw [UInt8.toNat_ofNat']
    omega

theorem encode_three (hlow : 0x800 ≤ char.toNat) (hhigh : char.toNat < 0x10000) :
    ∃ first second third, utf8EncodeChar char = [first, second, third] ∧
      first.toNat = char.toNat / 4096 + 0xE0 ∧ second.toNat = char.toNat / 64 % 64 + 0x80 ∧
      third.toNat = char.toNat % 64 + 0x80 := by
  have hval : char.val.toNat = char.toNat := rfl
  refine ⟨UInt8.ofNat (char.toNat / 4096 % 0x10 + 0xE0),
    UInt8.ofNat (char.toNat / 64 % 0x40 + 0x80), UInt8.ofNat (char.toNat % 0x40 + 0x80),
    ?_, ?_, ?_, ?_⟩
  · rw [utf8EncodeChar]
    simp only [hval]
    rw [if_neg (by omega), if_neg (by omega), if_pos (by omega)]
  · rw [UInt8.toNat_ofNat']
    omega
  · rw [UInt8.toNat_ofNat']
    omega
  · rw [UInt8.toNat_ofNat']
    omega

theorem encode_four (hlow : 0x10000 ≤ char.toNat) :
    ∃ first second third fourth, utf8EncodeChar char = [first, second, third, fourth] ∧
      first.toNat = char.toNat / 262144 + 0xF0 ∧
      second.toNat = char.toNat / 4096 % 64 + 0x80 ∧
      third.toNat = char.toNat / 64 % 64 + 0x80 ∧ fourth.toNat = char.toNat % 64 + 0x80 := by
  have hval : char.val.toNat = char.toNat := rfl
  have hvalid := toNat_valid char
  refine ⟨UInt8.ofNat (char.toNat / 262144 % 0x08 + 0xF0),
    UInt8.ofNat (char.toNat / 4096 % 0x40 + 0x80), UInt8.ofNat (char.toNat / 64 % 0x40 + 0x80),
    UInt8.ofNat (char.toNat % 0x40 + 0x80), ?_, ?_, ?_, ?_, ?_⟩
  · rw [utf8EncodeChar]
    simp only [hval]
    rw [if_neg (by omega), if_neg (by omega), if_neg (by omega)]
  · rw [UInt8.toNat_ofNat']
    omega
  · rw [UInt8.toNat_ofNat']
    omega
  · rw [UInt8.toNat_ofNat']
    omega
  · rw [UInt8.toNat_ofNat']
    omega

variable {first second third fourth : UInt8}

/-- A single byte is the form of the character that it stands for. -/
theorem encode_ofNat_one (h : first.toNat < 0x80) :
    utf8EncodeChar (Char.ofNat first.toNat) = [first] := by
  have hvalue := toNat_ofNat (.inl (by omega : first.toNat < 0xD800))
  obtain ⟨byte, hform, hbyte⟩ := encode_one (Char.ofNat first.toNat) (by omega)
  rw [hform, UInt8.toNat_inj.1 (hbyte.trans hvalue)]

theorem encode_ofNat_two (hfirst : 0xC2 ≤ first.toNat ∧ first.toNat < 0xE0)
    (hsecond : 0x80 ≤ second.toNat ∧ second.toNat ≤ 0xBF) :
    utf8EncodeChar (Char.ofNat (first.toNat % 32 * 64 + second.toNat % 64)) = [first, second] := by
  generalize hnumber : first.toNat % 32 * 64 + second.toNat % 64 = number
  have hvalue : (Char.ofNat number).toNat = number := toNat_ofNat (by omega)
  obtain ⟨byte₁, byte₂, hform, hbyte₁, hbyte₂⟩ :=
    encode_two (Char.ofNat number) (by omega) (by omega)
  rw [hform, UInt8.toNat_inj.1 (by omega : byte₁.toNat = first.toNat),
    UInt8.toNat_inj.1 (by omega : byte₂.toNat = second.toNat)]

theorem encode_ofNat_three (hfirst : 0xE0 ≤ first.toNat ∧ first.toNat < 0xF0)
    (hlow : (if first.toNat = 0xE0 then 0xA0 else 0x80) ≤ second.toNat)
    (hhigh : second.toNat ≤ (if first.toNat = 0xED then 0x9F else 0xBF))
    (hthird : 0x80 ≤ third.toNat ∧ third.toNat ≤ 0xBF) :
    utf8EncodeChar (Char.ofNat
      ((first.toNat % 16 * 64 + second.toNat % 64) * 64 + third.toNat % 64)) =
        [first, second, third] := by
  generalize hnumber : (first.toNat % 16 * 64 + second.toNat % 64) * 64 + third.toNat % 64 = number
  have hsecond : 0x80 ≤ second.toNat ∧ second.toNat ≤ 0xBF := by
    split_ifs at hlow hhigh <;> omega
  have hleast : 0x800 ≤ number := by
    split_ifs at hlow <;> omega
  have hvalid : number < 0xD800 ∨ 0xDFFF < number ∧ number < 0x110000 := by
    split_ifs at hhigh <;> omega
  have hvalue : (Char.ofNat number).toNat = number := toNat_ofNat hvalid
  obtain ⟨byte₁, byte₂, byte₃, hform, hbyte₁, hbyte₂, hbyte₃⟩ :=
    encode_three (Char.ofNat number) (by omega) (by omega)
  rw [hform, UInt8.toNat_inj.1 (by omega : byte₁.toNat = first.toNat),
    UInt8.toNat_inj.1 (by omega : byte₂.toNat = second.toNat),
    UInt8.toNat_inj.1 (by omega : byte₃.toNat = third.toNat)]

theorem encode_ofNat_four (hfirst : 0xF0 ≤ first.toNat ∧ first.toNat ≤ 0xF4)
    (hlow : (if first.toNat = 0xF0 then 0x90 else 0x80) ≤ second.toNat)
    (hhigh : second.toNat ≤ (if first.toNat = 0xF4 then 0x8F else 0xBF))
    (hthird : 0x80 ≤ third.toNat ∧ third.toNat ≤ 0xBF)
    (hfourth : 0x80 ≤ fourth.toNat ∧ fourth.toNat ≤ 0xBF) :
    utf8EncodeChar (Char.ofNat
      (((first.toNat % 8 * 64 + second.toNat % 64) * 64 + third.toNat % 64) * 64 +
        fourth.toNat % 64)) = [first, second, third, fourth] := by
  generalize hnumber : ((first.toNat % 8 * 64 + second.toNat % 64) * 64 + third.toNat % 64) * 64 +
    fourth.toNat % 64 = number
  have hsecond : 0x80 ≤ second.toNat ∧ second.toNat ≤ 0xBF := by
    split_ifs at hlow hhigh <;> omega
  have hleast : 0x10000 ≤ number := by
    split_ifs at hlow <;> omega
  have hmost : number < 0x110000 := by
    split_ifs at hhigh <;> omega
  have hvalue : (Char.ofNat number).toNat = number := toNat_ofNat (by omega)
  obtain ⟨byte₁, byte₂, byte₃, byte₄, hform, hbyte₁, hbyte₂, hbyte₃, hbyte₄⟩ :=
    encode_four (Char.ofNat number) (by omega)
  rw [hform, UInt8.toNat_inj.1 (by omega : byte₁.toNat = first.toNat),
    UInt8.toNat_inj.1 (by omega : byte₂.toNat = second.toNat),
    UInt8.toNat_inj.1 (by omega : byte₃.toNat = third.toNat),
    UInt8.toNat_inj.1 (by omega : byte₄.toNat = fourth.toNat)]

end Encoding

section Start

variable {byte : UInt8}

theorem start_one (h : byte.toNat < 0x80) : start byte = .inl (.char (Char.ofNat byte.toNat)) := by
  simp [start, h]

theorem start_two (hlow : 0xC2 ≤ byte.toNat) (hhigh : byte.toNat < 0xE0) :
    start byte = .inr ⟨1, 0x80, 0xBF, byte.toNat % 32, 1⟩ := by
  simp only [start]
  rw [if_neg (by omega), if_neg (by omega), if_pos hhigh]

theorem start_three (hlow : 0xE0 ≤ byte.toNat) (hhigh : byte.toNat < 0xF0) :
    start byte = .inr ⟨2, if byte.toNat = 0xE0 then 0xA0 else 0x80,
      if byte.toNat = 0xED then 0x9F else 0xBF, byte.toNat % 16, 1⟩ := by
  by_cases hfirst : byte.toNat = 0xE0
  · simp [start, hfirst]
  by_cases hlast : byte.toNat = 0xED
  · simp [start, hlast]
  simp only [start]
  rw [if_neg (by omega), if_neg (by omega), if_neg (by omega), if_neg hfirst, if_neg hlast,
    if_pos hhigh, if_neg hfirst, if_neg hlast]

theorem start_four (hlow : 0xF0 ≤ byte.toNat) (hhigh : byte.toNat ≤ 0xF4) :
    start byte = .inr ⟨3, if byte.toNat = 0xF0 then 0x90 else 0x80,
      if byte.toNat = 0xF4 then 0x8F else 0xBF, byte.toNat % 8, 1⟩ := by
  by_cases hfirst : byte.toNat = 0xF0
  · simp [start, hfirst]
  by_cases hlast : byte.toNat = 0xF4
  · simp [start, hlast]
  simp only [start]
  rw [if_neg (by omega), if_neg (by omega), if_neg (by omega), if_neg (by omega), if_neg (by omega),
    if_neg (by omega), if_neg hfirst, if_pos (by omega), if_neg hfirst, if_neg hlast]

theorem start_malformed (h : 0x80 ≤ byte.toNat ∧ byte.toNat < 0xC2 ∨ 0xF4 < byte.toNat) :
    start byte = .inl (.malformed 1) := by
  simp only [start]
  rcases h with ⟨hlow, hhigh⟩ | hlarge
  · rw [if_neg (by omega), if_pos hhigh]
  · rw [if_neg (by omega), if_neg (by omega), if_neg (by omega), if_neg (by omega),
      if_neg (by omega), if_neg (by omega), if_neg (by omega), if_neg (by omega), if_neg (by omega)]

end Start

section Sequences

variable {bytes : Bytes} {char : Char} {others : List Piece}

/-- The last byte of a sequence makes it a character. -/
theorem piecesFrom_last_iff {low high : UInt8} {bits seen : Nat} :
    piecesFrom (some ⟨1, low, high, bits, seen⟩) bytes = .char char :: others ↔
      ∃ byte rest, bytes = byte :: rest ∧ low.toNat ≤ byte.toNat ∧ byte.toNat ≤ high.toNat ∧
        char = Char.ofNat (bits * 64 + byte.toNat % 64) ∧ others = piecesFrom none rest := by
  cases bytes with
  | nil => simp [piecesFrom]
  | cons byte rest =>
    simp only [List.cons.injEq, ↓existsAndEq, true_and, piecesFrom, step, UInt8.le_iff_toNat_le]
    by_cases hlow : low.toNat ≤ byte.toNat
    · by_cases hhigh : byte.toNat ≤ high.toNat <;> simp [hlow, hhigh, eq_comm]
    · simp [hlow]

/-- Any other byte of a sequence only leads on. -/
theorem piecesFrom_inner_iff {due : Nat} {low high : UInt8} {bits seen : Nat} :
    piecesFrom (some ⟨due + 2, low, high, bits, seen⟩) bytes = .char char :: others ↔
      ∃ byte rest, bytes = byte :: rest ∧ low.toNat ≤ byte.toNat ∧ byte.toNat ≤ high.toNat ∧
        piecesFrom (some ⟨due + 1, 0x80, 0xBF, bits * 64 + byte.toNat % 64, seen + 1⟩) rest =
          .char char :: others := by
  cases bytes with
  | nil => simp [piecesFrom]
  | cons byte rest =>
    simp only [List.cons.injEq, ↓existsAndEq, true_and, piecesFrom, step, UInt8.le_iff_toNat_le]
    by_cases hlow : low.toNat ≤ byte.toNat
    · by_cases hhigh : byte.toNat ≤ high.toNat <;> simp [hlow, hhigh]
    · simp [hlow]

theorem pieces_cons (byte : UInt8) (rest : Bytes) :
    pieces (byte :: rest) =
      match start byte with
      | .inl piece => piece :: pieces rest
      | .inr pending => piecesFrom (some pending) rest := by
  rw [pieces, piecesFrom, step, begin]
  cases start byte <;> rfl

variable {first : UInt8}

theorem pieces_one_iff (h : first.toNat < 0x80) :
    pieces (first :: bytes) = .char char :: others ↔
      char = Char.ofNat first.toNat ∧ others = pieces bytes := by
  rw [pieces_cons, start_one h]
  simp [eq_comm]

theorem pieces_two_iff (hlow : 0xC2 ≤ first.toNat) (hhigh : first.toNat < 0xE0) :
    pieces (first :: bytes) = .char char :: others ↔
      ∃ second rest, bytes = second :: rest ∧ 0x80 ≤ second.toNat ∧ second.toNat ≤ 0xBF ∧
        char = Char.ofNat (first.toNat % 32 * 64 + second.toNat % 64) ∧ others = pieces rest := by
  rw [pieces_cons, start_two hlow hhigh]
  exact piecesFrom_last_iff

theorem pieces_three_iff (hlow : 0xE0 ≤ first.toNat) (hhigh : first.toNat < 0xF0) :
    pieces (first :: bytes) = .char char :: others ↔
      ∃ second third rest, bytes = second :: third :: rest ∧
        (if first.toNat = 0xE0 then 0xA0 else 0x80) ≤ second.toNat ∧
        second.toNat ≤ (if first.toNat = 0xED then 0x9F else 0xBF) ∧
        0x80 ≤ third.toNat ∧ third.toNat ≤ 0xBF ∧
        char = Char.ofNat
          ((first.toNat % 16 * 64 + second.toNat % 64) * 64 + third.toNat % 64) ∧
        others = pieces rest := by
  have hleast : (if first.toNat = 0xE0 then 0xA0 else 0x80 : UInt8).toNat =
      if first.toNat = 0xE0 then 0xA0 else 0x80 := apply_ite UInt8.toNat _ _ _
  have hmost : (if first.toNat = 0xED then 0x9F else 0xBF : UInt8).toNat =
      if first.toNat = 0xED then 0x9F else 0xBF := apply_ite UInt8.toNat _ _ _
  rw [pieces_cons, start_three hlow hhigh, ← hleast, ← hmost]
  constructor
  · intro h
    obtain ⟨second, rest, rfl, hlow, hhigh, hinner⟩ := piecesFrom_inner_iff.1 h
    obtain ⟨third, rest, rfl, hlast⟩ := piecesFrom_last_iff.1 hinner
    exact ⟨second, third, rest, rfl, hlow, hhigh, hlast⟩
  · rintro ⟨second, third, rest, rfl, hlow, hhigh, h⟩
    exact piecesFrom_inner_iff.2 ⟨second, _, rfl, hlow, hhigh,
      piecesFrom_last_iff.2 ⟨third, rest, rfl, h⟩⟩

theorem pieces_four_iff (hlow : 0xF0 ≤ first.toNat) (hhigh : first.toNat ≤ 0xF4) :
    pieces (first :: bytes) = .char char :: others ↔
      ∃ second third fourth rest, bytes = second :: third :: fourth :: rest ∧
        (if first.toNat = 0xF0 then 0x90 else 0x80) ≤ second.toNat ∧
        second.toNat ≤ (if first.toNat = 0xF4 then 0x8F else 0xBF) ∧
        (0x80 ≤ third.toNat ∧ third.toNat ≤ 0xBF) ∧
        0x80 ≤ fourth.toNat ∧ fourth.toNat ≤ 0xBF ∧
        char = Char.ofNat
          (((first.toNat % 8 * 64 + second.toNat % 64) * 64 + third.toNat % 64) * 64 +
            fourth.toNat % 64) ∧
        others = pieces rest := by
  have hleast : (if first.toNat = 0xF0 then 0x90 else 0x80 : UInt8).toNat =
      if first.toNat = 0xF0 then 0x90 else 0x80 := apply_ite UInt8.toNat _ _ _
  have hmost : (if first.toNat = 0xF4 then 0x8F else 0xBF : UInt8).toNat =
      if first.toNat = 0xF4 then 0x8F else 0xBF := apply_ite UInt8.toNat _ _ _
  rw [pieces_cons, start_four hlow hhigh, ← hleast, ← hmost]
  constructor
  · intro h
    obtain ⟨second, rest, rfl, hlow, hhigh, houter⟩ := piecesFrom_inner_iff.1 h
    obtain ⟨third, rest, rfl, hthird, hthird', hinner⟩ := piecesFrom_inner_iff.1 houter
    obtain ⟨fourth, rest, rfl, hlast⟩ := piecesFrom_last_iff.1 hinner
    exact ⟨second, third, fourth, rest, rfl, hlow, hhigh, ⟨hthird, hthird'⟩, hlast⟩
  · rintro ⟨second, third, fourth, rest, rfl, hlow, hhigh, ⟨hthird, hthird'⟩, h⟩
    exact piecesFrom_inner_iff.2 ⟨second, _, rfl, hlow, hhigh,
      piecesFrom_inner_iff.2 ⟨third, _, rfl, hthird, hthird',
        piecesFrom_last_iff.2 ⟨fourth, rest, rfl, h⟩⟩⟩

end Sequences

/-- A form that begins the bytes is read as its character. -/
theorem pieces_encodeChar_append (char : Char) (rest : Bytes) :
    pieces (utf8EncodeChar char ++ rest) = .char char :: pieces rest := by
  have hvalid := toNat_valid char
  have hchar : ∀ number, number = char.toNat → char = Char.ofNat number := by
    rintro number rfl
    exact (Char.ofNat_toNat char).symm
  rcases Nat.lt_or_ge char.toNat 0x80 with hone | hone
  · obtain ⟨first, hform, hfirst⟩ := encode_one char hone
    rw [hform]
    exact (pieces_one_iff (by omega)).2 ⟨hchar _ hfirst, rfl⟩
  rcases Nat.lt_or_ge char.toNat 0x800 with htwo | htwo
  · obtain ⟨first, second, hform, hfirst, hsecond⟩ := encode_two char hone htwo
    rw [hform]
    exact (pieces_two_iff (by omega) (by omega)).2
      ⟨second, rest, rfl, by omega, by omega, hchar _ (by omega), rfl⟩
  rcases Nat.lt_or_ge char.toNat 0x10000 with hthree | hthree
  · obtain ⟨first, second, third, hform, hfirst, hsecond, hthird⟩ := encode_three char htwo hthree
    rw [hform]
    exact (pieces_three_iff (by omega) (by omega)).2 ⟨second, third, rest, rfl,
      by split_ifs <;> omega, by split_ifs <;> omega, by omega, by omega, hchar _ (by omega), rfl⟩
  · obtain ⟨first, second, third, fourth, hform, hfirst, hsecond, hthird, hfourth⟩ :=
      encode_four char hthree
    rw [hform]
    exact (pieces_four_iff (by omega) (by omega)).2 ⟨second, third, fourth, rest, rfl,
      by split_ifs <;> omega, by split_ifs <;> omega, ⟨by omega, by omega⟩, by omega, by omega,
      hchar _ (by omega), rfl⟩

/-- What is read as a character begins with its form. -/
theorem eq_encodeChar_append {bytes : Bytes} {char : Char} {others : List Piece}
    (h : pieces bytes = .char char :: others) :
    ∃ rest, bytes = utf8EncodeChar char ++ rest ∧ others = pieces rest := by
  cases bytes with
  | nil => simp [pieces, piecesFrom] at h
  | cons first bytes =>
    rcases Nat.lt_or_ge first.toNat 0x80 with hone | hone
    · obtain ⟨rfl, rfl⟩ := (pieces_one_iff hone).1 h
      exact ⟨bytes, by rw [encode_ofNat_one hone]; rfl, rfl⟩
    rcases Nat.lt_or_ge first.toNat 0xC2 with hbad | htwo
    · rw [pieces_cons, start_malformed (.inl ⟨hone, hbad⟩)] at h
      cases h
    rcases Nat.lt_or_ge first.toNat 0xE0 with hsize | hthree
    · obtain ⟨second, rest, rfl, hlow, hhigh, rfl, rfl⟩ := (pieces_two_iff htwo hsize).1 h
      exact ⟨rest, by rw [encode_ofNat_two ⟨htwo, hsize⟩ ⟨hlow, hhigh⟩]; rfl, rfl⟩
    rcases Nat.lt_or_ge first.toNat 0xF0 with hsize | hfour
    · obtain ⟨second, third, rest, rfl, hlow, hhigh, hthird, hthird', rfl, rfl⟩ :=
        (pieces_three_iff hthree hsize).1 h
      refine ⟨rest, ?_, rfl⟩
      rw [encode_ofNat_three ⟨hthree, hsize⟩ hlow hhigh ⟨hthird, hthird'⟩]
      rfl
    rcases Nat.lt_or_ge 0xF4 first.toNat with hbad | hsize
    · rw [pieces_cons, start_malformed (.inr hbad)] at h
      cases h
    · obtain ⟨second, third, fourth, rest, rfl, hlow, hhigh, hthird, hfourth, hfourth', rfl, rfl⟩ :=
        (pieces_four_iff hfour hsize).1 h
      refine ⟨rest, ?_, rfl⟩
      rw [encode_ofNat_four ⟨hfour, hsize⟩ hlow hhigh hthird ⟨hfourth, hfourth'⟩]
      rfl

theorem piecesFrom_some_ne_nil (pending : Pending) (bytes : Bytes) :
    piecesFrom (some pending) bytes ≠ [] := by
  induction bytes generalizing pending with
  | nil => simp [piecesFrom]
  | cons byte rest ih =>
    rw [piecesFrom, step]
    split_ifs with hbounds hdue
    · simp
    · simpa using ih _
    · simp

theorem pieces_eq_nil_iff {bytes : Bytes} : pieces bytes = [] ↔ bytes = [] := by
  cases bytes with
  | nil => simp [pieces, piecesFrom]
  | cons byte rest =>
    rw [pieces_cons]
    cases start byte with
    | inl piece => simp
    | inr pending => simp [piecesFrom_some_ne_nil]

/-- A byte string reads as characters and nothing else exactly if it is their forms in order. -/
theorem pieces_eq_map_char_iff {bytes : Bytes} {chars : List Char} :
    pieces bytes = chars.map .char ↔ bytes = chars.flatMap utf8EncodeChar := by
  induction chars generalizing bytes with
  | nil => simp [pieces_eq_nil_iff]
  | cons char chars ih =>
    simp only [List.map_cons, List.flatMap_cons]
    constructor
    · intro h
      obtain ⟨rest, rfl, hrest⟩ := eq_encodeChar_append h
      rw [ih.1 hrest.symm]
    · rintro rfl
      rw [pieces_encodeChar_append, ih.2 rfl]

theorem pieces_encode (text : String) : pieces (encode text) = text.toList.map .char :=
  pieces_eq_map_char_iff.2 rfl

theorem collect_eq_ok_iff {index : Nat} {pieces : List Piece} {chars : List Char} :
    collect index pieces = .ok chars ↔ pieces = chars.map .char := by
  induction pieces generalizing index chars with
  | nil => cases chars <;> simp [collect]
  | cons piece pieces ih =>
    cases piece with
    | char char =>
      cases chars with
      | nil => cases h : collect (index + char.utf8Size) pieces <;> simp [collect, h]
      | cons first chars =>
        rw [List.map_cons, List.cons.injEq, Piece.char.injEq, ← ih, collect]
        cases collect (index + char.utf8Size) pieces <;> simp
    | malformed length => cases chars <;> simp [collect]
    | cut length => cases chars <;> simp [collect]

/-- A byte string spells a text exactly if it is the form of the text. -/
theorem decode?_eq_some_iff {bytes : Bytes} {text : String} :
    decode? bytes = some text ↔ bytes = encode text := by
  have hchars : decode? bytes = some text ↔ collect 0 (pieces bytes) = .ok text.toList := by
    rw [decode?, decode]
    cases collect 0 (pieces bytes) with
    | error defect => simp [Except.toOption]
    | ok chars => simp [Except.toOption, ← String.ofList_inj]
  rw [hchars, collect_eq_ok_iff, pieces_eq_map_char_iff]
  rfl

theorem decode_eq_ok_iff {bytes : Bytes} {text : String} :
    decode bytes = .ok text ↔ bytes = encode text := by
  rw [← decode?_eq_some_iff, decode?]
  cases decode bytes <;> simp [Except.toOption]

/-- Lossy reading loses nothing of a text. -/
@[simp] theorem lossy_encode (text : String) : lossy (encode text) = text := by
  rw [lossy, pieces_encode, List.map_map]
  have hshown : Piece.shown ∘ Piece.char = id := rfl
  rw [hshown, List.map_id, String.ofList_toList]

theorem encode_injective : Function.Injective encode :=
  Function.LeftInverse.injective lossy_encode

/-- What is read lossily without a replacement is the form of what is read. -/
theorem eq_encode_of_lossy {bytes : Bytes} {text : String} (h : lossy bytes = text)
    (hclean : '\uFFFD' ∉ text.toList) : bytes = encode text := by
  have hshown : (pieces bytes).map Piece.shown = text.toList := by
    rw [← h, lossy, String.toList_ofList]
  have hpieces : pieces bytes = text.toList.map .char := by
    rw [← hshown, List.map_map]
    refine (List.map_id _).symm.trans (List.map_congr_left fun piece hpiece => ?_)
    cases piece with
    | char char => rfl
    | malformed length => exact absurd (hshown ▸ List.mem_map_of_mem hpiece) hclean
    | cut length => exact absurd (hshown ▸ List.mem_map_of_mem hpiece) hclean
  exact pieces_eq_map_char_iff.1 hpieces

@[simp] theorem length_encode (text : String) : (encode text).length = text.utf8ByteSize := by
  calc (encode text).length = text.toList.utf8Encode.size := by simp [encode, List.utf8Encode]
    _ = (String.ofList text.toList).utf8ByteSize := by
      rw [← String.size_toByteArray, String.toByteArray_ofList]
    _ = text.utf8ByteSize := by rw [String.ofList_toList]

end CredentialWatch.Text.Utf8
