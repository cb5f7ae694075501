import CredentialWatch.Proofs.Utf8
import CredentialWatch.Text.ModifiedUtf8

/-!
# Modified UTF-8 read as UTF-8

A plain character has its UTF-8 form and is read from it. Of the form of any other character no byte
is part of a character: a lead byte stands before a byte that cannot continue it, and such a byte
begins nothing. So a text is read back exactly if all its characters are plain.
-/
namespace CredentialWatch.Text.ModifiedUtf8

open String (utf8EncodeChar)
open Utf8 (pieces piecesFrom Piece Pending)

variable {char : Char} {rest : Bytes}

section Forms

theorem encodeChar_of_lt (h : char.toNat < 0x10000) : encodeChar char = encodeUnit char.toNat := by
  simp [encodeChar, Utf16.units, h]

private theorem ofNat_eq {byte : UInt8} {number : Nat} (h : byte.toNat = number) :
    UInt8.ofNat number = byte := by
  rw [← h, UInt8.ofNat_toNat]

/-- A plain character has its UTF-8 form. -/
theorem encodeChar_of_isPlain (h : IsPlain char) : encodeChar char = utf8EncodeChar char := by
  obtain ⟨hlow, hhigh⟩ := h
  rw [encodeChar_of_lt hhigh, encodeUnit]
  rcases Nat.lt_or_ge char.toNat 0x80 with hone | hone
  · obtain ⟨first, hform, hfirst⟩ := Utf8.encode_one char hone
    rw [if_pos ⟨hlow, hone⟩, hform, ofNat_eq hfirst]
  rw [if_neg (by omega)]
  rcases Nat.lt_or_ge char.toNat 0x800 with htwo | htwo
  · obtain ⟨first, second, hform, hfirst, hsecond⟩ := Utf8.encode_two char hone htwo
    rw [if_pos htwo, hform, ofNat_eq (by omega : first.toNat = 0xC0 + char.toNat / 64),
      ofNat_eq (by omega : second.toNat = 0x80 + char.toNat % 64)]
  · obtain ⟨first, second, third, hform, hfirst, hsecond, hthird⟩ :=
      Utf8.encode_three char htwo hhigh
    rw [if_neg (by omega), hform, ofNat_eq (by omega : first.toNat = 0xE0 + char.toNat / 4096),
      ofNat_eq (by omega : second.toNat = 0x80 + char.toNat / 64 % 64),
      ofNat_eq (by omega : third.toNat = 0x80 + char.toNat % 64)]

/-- A surrogate's bytes: a lead byte, a byte that may not follow it, and one that begins nothing. -/
theorem encodeUnit_of_surrogate {unit : Nat} (h : 0xD800 ≤ unit ∧ unit < 0xE000) :
    ∃ second third, encodeUnit unit = [0xED, second, third] ∧
      (0xA0 ≤ second.toNat ∧ second.toNat < 0xC0) ∧ 0x80 ≤ third.toNat ∧ third.toNat < 0xC0 := by
  refine ⟨UInt8.ofNat (0x80 + unit / 64 % 64), UInt8.ofNat (0x80 + unit % 64), ?_, ?_, ?_⟩
  · have hlead : 0xE0 + unit / 4096 = 0xED := by omega
    rw [encodeUnit, if_neg (by omega), if_neg (by omega), hlead]
    rfl
  · rw [UInt8.toNat_ofNat']
    omega
  · rw [UInt8.toNat_ofNat']
    omega

end Forms

section Misreading

/-- A sequence breaks off at a byte that cannot continue it, which begins the next piece. -/
theorem piecesFrom_broken {pending : Pending} {byte : UInt8}
    (h : ¬ (pending.low ≤ byte ∧ byte ≤ pending.high)) :
    piecesFrom (some pending) (byte :: rest) =
      .malformed pending.seen :: pieces (byte :: rest) := by
  rw [piecesFrom, Utf8.step, if_neg h]
  rfl

/-- A byte that only continues a sequence begins nothing. -/
theorem pieces_continuation {byte : UInt8} (h : 0x80 ≤ byte.toNat ∧ byte.toNat < 0xC0) :
    pieces (byte :: rest) = .malformed 1 :: pieces rest := by
  rw [Utf8.pieces_cons, Utf8.start_malformed (.inl (by omega))]

theorem pieces_surrogate {unit : Nat} (h : 0xD800 ≤ unit ∧ unit < 0xE000) :
    pieces (encodeUnit unit ++ rest) = List.replicate 3 (.malformed 1) ++ pieces rest := by
  obtain ⟨second, third, hform, hsecond, hthird⟩ := encodeUnit_of_surrogate h
  have hbroken : ¬ ((0x80 : UInt8) ≤ second ∧ second ≤ (0x9F : UInt8)) := by
    rintro ⟨-, hhigh⟩
    have hbound : second.toNat ≤ 0x9F := UInt8.le_iff_toNat_le.1 hhigh
    omega
  have hlead : pieces (0xED :: second :: third :: rest) =
      .malformed 1 :: pieces (second :: third :: rest) := by
    rw [Utf8.pieces_cons]
    exact piecesFrom_broken hbroken
  rw [hform, List.cons_append, List.cons_append, List.cons_append, List.nil_append, hlead,
    pieces_continuation (by omega), pieces_continuation hthird]
  rfl

theorem pieces_nul :
    pieces (0xC0 :: 0x80 :: rest) = List.replicate 2 (.malformed 1) ++ pieces rest := by
  have hlead : Utf8.start 0xC0 = .inl (.malformed 1) := rfl
  rw [Utf8.pieces_cons, hlead]
  simp only [pieces_continuation
    (by decide : 0x80 ≤ (0x80 : UInt8).toNat ∧ (0x80 : UInt8).toNat < 0xC0)]
  rfl

/-- The form of a character that is not plain is read as one malformed piece for each byte. -/
theorem pieces_of_not_isPlain (h : ¬ IsPlain char) :
    pieces (encodeChar char ++ rest) =
      List.replicate (encodeChar char).length (.malformed 1) ++ pieces rest := by
  have hvalid := Utf8.toNat_valid char
  by_cases hnul : char.toNat = 0
  · have hform : encodeChar char = [0xC0, 0x80] := by
      rw [encodeChar_of_lt (by omega), hnul]
      rfl
    rw [hform]
    exact pieces_nul
  · have hlarge : ¬ char.toNat < 0x10000 := fun hsmall => h ⟨by omega, hsmall⟩
    generalize hhigh : 0xD800 + (char.toNat - 0x10000) / 0x400 = high
    generalize hlow : 0xDC00 + (char.toNat - 0x10000) % 0x400 = low
    have hform : encodeChar char = encodeUnit high ++ encodeUnit low := by
      simp [encodeChar, Utf16.units, hlarge, hhigh, hlow]
    have hlength : ∀ {unit : Nat}, 0xD800 ≤ unit ∧ unit < 0xE000 →
        (encodeUnit unit).length = 3 := by
      intro unit hunit
      obtain ⟨second, third, hunit, -⟩ := encodeUnit_of_surrogate hunit
      rw [hunit]
      rfl
    have hhigh' : 0xD800 ≤ high ∧ high < 0xE000 := by omega
    have hlow' : 0xD800 ≤ low ∧ low < 0xE000 := by omega
    rw [hform, List.append_assoc, pieces_surrogate hhigh', pieces_surrogate hlow',
      List.length_append,
      hlength hhigh', hlength hlow', List.replicate_add, List.append_assoc]

end Misreading

/-- What shows of a character stands at the front of what is read. -/
theorem shown_pieces (char : Char) (rest : Bytes) :
    (pieces (encodeChar char ++ rest)).map Piece.shown =
      shown char ++ (pieces rest).map Piece.shown := by
  by_cases h : IsPlain char
  · rw [shown, if_pos h, encodeChar_of_isPlain h, Utf8.pieces_encodeChar_append]
    rfl
  · rw [shown, if_neg h, pieces_of_not_isPlain h, List.map_append, List.map_replicate]
    rfl

theorem lossy_encode (text : String) : Utf8.lossy (encode text) = readAsUtf8 text := by
  have hshown : ∀ chars : List Char, (pieces (chars.flatMap encodeChar)).map Piece.shown =
      chars.flatMap shown := by
    intro chars
    induction chars with
    | nil => rfl
    | cons char rest ih => rw [List.flatMap_cons, shown_pieces, ih, List.flatMap_cons]
  rw [Utf8.lossy, encode, hshown, readAsUtf8]

section ReadBack

theorem encodeChar_ne_nil (char : Char) : encodeChar char ≠ [] := by
  have hunit : ∀ unit, encodeUnit unit ≠ [] := by
    intro unit
    rw [encodeUnit]
    split_ifs <;> simp
  rw [encodeChar, Utf16.units]
  split_ifs <;> simp [hunit]

theorem shown_of_not_isPlain (h : ¬ IsPlain char) : ∃ others, shown char = '\uFFFD' :: others := by
  obtain ⟨count, hcount⟩ := Nat.exists_eq_succ_of_ne_zero
    (mt List.length_eq_zero_iff.1 (encodeChar_ne_nil char))
  exact ⟨List.replicate count '\uFFFD', by rw [shown, if_neg h, hcount, List.replicate_succ]⟩

/-- A text is read back exactly if all its characters are plain. -/
theorem readAsUtf8_eq_iff {text : String} :
    readAsUtf8 text = text ↔ ∀ char ∈ text.toList, IsPlain char := by
  have hchars : ∀ chars : List Char, chars.flatMap shown = chars ↔
      ∀ char ∈ chars, IsPlain char := by
    intro chars
    induction chars with
    | nil => simp
    | cons char rest ih =>
      rw [List.flatMap_cons, List.forall_mem_cons]
      by_cases hplain : IsPlain char
      · simp [shown, hplain, ih]
      · obtain ⟨others, hothers⟩ := shown_of_not_isPlain hplain
        have hmark : char ≠ '\uFFFD' := by
          rintro rfl
          exact hplain (by decide)
        simp [hothers, hplain, hmark.symm]
  rw [readAsUtf8, ← hchars, ← String.toList_inj, String.toList_ofList]

end ReadBack

end CredentialWatch.Text.ModifiedUtf8
