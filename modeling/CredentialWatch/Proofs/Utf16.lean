import CredentialWatch.Proofs.Utf8
import CredentialWatch.Text.Utf16

/-!
# UTF-16 is read as it is written

A character is one unit that is no surrogate, or a high surrogate and a low one, so the units of a
text tell where each character ends. A text is read back from its form, and no two texts have the
same form.
-/
namespace CredentialWatch.Text.Utf16

theorem units_lt {char : Char} {unit : Nat} (h : unit ∈ units char) : unit < Bytes.capacity 2 := by
  have hvalid := Utf8.toNat_valid char
  have hcapacity : Bytes.capacity 2 = 0x10000 := by decide
  rw [hcapacity]
  simp only [units] at h
  split at h
  · have hunit := List.mem_singleton.1 h
    omega
  · rcases List.mem_cons.1 h with hhigh | hlow
    · omega
    · have hunit := List.mem_singleton.1 hlow
      omega

/-- The units of a character are read as this character, whatever follows them. -/
theorem chars?_units_append (char : Char) (rest : List Nat) :
    chars? (units char ++ rest) = (char :: ·) <$> chars? rest := by
  have hvalid := Utf8.toNat_valid char
  simp only [units]
  split
  · next hsmall =>
    have hunit : char.toNat < 0xD800 ∨ 0xE000 ≤ char.toNat := by omega
    rw [List.singleton_append, chars?.eq_def]
    simp only [hunit, if_true, Char.ofNat_toNat]
  · next hlarge =>
    generalize hhigh : 0xD800 + (char.toNat - 0x10000) / 0x400 = high
    generalize hlow : 0xDC00 + (char.toNat - 0x10000) % 0x400 = low
    have hsurrogate : ¬ (high < 0xD800 ∨ 0xE000 ≤ high) ∧ high < 0xDC00 := by omega
    have hsecond : 0xDC00 ≤ low ∧ low < 0xE000 := by omega
    have hpoint : 0x10000 + (high - 0xD800) * 0x400 + (low - 0xDC00) = char.toNat := by omega
    rw [List.cons_append, List.singleton_append, chars?.eq_def]
    simp only [hsurrogate, if_false, if_true, hsecond, and_self, hpoint, Char.ofNat_toNat]

theorem chars?_flatMap_units (chars : List Char) : chars? (chars.flatMap units) = some chars := by
  induction chars with
  | nil => rfl
  | cons char rest ih => rw [List.flatMap_cons, chars?_units_append, ih]; rfl

theorem unitsOf?_flatMap_bigEndian {points : List Nat}
    (h : ∀ unit ∈ points, unit < Bytes.capacity 2) :
    unitsOf? (points.flatMap (Bytes.bigEndian 2)) = some points := by
  induction points with
  | nil => rfl
  | cons unit rest ih =>
    obtain ⟨hunit, hrest⟩ := List.forall_mem_cons.1 h
    obtain ⟨high, low, hbytes⟩ := List.length_eq_two.1 (Bytes.length_bigEndian 2 unit)
    have hvalue : Bytes.value [high, low] = unit := by
      rw [← hbytes, Bytes.value_bigEndian, Nat.mod_eq_of_lt hunit]
    rw [List.flatMap_cons, hbytes]
    simp only [List.cons_append, List.nil_append, unitsOf?, ih hrest, hvalue]
    rfl

@[simp] theorem decode?_encode (text : String) : decode? (encode text) = some text := by
  have hunits : ∀ unit ∈ text.toList.flatMap units, unit < Bytes.capacity 2 := by
    intro unit hmem
    obtain ⟨char, -, hunit⟩ := List.mem_flatMap.1 hmem
    exact units_lt hunit
  simp [decode?, encode, unitsOf?_flatMap_bigEndian hunits, chars?_flatMap_units]

theorem encode_injective : Function.Injective encode := by
  intro left right h
  have hread := congrArg decode? h
  simpa using hread

end CredentialWatch.Text.Utf16
