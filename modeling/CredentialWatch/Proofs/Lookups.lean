import Mathlib.Data.List.Nodup
import CredentialWatch.Store.Credential

/-!
# Looking credentials up

A look-up takes the first credential whose alias is the one asked for up to ASCII case. Where
credentials are named by their places, or there is but one, each is found by its own alias.
-/
namespace CredentialWatch

namespace Text.AsciiCase

@[simp] theorem fold_append (left right : String) :
    fold (left ++ right) = fold left ++ fold right := by
  simp [fold]

theorem toLower_of_isDigit {char : Char} (h : char.isDigit) : char.toLower = char := by
  have hbounds : 48 ≤ char.val.toNat ∧ char.val.toNat ≤ 57 := by
    simpa [Char.isDigit, UInt32.le_iff_toNat_le] using h
  refine dif_neg ?_
  intro hletter
  have hlower : 65 ≤ char.val.toNat := UInt32.le_iff_toNat_le.1 hletter.1
  omega

/-- A number has no letters. -/
theorem fold_toString (number : Nat) : fold (toString number) = Nat.toDigits 10 number := by
  rw [fold, Nat.toString_eq_repr, Nat.toList_repr]
  refine (List.map_congr_left fun char hchar => toLower_of_isDigit ?_).trans (List.map_id _)
  exact Nat.isDigit_of_mem_toDigits (by decide) (by decide) hchar

/-- Names that end in different numbers differ in more than case. -/
theorem fold_numbered_injective (stem : String) :
    Function.Injective fun number : Nat => fold (stem ++ toString number) := by
  intro left right h
  have hdigits : Nat.toDigits 10 left = Nat.toDigits 10 right := by
    simpa [fold_toString, -Nat.toString_eq_repr] using h
  calc
    left = Nat.ofDigitChars 10 (Nat.toDigits 10 left) 0 := Nat.ofDigitChars_ten_toDigits.symm
    _ = Nat.ofDigitChars 10 (Nat.toDigits 10 right) 0 := by rw [hdigits]
    _ = right := Nat.ofDigitChars_ten_toDigits

end Text.AsciiCase

open Text (AsciiCase.fold AsciiCase.fold_numbered_injective)

namespace CredentialStore

variable {store : CredentialStore} {name other : String} {index : Nat}

/-- A look-up gives the credential at the place it finds. -/
theorem find?_eq_bind (store : CredentialStore) (name : String) :
    store.find? name = (store.index? name).bind (store.credentials[·]?) :=
  List.find?_eq_bind_findIdx?_getElem?

/-- The place found is the first one whose alias is the name up to case. -/
theorem index?_eq_some_iff :
    store.index? name = some index ↔
      (∃ credential ∈ store.credentials[index]?,
        AsciiCase.fold credential.name = AsciiCase.fold name) ∧
        ∀ earlier < index, ∀ credential ∈ store.credentials[earlier]?,
          AsciiCase.fold credential.name ≠ AsciiCase.fold name := by
  rw [index?, List.findIdx?_eq_some_iff_getElem]
  constructor
  · rintro ⟨hlt, hsame, hfirst⟩
    refine ⟨⟨store.credentials[index], by simp, by simpa using hsame⟩, ?_⟩
    intro earlier hearlier credential hcredential
    obtain ⟨hlt', rfl⟩ := List.getElem?_eq_some_iff.1 hcredential
    simpa using hfirst earlier hearlier
  · rintro ⟨⟨credential, hcredential, hsame⟩, hfirst⟩
    obtain ⟨hlt, rfl⟩ := List.getElem?_eq_some_iff.1 hcredential
    refine ⟨hlt, by simpa using hsame, fun earlier hearlier => ?_⟩
    simpa using hfirst earlier hearlier _ (List.getElem?_eq_getElem (Nat.lt_trans hearlier hlt))

/-- A look-up finds something exactly for the listed aliases, in any case. -/
theorem isSome_find?_iff :
    (store.find? name).isSome ↔
      ∃ listed ∈ store.aliases, AsciiCase.fold listed = AsciiCase.fold name := by
  simp [find?, aliases]

theorem fold_of_find? {credential : Credential} (h : store.find? name = some credential) :
    AsciiCase.fold credential.name = AsciiCase.fold name := by
  have hsame := List.find?_some h
  simpa using hsame

theorem find?_congr (h : AsciiCase.fold name = AsciiCase.fold other) :
    store.find? name = store.find? other := by
  simp only [find?, Text.AsciiCase.same, h]

/-- Aliases that differ in more than case. -/
def Distinct (store : CredentialStore) : Prop := (store.aliases.map AsciiCase.fold).Nodup

theorem Distinct.index? (h : store.Distinct) (hname : store.aliases[index]? = some name) :
    store.index? name = some index := by
  rw [aliases, List.getElem?_map, Option.map_eq_some_iff] at hname
  obtain ⟨credential, hcredential, rfl⟩ := hname
  refine index?_eq_some_iff.2 ⟨⟨credential, hcredential, rfl⟩, ?_⟩
  intro earlier hearlier first hfirst heq
  have hlt : earlier < (store.aliases.map AsciiCase.fold).length := by
    simpa [aliases] using (List.getElem?_eq_some_iff.1 hfirst).1
  refine Nat.ne_of_lt hearlier ((List.getElem?_inj hlt h).1 ?_)
  simp_all [aliases]

/-- A credential is found by its alias. -/
theorem Distinct.find? (h : store.Distinct) (hname : store.aliases[index]? = some name) :
    store.find? name = store.credentials[index]? := by
  rw [find?_eq_bind, h.index? hname]
  rfl

theorem distinct_of_length_le (h : store.credentials.length ≤ 1) : store.Distinct := by
  obtain ⟨declaredType, _ | ⟨credential, _ | _⟩⟩ := store
  · exact List.nodup_nil
  · exact List.nodup_singleton _
  · simp at h

/-- Credentials that are named by their places have distinct aliases. -/
theorem distinct_mapIdx {declaredType : String} {α : Type} {items : List α}
    {credential : Nat → α → Credential} (stem : String)
    (hname : ∀ index item, (credential index item).name = stem ++ toString index) :
    Distinct ⟨declaredType, items.mapIdx credential⟩ := by
  have hfolded : (aliases ⟨declaredType, items.mapIdx credential⟩).map AsciiCase.fold =
      (List.range items.length).map fun index => AsciiCase.fold (stem ++ toString index) := by
    refine List.ext_getElem (by simp [aliases]) fun index hleft hright => ?_
    simp [aliases, hname]
  rw [Distinct, hfolded]
  exact List.nodup_range.map (AsciiCase.fold_numbered_injective stem)

end CredentialStore

/-- What credentials become of certificates: trusted ones that are named by their places behind a
stem, or the chain of a single key. -/
inductive Arranged (stem : String) (certificates : List Bytes) : List Credential → Prop where
  | trusted : Arranged stem certificates (certificates.mapIdx fun index certificate =>
      ⟨stem ++ toString index, .trusted certificate, none⟩)
  | chain (name : String) (material : KeyMaterial) :
      Arranged stem certificates [⟨name, .key material certificates, none⟩]

namespace Arranged

variable {stem : String} {certificates : List Bytes} {credentials : List Credential}

/-- No certificate is lost, repeated or moved. -/
theorem certificates_eq (h : Arranged stem certificates credentials) :
    credentials.flatMap Credential.certificates = certificates := by
  cases h with
  | trusted =>
    rw [List.mapIdx_eq_zipIdx_map]
    simp [List.flatMap_map, Credential.certificates, ← List.map_eq_flatMap]
  | chain name material => simp [Credential.certificates]

theorem distinct (h : Arranged stem certificates credentials) (declaredType : String) :
    CredentialStore.Distinct ⟨declaredType, credentials⟩ := by
  cases h with
  | trusted => exact CredentialStore.distinct_mapIdx stem fun index certificate => rfl
  | chain name material => exact CredentialStore.distinct_of_length_le (Nat.le_refl 1)

end Arranged

end CredentialWatch
