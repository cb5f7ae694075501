import CredentialWatch.Proofs.KeystoreFile
import CredentialWatch.Proofs.Lookups
import CredentialWatch.Proofs.ModifiedUtf8

/-!
# Aliases in modified UTF-8

A file's aliases are read as UTF-8 whatever they are written in. Of an alias that Java wrote, each
character that is not plain shows as a mark for each of its bytes; so an alias is read back exactly
if all of its characters are plain, and aliases that differ in other characters alone can become
one.
-/
namespace CredentialWatch.Keystore

open Text (ModifiedUtf8.encode ModifiedUtf8.IsPlain ModifiedUtf8.readAsUtf8 AsciiCase.fold)

variable {contents : Contents} {record : Record} {name : String} {index : Nat}

theorem name_credential (h : record.name = ModifiedUtf8.encode name) :
    record.credential.name = ModifiedUtf8.readAsUtf8 name := by
  rw [← Text.ModifiedUtf8.lossy_encode, ← h]
  rfl

theorem decode_layout (hfits : contents.Fits) (password : String) :
    StoreFormat.keystore.decode (contents.bytes ++ closingDigest password contents.bytes)
      (Text.Utf8.encode password) = .ok (contents.records.map Record.credential) :=
  decode_eq_ok_iff.2 ⟨password, contents, rfl, hfits, rfl, rfl⟩

/-- Where all aliases are plain, they are what was written. -/
theorem aliases_of_plain {names : List String} {declaredType : String}
    (hnames : contents.records.map Record.name = names.map ModifiedUtf8.encode)
    (hplain : ∀ name ∈ names, ∀ char ∈ name.toList, ModifiedUtf8.IsPlain char) :
    CredentialStore.aliases ⟨declaredType, contents.records.map Record.credential⟩ = names := by
  have hread : contents.records.map (Text.Utf8.lossy ∘ Record.name) = names.map id := by
    rw [← List.map_map, hnames, List.map_map]
    refine List.map_congr_left fun name hname => ?_
    rw [Function.comp_apply, Text.ModifiedUtf8.lossy_encode]
    exact Text.ModifiedUtf8.readAsUtf8_eq_iff.2 (hplain name hname)
  rw [CredentialStore.aliases, List.map_map]
  exact hread.trans (List.map_id names)

/-- A keystore whose aliases Java wrote is read, and an alias in it is read back exactly if all of
its characters are plain: neither NUL nor beyond U+FFFF. Where all aliases are, they stay as they
were, each of them is found, and if they differ in more than case each one finds its own
credential. -/
theorem plain_aliases_read_back (hfits : contents.Fits) (password : String) :
    ∃ credentials,
      StoreFormat.keystore.decode (contents.bytes ++ closingDigest password contents.bytes)
        (Text.Utf8.encode password) = .ok credentials ∧
      (∀ (index : Nat) (record : Record) (name : String), contents.records[index]? = some record →
        record.name = ModifiedUtf8.encode name →
          ∃ credential, credentials[index]? = some credential ∧
            credential.name = ModifiedUtf8.readAsUtf8 name ∧
            (credential.name = name ↔ ∀ char ∈ name.toList, ModifiedUtf8.IsPlain char)) ∧
      ∀ names : List String, contents.records.map Record.name = names.map ModifiedUtf8.encode →
        (∀ name ∈ names, ∀ char ∈ name.toList, ModifiedUtf8.IsPlain char) →
          ∀ declaredType, let store : CredentialStore := ⟨declaredType, credentials⟩
            store.aliases = names ∧
            (∀ name ∈ names, ∃ found, store.find? name = some found ∧
              AsciiCase.fold found.name = AsciiCase.fold name) ∧
            ((names.map AsciiCase.fold).Nodup → ∀ (index : Nat) (name : String),
              names[index]? = some name → store.find? name = credentials[index]?) := by
  refine ⟨_, decode_layout hfits password, ?_, ?_⟩
  · intro index record name hrecord hname
    refine ⟨record.credential, by rw [List.getElem?_map, hrecord, Option.map_some],
      name_credential hname, ?_⟩
    rw [name_credential hname]
    exact Text.ModifiedUtf8.readAsUtf8_eq_iff
  · intro names hnames hplain declaredType store
    have haliases : store.aliases = names := aliases_of_plain hnames hplain
    refine ⟨haliases, fun name hname => ?_, fun hdistinct index name hname => ?_⟩
    · have hlisted : (store.find? name).isSome :=
        CredentialStore.isSome_find?_iff.2 ⟨name, haliases ▸ hname, rfl⟩
      obtain ⟨found, hfound⟩ := Option.isSome_iff_exists.1 hlisted
      exact ⟨found, hfound, CredentialStore.fold_of_find? hfound⟩
    · have hstore : store.Distinct := by rwa [CredentialStore.Distinct, haliases]
      exact hstore.find? (haliases ▸ hname)

/-- An alias whose characters take one, two and three bytes, and one that is empty. -/
theorem aliases_of_three_widths_read_back :
    ∃ (contents : Contents) (credentials : List Credential),
      contents.records.map Record.name = ["a-é-œ-鍵", ""].map ModifiedUtf8.encode ∧ contents.Fits ∧
      StoreFormat.keystore.decode (contents.bytes ++ closingDigest "changeit" contents.bytes)
        (Text.Utf8.encode "changeit") = .ok credentials ∧
      CredentialStore.find? ⟨"JKS", credentials⟩ "A-é-œ-鍵" = credentials[0]? := by
  let contents : Contents := ⟨.two, [⟨ModifiedUtf8.encode "a-é-œ-鍵", 0, .trusted [48, 0]⟩,
    ⟨ModifiedUtf8.encode "", 1, .key [1] [[48, 0]]⟩]⟩
  have hfits : contents.Fits := by decide
  obtain ⟨credentials, hread, -, hfound⟩ := plain_aliases_read_back hfits "changeit"
  obtain ⟨-, -, hfound⟩ := hfound ["a-é-œ-鍵", ""] rfl
    (by simp [ModifiedUtf8.IsPlain]) "JKS"
  refine ⟨contents, credentials, rfl, hfits, hread, ?_⟩
  rw [CredentialStore.find?_congr (by decide : AsciiCase.fold "A-é-œ-鍵" = AsciiCase.fold "a-é-œ-鍵")]
  exact hfound (by decide) 0 "a-é-œ-鍵" rfl

/-- Of two aliases beyond U+FFFF nothing but marks is left: they become one, and neither is
found. -/
theorem key_and_lock_aliases_become_one :
    let contents : Contents := ⟨.two, [⟨ModifiedUtf8.encode "🔑", 0, .trusted [1]⟩,
      ⟨ModifiedUtf8.encode "🔒", 0, .trusted [2]⟩]⟩
    contents.Fits ∧ "🔑" ≠ "🔒" ∧ ∃ credentials,
      StoreFormat.keystore.decode (contents.bytes ++ closingDigest "changeit" contents.bytes)
        (Text.Utf8.encode "changeit") = .ok credentials ∧
      credentials.map Credential.name =
        ["\uFFFD\uFFFD\uFFFD\uFFFD\uFFFD\uFFFD", "\uFFFD\uFFFD\uFFFD\uFFFD\uFFFD\uFFFD"] ∧
      ∀ declaredType, CredentialStore.find? ⟨declaredType, credentials⟩ "🔑" = none ∧
        CredentialStore.find? ⟨declaredType, credentials⟩ "🔒" = none := by
  intro contents
  have hfits : contents.Fits := by decide
  let marks := "\uFFFD\uFFFD\uFFFD\uFFFD\uFFFD\uFFFD"
  have hnames : (contents.records.map Record.credential).map Credential.name = [marks, marks] := by
    decide +kernel
  have hmissing : ∀ declaredType name, AsciiCase.fold marks ≠ AsciiCase.fold name →
      CredentialStore.find? ⟨declaredType, contents.records.map Record.credential⟩ name = none := by
    intro declaredType name hother
    rw [← Option.not_isSome_iff_eq_none, CredentialStore.isSome_find?_iff,
      CredentialStore.aliases, hnames]
    simpa using hother
  exact ⟨hfits, by decide, _, decode_layout hfits "changeit", hnames, fun declaredType =>
    ⟨hmissing declaredType _ (by decide), hmissing declaredType _ (by decide)⟩⟩

end CredentialWatch.Keystore
