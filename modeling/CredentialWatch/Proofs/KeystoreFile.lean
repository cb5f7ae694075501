import CredentialWatch.Outcome
import CredentialWatch.Proofs.KeystoreScan
import CredentialWatch.Store.Decode

/-!
# Keystore files that are read and written

A file is read exactly when it is the layout of fitting contents with the digest for the password
behind it. A file is written exactly when every length fits its field and the password is a text, so
what is written is read back. Both refuse with the cause for a bad format or password, and no other.
-/
namespace CredentialWatch.Keystore

section Outcomes

variable {α : Type}

theorem forM_eq_ok_iff {check : α → Except Defect Unit} {fits : α → Prop} {values : List α}
    (hcheck : ∀ value ∈ values, check value = .ok () ↔ fits value) :
    forM values check = .ok () ↔ ∀ value ∈ values, fits value := by
  induction values with
  | nil => simp
  | cons first others ih =>
    have hfirst := hcheck first List.mem_cons_self
    have hothers := ih fun value hvalue => hcheck value (List.mem_cons_of_mem first hvalue)
    rw [List.forM_cons, bind_eq_ok_iff]
    simp [hfirst, hothers]

/-- What is not accepted is refused for a bad format or password. -/
theorem mapError_ofKeystore_cases (outcome : Except Defect α) :
    (∃ value, outcome.mapError LoadCause.ofKeystore = .ok value) ∨
      ∃ defect, outcome.mapError LoadCause.ofKeystore = .error (.formatOrPassword defect) := by
  cases outcome with
  | ok value => exact .inl ⟨value, rfl⟩
  | error defect => exact .inr ⟨.keystore defect, rfl⟩

end Outcomes

theorem passwordText_eq_ok_iff {password : Bytes} {text : String} :
    passwordText password = .ok text ↔ password = Text.Utf8.encode text := by
  rw [← Text.Utf8.decode?_eq_some_iff, passwordText]
  cases Text.Utf8.decode? password with
  | none => simp
  | some decoded => simp

section Reading

theorem cut_eq_ok_iff {bytes body closing : Bytes} :
    cut bytes = .ok (body, closing) ↔
      bytes = body ++ closing ∧ closing.length = digestLength := by
  unfold cut
  constructor
  · intro h
    split at h
    · cases h
    · cases h
      refine ⟨(List.take_append_drop _ _).symm, ?_⟩
      rw [List.length_drop]
      omega
  · rintro ⟨rfl, hlength⟩
    have hstart : (body ++ closing).length - digestLength = body.length := by
      rw [List.length_append]
      omega
    have henough : ¬(body ++ closing).length < digestLength := by
      rw [List.length_append]
      omega
    simp only [hstart, if_neg henough, List.take_left, List.drop_left]

/-- A file is read when it is the layout of fitting contents and the digest over it. -/
theorem decodeContents_eq_ok_iff {bytes password : Bytes} {contents : Contents} :
    decodeContents bytes password = .ok contents ↔
      ∃ text, password = Text.Utf8.encode text ∧ contents.Fits ∧
        bytes = contents.bytes ++ closingDigest text contents.bytes := by
  simp only [decodeContents, bind_eq_ok_iff, Prod.exists, readContents_eq_ok_iff,
    passwordText_eq_ok_iff]
  constructor
  · rintro ⟨body, closing, hcut, found, ⟨rfl, hfits⟩, text, hpassword, h⟩
    obtain ⟨rfl, -⟩ := cut_eq_ok_iff.1 hcut
    split at h
    · rename_i hdigest
      cases h
      exact ⟨text, hpassword, hfits, by rw [hdigest]⟩
    · cases h
  · rintro ⟨text, hpassword, hfits, rfl⟩
    refine ⟨contents.bytes, closingDigest text contents.bytes, cut_eq_ok_iff.2 ⟨rfl, ?_⟩,
      contents, ⟨rfl, hfits⟩, text, hpassword, ?_⟩
    · exact Digest.length_sha1 _
    · simp

/-- Reading a file gives the credentials that its records stand for. -/
theorem decode_eq_ok_iff {bytes password : Bytes} {credentials : List Credential} :
    StoreFormat.keystore.decode bytes password = .ok credentials ↔
      ∃ (text : String) (contents : Contents), password = Text.Utf8.encode text ∧ contents.Fits ∧
        bytes = contents.bytes ++ closingDigest text contents.bytes ∧
        credentials = contents.records.map Record.credential := by
  have hmap : decode bytes password = .ok credentials ↔
      ∃ contents, decodeContents bytes password = .ok contents ∧
        contents.records.map Record.credential = credentials := by
    rw [decode, map_eq_pure_bind, bind_eq_ok_iff]
    simp only [pure_eq_ok_iff]
  rw [StoreFormat.decode, StoreFormat.decodeWith, mapError_eq_ok_iff, hmap]
  constructor
  · rintro ⟨contents, hcontents, rfl⟩
    obtain ⟨text, hpassword, hfits, hbytes⟩ := decodeContents_eq_ok_iff.1 hcontents
    exact ⟨text, contents, hpassword, hfits, hbytes, rfl⟩
  · rintro ⟨text, contents, hpassword, hfits, hbytes, rfl⟩
    exact ⟨contents, decodeContents_eq_ok_iff.2 ⟨text, hpassword, hfits, hbytes⟩, rfl⟩

end Reading

section Writing

theorem checkLength_eq_ok_iff {length : Nat} {done : Unit} :
    checkLength length = .ok done ↔ length < Bytes.capacity 4 := by
  simp [checkLength]

theorem checkName_eq_ok_iff {name : Bytes} {done : Unit} :
    checkName name = .ok done ↔ name.length < Bytes.capacity 2 := by
  simp [checkName]

theorem Content.check_eq_ok_iff {content : Content} : content.check = .ok () ↔ content.Fits := by
  cases content with
  | key wrapped chain =>
    simp only [check, Fits, bind_eq_ok_iff, checkLength_eq_ok_iff, exists_const, List.forM_eq_forM]
    exact and_congr .rfl (and_congr .rfl (forM_eq_ok_iff fun _ _ => checkLength_eq_ok_iff))
  | trusted certificate => exact checkLength_eq_ok_iff

theorem Record.check_eq_ok_iff {record : Record} (htime : record.time < Bytes.capacity 8) :
    record.check = .ok () ↔ record.Fits := by
  simp only [check, Fits, bind_eq_ok_iff, checkName_eq_ok_iff, exists_const,
    Content.check_eq_ok_iff, htime, true_and]

theorem fits_record_iff (created : Instant) (draft : Draft) :
    (draft.record created).Fits ↔ draft.Fits := by
  have hcapacity : Bytes.capacity 2 = 65536 := by decide
  simp only [Record.Fits, Draft.record, Draft.Fits, Text.Utf8.length_encode, hcapacity,
    Record.unsigned_lt, true_and]
  exact and_congr Nat.lt_succ_iff .rfl

theorem fits_contents_iff (created : Instant) (drafts : List Draft) :
    (Draft.contents created drafts).Fits ↔
      drafts.length < 2 ^ 32 ∧ ∀ draft ∈ drafts, draft.Fits := by
  have hcapacity : Bytes.capacity 4 = 2 ^ 32 := by decide
  simp [Draft.contents, Contents.Fits, fits_record_iff, hcapacity]

/-- A file is written when the password is a text and every length fits. -/
theorem encode_eq_ok_iff {drafts : List Draft} {created : Instant} {password file : Bytes} :
    encode drafts created password = .ok file ↔
      ∃ text, password = Text.Utf8.encode text ∧ (Draft.contents created drafts).Fits ∧
        file = (Draft.contents created drafts).bytes ++
          closingDigest text (Draft.contents created drafts).bytes := by
  have hrecords : forM (Draft.contents created drafts).records Record.check = .ok () ↔
      ∀ record ∈ (Draft.contents created drafts).records, record.Fits := by
    refine forM_eq_ok_iff fun record hrecord => Record.check_eq_ok_iff ?_
    obtain ⟨draft, -, rfl⟩ := List.mem_map.1 hrecord
    exact Record.unsigned_lt _
  simp only [encode, bind_eq_ok_iff, checkLength_eq_ok_iff, exists_const, List.forM_eq_forM,
    passwordText_eq_ok_iff, pure_eq_ok_iff, hrecords, Contents.Fits]
  constructor
  · rintro ⟨hcount, hfits, text, hpassword, rfl⟩
    exact ⟨text, hpassword, ⟨hcount, hfits⟩, rfl⟩
  · rintro ⟨text, hpassword, ⟨hcount, hfits⟩, rfl⟩
    exact ⟨hcount, hfits, text, hpassword, rfl⟩

end Writing

section RoundTrip

/-- The record of a draft stands for the credential that was meant. -/
theorem credential_record {created : Instant} (hcreated : created.IsWholeMilli) (draft : Draft) :
    (draft.record created).credential = draft.credential created := by
  have hsigned : Record.signed (Record.unsigned created.millis) = created.millis := by
    obtain ⟨-, -, hfirst, hlast⟩ := hcreated
    simp only [Instant.firstMillis, Instant.lastMillis] at hfirst hlast
    exact Record.signed_unsigned (by omega) (by omega)
  simp only [Record.credential, Draft.record, Draft.credential, Text.Utf8.lossy_encode, hsigned,
    Instant.ofMillis?_millis hcreated]

/-- Drafts are written exactly when the password is a text and every length fits its field. What is
written is read back as the credentials that were meant, in their order; what is not written is
refused for a bad format or password. -/
theorem drafts_written_read_back (drafts : List Draft) (created : Instant) (password : Bytes)
    (hcreated : created.IsWholeMilli) :
    ((∃ file, StoreFormat.encodeKeystore drafts created password = .ok file) ↔
      (∃ text, password = Text.Utf8.encode text) ∧ drafts.length < 2 ^ 32 ∧
        ∀ draft ∈ drafts, draft.Fits) ∧
    (∀ file, StoreFormat.encodeKeystore drafts created password = .ok file →
      StoreFormat.keystore.decode file password = .ok (drafts.map (Draft.credential created))) ∧
    ((¬∃ file, StoreFormat.encodeKeystore drafts created password = .ok file) →
      ∃ defect, StoreFormat.encodeKeystore drafts created password =
        .error (.formatOrPassword defect)) := by
  refine ⟨?_, fun file hfile => ?_, fun hnone => ?_⟩
  · simp only [StoreFormat.encodeKeystore, mapError_eq_ok_iff, encode_eq_ok_iff,
      fits_contents_iff]
    constructor
    · rintro ⟨file, text, hpassword, hfits, -⟩
      exact ⟨⟨text, hpassword⟩, hfits⟩
    · rintro ⟨⟨text, hpassword⟩, hfits⟩
      exact ⟨_, text, hpassword, hfits, rfl⟩
  · obtain ⟨text, hpassword, hfits, rfl⟩ :=
      encode_eq_ok_iff.1 (mapError_eq_ok_iff.1 hfile)
    refine decode_eq_ok_iff.2 ⟨text, Draft.contents created drafts, hpassword, hfits, rfl, ?_⟩
    rw [Draft.contents, List.map_map]
    exact List.map_congr_left fun draft _ => (credential_record hcreated draft).symm
  · obtain hfile | hrefused := mapError_ofKeystore_cases (encode drafts created password)
    · exact absurd hfile hnone
    · exact hrefused

/-- Two credentials of one alias that is not ASCII, made in the millisecond before 1970. -/
theorem homonyms_written_read_back :
    ∃ file, StoreFormat.encodeKeystore
        [⟨"clé", .key [1, 2, 3] [[48, 0], []]⟩, ⟨"clé", .trusted []⟩, ⟨"", .key [] []⟩]
        ⟨-1, 999000000⟩ (Text.Utf8.encode "œuf") = .ok file ∧
      StoreFormat.keystore.decode file (Text.Utf8.encode "œuf") =
        .ok [⟨"clé", .key (.wrapped [1, 2, 3]) [[48, 0], []], some ⟨-1, 999000000⟩⟩,
          ⟨"clé", .trusted [], some ⟨-1, 999000000⟩⟩,
          ⟨"", .key (.wrapped []) [], some ⟨-1, 999000000⟩⟩] := by
  obtain ⟨hwritten, hread, -⟩ := drafts_written_read_back
    [⟨"clé", .key [1, 2, 3] [[48, 0], []]⟩, ⟨"clé", .trusted []⟩, ⟨"", .key [] []⟩]
    ⟨-1, 999000000⟩ (Text.Utf8.encode "œuf") (by decide)
  obtain ⟨file, hfile⟩ := hwritten.2 ⟨⟨"œuf", rfl⟩, by decide, by decide⟩
  exact ⟨file, hfile, hread file hfile⟩

end RoundTrip

end CredentialWatch.Keystore
