import CredentialWatch.Proofs.KeystoreFile

/-!
# Keystore files that are written again

A record says more than the credential it stands for only where its alias is no text or its time is
none of the calendar. Where all records of a version 2 file say no more, and bear one time, the file
is the one that is written from its credentials: there is no second encoding of a length, a count, a
type or a time.
-/
namespace CredentialWatch.Keystore

namespace Record

/-- A record with an alias that is a text and with a time that is some instant of the calendar. -/
def IsPlain (record : Record) (created : Instant) : Prop :=
  (∃ name, record.name = Text.Utf8.encode name) ∧
    Instant.ofMillis? (signed record.time) = some created

/-- The draft that a record is written again by. -/
def draft (record : Record) : Draft :=
  ⟨Text.Utf8.lossy record.name, record.content⟩

@[simp] theorem ofCredential?_credential (record : Record) :
    Draft.ofCredential? record.credential = some record.draft := by
  obtain ⟨name, time, content⟩ := record
  cases content <;> rfl

variable {record : Record} {created : Instant}

theorem record_draft (hplain : record.IsPlain created) (hfits : record.Fits) :
    record.draft.record created = record := by
  obtain ⟨name, time, content⟩ := record
  obtain ⟨⟨text, rfl⟩, hcreated⟩ := hplain
  have htime : unsigned created.millis = time := by
    rw [Instant.millis_of_ofMillis? hcreated]
    exact unsigned_signed hfits.2.1
  simp [draft, Draft.record, htime]

/-- What is written of a draft is plain. -/
theorem isPlain_record (hcreated : created.IsWholeMilli) (draft : Draft) :
    (draft.record created).IsPlain created :=
  ⟨⟨draft.name, rfl⟩, congrArg Credential.created (credential_record hcreated draft)⟩

theorem mapM_ofCredential? (records : List Record) :
    (records.map credential).mapM Draft.ofCredential? = some (records.map draft) := by
  induction records with
  | nil => rfl
  | cons record rest ih => simp [ih]

end Record

namespace Contents

/-- Contents of version 2 whose records are plain and bear one time, which may be any if there are
none. -/
def IsUniform (contents : Contents) (created : Instant) : Prop :=
  contents.version = .two ∧ ∀ record ∈ contents.records, record.IsPlain created

variable {contents other : Contents} {created time : Instant}

theorem contents_drafts (huniform : contents.IsUniform created) (hfits : contents.Fits) :
    Draft.contents created (contents.records.map Record.draft) = contents := by
  obtain ⟨version, records⟩ := contents
  obtain ⟨hversion, hplain⟩ := huniform
  obtain rfl : version = .two := hversion
  have hrecords : records.map (Draft.record created ∘ Record.draft) = records.map id :=
    List.map_congr_left fun record hrecord =>
      Record.record_draft (hplain record hrecord) (hfits.2 record hrecord)
  rw [Draft.contents, List.map_map, hrecords, List.map_id]

/-- Uniform contents are determined by the credentials that they stand for. -/
theorem eq_of_credentials_eq (huniform : contents.IsUniform created) (hfits : contents.Fits)
    (huniform' : other.IsUniform time) (hfits' : other.Fits)
    (h : contents.records.map Record.credential = other.records.map Record.credential) :
    contents = other := by
  have hdrafts : contents.records.map Record.draft = other.records.map Record.draft := by
    have hsame := congrArg (List.mapM Draft.ofCredential?) h
    simpa only [Record.mapM_ofCredential?, Option.some.injEq] using hsame
  have hrewritten : Draft.contents created (contents.records.map Record.draft) =
      Draft.contents time (contents.records.map Record.draft) := by
    cases hrecords : contents.records with
    | nil => rfl
    | cons record rest =>
      have hmem : record.credential ∈ other.records.map Record.credential := by
        rw [← h, hrecords]
        exact List.mem_cons_self
      obtain ⟨record', hrecord', hcredential⟩ := List.mem_map.1 hmem
      have hcreated := (huniform.2 record (by simp [hrecords])).2
      have htime := (huniform'.2 record' hrecord').2
      have hsome : some time = some created := by
        rw [← hcreated, ← htime]
        exact congrArg Credential.created hcredential
      rw [Option.some.inj hsome]
  calc contents = Draft.contents created (contents.records.map Record.draft) :=
        (contents_drafts huniform hfits).symm
    _ = Draft.contents time (other.records.map Record.draft) := by rw [hrewritten, hdrafts]
    _ = other := contents_drafts huniform' hfits'

end Contents

/-- A file that is read under a password, of version 2, whose records have texts as aliases and one
time of the calendar. -/
def IsUniformFile (file password : Bytes) (created : Instant) : Prop :=
  ∃ contents, decodeContents file password = .ok contents ∧ contents.IsUniform created

/-- The layout of a file that is read, of uniform contents, with its credentials. -/
theorem IsUniformFile.layout {file password : Bytes} {created : Instant}
    {credentials : List Credential} (huniform : IsUniformFile file password created)
    (hread : StoreFormat.keystore.decode file password = .ok credentials) :
    ∃ (text : String) (contents : Contents), password = Text.Utf8.encode text ∧ contents.Fits ∧
      contents.IsUniform created ∧ file = contents.bytes ++ closingDigest text contents.bytes ∧
      credentials = contents.records.map Record.credential := by
  obtain ⟨contents, hcontents, huniform⟩ := huniform
  obtain ⟨text, hpassword, hfits, hfile⟩ := decodeContents_eq_ok_iff.1 hcontents
  have hcredentials : StoreFormat.keystore.decode file password =
      .ok (contents.records.map Record.credential) :=
    decode_eq_ok_iff.2 ⟨text, contents, hpassword, hfits, hfile, rfl⟩
  rw [hread] at hcredentials
  exact ⟨text, contents, hpassword, hfits, huniform, hfile, Except.ok.inj hcredentials⟩

/-- A file of version 2 whose aliases are texts and whose records bear one time of the calendar is
written again, byte for byte, from the credentials that are read from it. So no other such file is
read as the same credentials under the password. -/
theorem uniform_files_rewritten {file password : Bytes} {created : Instant}
    {credentials : List Credential}
    (hread : StoreFormat.keystore.decode file password = .ok credentials)
    (huniform : IsUniformFile file password created) :
    (∃ drafts, credentials.mapM Draft.ofCredential? = some drafts ∧
      StoreFormat.encodeKeystore drafts created password = .ok file) ∧
    ∀ other time, IsUniformFile other password time →
      StoreFormat.keystore.decode other password = .ok credentials → other = file := by
  obtain ⟨text, contents, rfl, hfits, hcontents, rfl, rfl⟩ := huniform.layout hread
  constructor
  · refine ⟨contents.records.map Record.draft, Record.mapM_ofCredential? _, ?_⟩
    rw [StoreFormat.encodeKeystore, mapError_eq_ok_iff, encode_eq_ok_iff,
      Contents.contents_drafts hcontents hfits]
    exact ⟨text, rfl, hfits, rfl⟩
  · intro other time hother hread'
    obtain ⟨text', contents', htext, hfits', hcontents', rfl, hcredentials⟩ := hother.layout hread'
    obtain rfl : contents = contents' :=
      Contents.eq_of_credentials_eq hcontents hfits hcontents' hfits' hcredentials
    obtain rfl : text = text' := Text.Utf8.encode_injective htext
    rfl

/-- A file with an alias that is not ASCII and an empty one, made in the millisecond before 1970. -/
theorem early_file_rewritten :
    ∃ file, StoreFormat.keystore.decode file (Text.Utf8.encode "œuf") =
        .ok [⟨"clé", .key (.wrapped [1]) [[48, 0], []], some ⟨-1, 999000000⟩⟩,
          ⟨"", .trusted [], some ⟨-1, 999000000⟩⟩] ∧
      IsUniformFile file (Text.Utf8.encode "œuf") ⟨-1, 999000000⟩ ∧
      StoreFormat.encodeKeystore [⟨"clé", .key [1] [[48, 0], []]⟩, ⟨"", .trusted []⟩]
        ⟨-1, 999000000⟩ (Text.Utf8.encode "œuf") = .ok file := by
  let contents := Draft.contents ⟨-1, 999000000⟩
    [⟨"clé", .key [1] [[48, 0], []]⟩, ⟨"", .trusted []⟩]
  let file := contents.bytes ++ closingDigest "œuf" contents.bytes
  have hfits : contents.Fits := (fits_contents_iff _ _).2 ⟨by decide, by decide⟩
  have hcontents : decodeContents file (Text.Utf8.encode "œuf") = .ok contents :=
    decodeContents_eq_ok_iff.2 ⟨"œuf", rfl, hfits, rfl⟩
  have hplain : ∀ record ∈ contents.records, record.IsPlain ⟨-1, 999000000⟩ := by
    intro record hrecord
    obtain ⟨draft, -, rfl⟩ := List.mem_map.1 hrecord
    exact Record.isPlain_record (by decide) draft
  have huniform : IsUniformFile file (Text.Utf8.encode "œuf") ⟨-1, 999000000⟩ :=
    ⟨contents, hcontents, rfl, hplain⟩
  have hread : StoreFormat.keystore.decode file (Text.Utf8.encode "œuf") =
      .ok [⟨"clé", .key (.wrapped [1]) [[48, 0], []], some ⟨-1, 999000000⟩⟩,
        ⟨"", .trusted [], some ⟨-1, 999000000⟩⟩] :=
    decode_eq_ok_iff.2 ⟨"œuf", contents, rfl, hfits, rfl, by decide +kernel⟩
  obtain ⟨⟨drafts, hdrafts, hwritten⟩, -⟩ := uniform_files_rewritten hread huniform
  obtain rfl : _ = drafts := Option.some.inj hdrafts
  exact ⟨file, hread, huniform, hwritten⟩

end CredentialWatch.Keystore
