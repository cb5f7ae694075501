import CredentialWatch.Outcome
import CredentialWatch.Proofs.PemSections

/-!
# What an archive comes to

A library parses an archive to an optional key, the certificate that leads its chain, and further
certificates. If all of them can be written out, all certificates are in the store, in this order.
With what is known of PEM text, each credential of a store that is not a keystore is found by its
alias.
-/
namespace CredentialWatch

namespace Archive

variable {library : Library} {bytes password : Bytes}

/-- What a library parses bytes to under a password. -/
def Library.Parses (library : Library) (bytes password : Bytes) (parsed : Parsed) : Prop :=
  ∃ text, Text.Utf8.decode? password = some text ∧ library.recognise bytes = .ok () ∧
    library.parse bytes text = .ok parsed

theorem Library.Parses.decodeWith_eq {parsed : Parsed} (h : library.Parses bytes password parsed) :
    decodeWith library bytes password = parsed.credentials := by
  obtain ⟨text, hpassword, hrecognised, hparsed⟩ := h
  rw [decodeWith, hpassword]
  simp only [hrecognised, hparsed, classified, Except.mapError]
  rfl

theorem classified_eq_ok_iff {α : Type} {outcome : Except Failure α} {value : α} :
    classified outcome = .ok value ↔ outcome = .ok value :=
  mapError_eq_ok_iff

/-- What is decoded makes up what the library has parsed. -/
theorem parses_of_decodeWith {credentials : List Credential}
    (h : decodeWith library bytes password = .ok credentials) :
    ∃ parsed, library.Parses bytes password parsed ∧ parsed.credentials = .ok credentials := by
  unfold decodeWith at h
  cases hpassword : Text.Utf8.decode? password with
  | none =>
    rw [hpassword] at h
    cases h
  | some text =>
    rw [hpassword] at h
    obtain ⟨⟨⟩, hrecognised, h⟩ := bind_eq_ok_iff.1 h
    obtain ⟨parsed, hparsed, h⟩ := bind_eq_ok_iff.1 h
    exact ⟨parsed, ⟨text, hpassword, classified_eq_ok_iff.1 hrecognised,
      classified_eq_ok_iff.1 hparsed⟩, h⟩

/-- The failure of an outcome, if it is one. -/
def failureOf {α : Type} : Except Failure α → List Failure
  | .ok _ => []
  | .error failure => [failure]

theorem failureOf_eq_nil_iff {α : Type} {outcome : Except Failure α} :
    failureOf outcome = [] ↔ ∃ value, outcome = .ok value := by
  cases outcome with
  | ok value => simp [failureOf]
  | error failure => simp [failureOf]

theorem mapM_classified_of_failure {α : Type} {outcomes : List (Except Failure α)}
    {failure : Failure} {rest : List Failure} (h : outcomes.flatMap failureOf = failure :: rest) :
    outcomes.mapM classified = .error (.ofFailure failure) := by
  induction outcomes with
  | nil => cases h
  | cons outcome outcomes ih =>
    rw [List.mapM_cons]
    cases outcome with
    | error first =>
      obtain ⟨rfl, -⟩ := List.cons.inj h
      rfl
    | ok value =>
      rw [ih h]
      rfl

theorem mapM_classified_of_ok {α : Type} (values : List α) :
    (values.map Except.ok).mapM classified = .ok values := by
  induction values with
  | nil => rfl
  | cons value values ih =>
    rw [List.map_cons, List.mapM_cons, ih]
    rfl

theorem exists_map_ok {α : Type} {outcomes : List (Except Failure α)}
    (h : outcomes.flatMap failureOf = []) : ∃ values : List α, outcomes = values.map Except.ok := by
  induction outcomes with
  | nil => exact ⟨[], rfl⟩
  | cons outcome outcomes ih =>
    rw [List.flatMap_cons, List.append_eq_nil_iff] at h
    obtain ⟨value, rfl⟩ := failureOf_eq_nil_iff.1 h.1
    obtain ⟨values, rfl⟩ := ih h.2
    exact ⟨value :: values, rfl⟩

@[simp] theorem failures_map_ok {α : Type} (values : List α) :
    (values.map Except.ok).flatMap failureOf = [] :=
  List.flatMap_eq_nil_iff.2 fun outcome hmem => by
    obtain ⟨value, -, rfl⟩ := List.mem_map.1 hmem
    rfl

namespace Parsed

variable {parsed : Parsed}

/-- The failures to write out the key and the certificates, in the order in which they are met. A
key without a certificate is not written out. -/
def failures (parsed : Parsed) : List Failure :=
  parsed.others.flatMap failureOf ++
    (if parsed.leading?.isSome then parsed.key?.toList.flatMap failureOf else []) ++
      parsed.leading?.toList.flatMap fun leading => failureOf leading.certificate

/-- The certificates that are written out, the leading one first. -/
def certificates (parsed : Parsed) : List Bytes :=
  (parsed.leading?.toList.map Leading.certificate ++ parsed.others).filterMap Except.toOption

/-- Where nothing fails, every certificate is written out. -/
theorem map_ok_certificates (h : parsed.failures = []) :
    parsed.certificates.map Except.ok =
      parsed.leading?.toList.map Leading.certificate ++ parsed.others := by
  have hall : (parsed.leading?.toList.map Leading.certificate ++ parsed.others).flatMap
      failureOf = [] := by
    simp only [failures, List.append_eq_nil_iff] at h
    rw [List.flatMap_append, List.flatMap_map, h.1.1, h.2, List.append_nil]
  obtain ⟨values, hvalues⟩ := exists_map_ok hall
  rw [certificates, hvalues, List.filterMap_map]
  simp [Function.comp_def, Except.toOption]

theorem credentials_of_failure {failure : Failure} {rest : List Failure}
    (h : parsed.failures = failure :: rest) :
    parsed.credentials = .error (.ofFailure failure) := by
  obtain ⟨key?, leading?, others⟩ := parsed
  cases hothers : others.flatMap failureOf with
  | cons first more =>
    obtain ⟨rfl, -⟩ : first = failure ∧ _ := by simpa [failures, hothers] using h
    rw [credentials, mapM_classified_of_failure hothers]
    rfl
  | nil =>
    obtain ⟨values, rfl⟩ := exists_map_ok hothers
    rw [credentials, mapM_classified_of_ok]
    rcases leading? with _ | ⟨_ | certificate, name?⟩ <;> rcases key? with _ | _ | key <;>
      simp_all [failures, failureOf, classified, Except.mapError, bind, Except.bind]

theorem credentials_of_bare_key (h : parsed.failures = []) {key : Except Failure Bytes}
    (hkey : parsed.key? = some key) (hleading : parsed.leading? = none) :
    parsed.credentials = .error .keyWithoutCertificate := by
  simp only [failures, List.append_eq_nil_iff] at h
  obtain ⟨values, hvalues⟩ := exists_map_ok h.1.1
  rw [credentials, hvalues, mapM_classified_of_ok, hkey, hleading]
  rfl

theorem credentials_of_key (h : parsed.failures = []) {key : Except Failure Bytes}
    {leading : Leading} (hkey : parsed.key? = some key)
    (hleading : parsed.leading? = some leading) :
    ∃ encoding, key = .ok encoding ∧ parsed.credentials =
      .ok [⟨(leading.name?.map Text.Utf8.lossy).getD defaultKeyName,
        .key (.plain .pkcs8 encoding) parsed.certificates, none⟩] := by
  simp only [failures, List.append_eq_nil_iff, hkey, hleading] at h
  obtain ⟨values, hvalues⟩ := exists_map_ok h.1.1
  obtain ⟨encoding, rfl⟩ : ∃ encoding, key = .ok encoding :=
    failureOf_eq_nil_iff.1 (by simpa using h.1.2)
  obtain ⟨certificate, hcertificate⟩ : ∃ certificate, leading.certificate = .ok certificate :=
    failureOf_eq_nil_iff.1 (by simpa using h.2)
  refine ⟨encoding, rfl, ?_⟩
  have hcertificates : parsed.certificates = certificate :: values := by
    simp [certificates, hleading, hcertificate, hvalues, Except.toOption, Function.comp_def]
  rw [credentials, hvalues, mapM_classified_of_ok, hkey, hleading, hcertificates]
  simp only [hcertificate, classified, Except.mapError]
  rfl

theorem credentials_of_keyless (h : parsed.failures = []) (hkey : parsed.key? = none) :
    parsed.credentials = .ok (parsed.certificates.mapIdx fun index certificate =>
      ⟨toString index, .trusted certificate, none⟩) := by
  have hall := map_ok_certificates h
  simp only [failures, List.append_eq_nil_iff] at h
  obtain ⟨values, hvalues⟩ := exists_map_ok h.1.1
  rw [credentials, hvalues, mapM_classified_of_ok, hkey]
  rw [hvalues] at hall
  cases hleading : parsed.leading? with
  | none =>
    have hcertificates : parsed.certificates = values := by
      simp [certificates, hleading, hvalues, Except.toOption, Function.comp_def]
    rw [hcertificates]
    rfl
  | some leading =>
    obtain ⟨certificate, hcertificate⟩ : ∃ certificate, leading.certificate = .ok certificate :=
      failureOf_eq_nil_iff.1 (by simpa [hleading] using h.2)
    have hcertificates : parsed.certificates = certificate :: values := by
      simp [certificates, hleading, hcertificate, hvalues, Except.toOption, Function.comp_def]
    rw [hcertificates]
    simp only [Option.toList_some, List.mapM_cons, List.mapM_nil, hcertificate, classified,
      Except.mapError]
    rfl

/-- Parsed certificates make up trusted ones named by their places, or the chain of one key. -/
theorem arranged {credentials : List Credential} (h : parsed.credentials = .ok credentials) :
    Arranged "" parsed.certificates credentials := by
  cases hfailures : parsed.failures with
  | cons failure rest => cases credentials_of_failure hfailures ▸ h
  | nil =>
    cases hkey : parsed.key? with
    | none =>
      rw [credentials_of_keyless hfailures hkey] at h
      have htrusted : Arranged "" parsed.certificates _ := .trusted
      rw [← Except.ok.inj h]
      simpa using htrusted
    | some key =>
      cases hleading : parsed.leading? with
      | none => cases credentials_of_bare_key hfailures hkey hleading ▸ h
      | some leading =>
        obtain ⟨encoding, rfl, hmade⟩ := credentials_of_key hfailures hkey hleading
        rw [hmade] at h
        rw [← Except.ok.inj h]
        exact .chain _ _

end Parsed

/-- The library that is used parses an archive to what it finds in it. -/
theorem Library.parses_standard {text : String} (hpassword : Text.Utf8.decode? password = some text)
    (holdings : Holdings)
    (h : (do (← ofBytes bytes).holdings text).toOption = some holdings) :
    Library.standard.Parses bytes password holdings.parsed := by
  refine ⟨text, hpassword, ?_⟩
  cases harchive : ofBytes bytes with
  | error failure => simp [harchive, bind, Except.bind, Except.toOption] at h
  | ok archive =>
    cases hholdings : archive.holdings text with
    | error failure => simp [harchive, hholdings, bind, Except.bind, Except.toOption] at h
    | ok found =>
      obtain rfl : found = holdings := by
        simpa [harchive, hholdings, bind, Except.bind, Except.toOption] using h
      constructor
      · simp only [standard, harchive]
        rfl
      · simp only [standard, harchive, hholdings, bind, Except.bind]
        rfl

/-! Archives without protection are written here, with the least that a certificate must have. -/

/-- A value under its kind. -/
def encodeKind (kind : Asn1.ObjectIdentifier) (value : Bytes) : Bytes :=
  Asn1.encodeSequence [Asn1.encodeObjectIdentifier kind, Asn1.encodeExplicit 0 value]

/-- A certificate of a public key. Nobody looks at the signature, which is the key once more. -/
def encodeCertificate (algorithm publicKey : Bytes) : Bytes :=
  let bits := Asn1.encodeBitString ⟨0, publicKey⟩
  let time := Asn1.encode 0x17 (Bytes.ascii "250101000000Z")
  let body := Asn1.encodeSequence [Asn1.encodeUnsigned 1, algorithm, Asn1.encodeSequence [],
    Asn1.encodeSequence [time, time], Asn1.encodeSequence [], Asn1.encodeSequence [algorithm, bits]]
  Asn1.encodeSequence [body, algorithm, bits]

/-- The bag of a certificate without a name. -/
def encodeCertificateBag (certificate : Bytes) : Bytes :=
  encodeKind (bagKind 3) (encodeKind (certificateKind 22 1) (Asn1.encodeOctetString certificate))

/-- An archive with all its bags in one safe. -/
def encodeBags (bags : List Bytes) : Bytes :=
  let plain (value : Bytes) := encodeKind (contentKind 1) (Asn1.encodeOctetString value)
  Asn1.encodeSequence [Asn1.encodeUnsigned 3,
    plain (Asn1.encodeSequence [plain (Asn1.encodeSequence bags)])]

end Archive

section Stores

variable {library : Archive.Library} {bytes password : Bytes} {credentials : List Credential}

theorem decode_archive {parsed : Archive.Parsed} (h : library.Parses bytes password parsed) :
    StoreFormat.archive.decodeWith library bytes password =
      parsed.credentials.mapError LoadCause.ofArchive := by
  rw [StoreFormat.decodeWith, h.decodeWith_eq]

/-- The credentials of an archive are made of what is parsed. -/
theorem arranged_of_archive
    (h : StoreFormat.archive.decodeWith library bytes password = .ok credentials) :
    ∃ parsed, library.Parses bytes password parsed ∧ parsed.failures = [] ∧
      Arranged "" parsed.certificates credentials := by
  obtain ⟨parsed, hparses, hcredentials⟩ :=
    Archive.parses_of_decodeWith (mapError_eq_ok_iff.1 h)
  refine ⟨parsed, hparses, ?_, parsed.arranged hcredentials⟩
  cases hfailures : parsed.failures with
  | nil => rfl
  | cons failure rest => cases Archive.Parsed.credentials_of_failure hfailures ▸ hcredentials

theorem arranged_of_pem (h : StoreFormat.pem.decodeWith library bytes password = .ok credentials) :
    Arranged "cert-" (Pem.certificates bytes) credentials := by
  rw [StoreFormat.decodeWith, Pem.decode_eq] at h
  split at h
  · cases h
  · cases hassemble : Pem.assemble (Pem.certificates bytes) (Pem.keys bytes) with
    | error defect =>
      rw [hassemble] at h
      cases h
    | ok made =>
      rw [hassemble] at h
      obtain rfl := Except.ok.inj h
      exact Pem.arranged_of_assemble hassemble

/-- Aliases differ in more than case in every store that is not a keystore. -/
theorem distinct_of_decode {format : StoreFormat} (declaredType : String)
    (hformat : format = .pem ∨ format = .archive)
    (h : format.decodeWith library bytes password = .ok credentials) :
    CredentialStore.Distinct ⟨declaredType, credentials⟩ := by
  rcases hformat with rfl | rfl
  · exact (arranged_of_pem h).distinct declaredType
  · obtain ⟨parsed, -, -, harranged⟩ := arranged_of_archive h
    exact harranged.distinct declaredType

end Stores

open Text.AsciiCase in
/-- Whatever library parses archives, the first failure to write out a certificate or the key makes
an archive fail, in the class of this failure. Where there is none, a key that comes without a
certificate makes it fail; a key with its certificate is one credential whose chain is this
certificate and all others, in order; and without a key each certificate is trusted, the leading one
first, and named by its place. So the certificates of the store are those of the archive. In PEM
text and archives no two aliases are the same up to case, and each credential is found by its alias.
In any store a look-up gives the first credential whose alias is the name up to case, and gives one
exactly if some alias is. -/
theorem credentials_conserved_and_found :
    (∀ (library : Archive.Library) bytes password parsed, library.Parses bytes password parsed →
      let decoded := StoreFormat.archive.decodeWith library bytes password
      (∀ failure rest, parsed.failures = failure :: rest →
        decoded = .error (.ofArchive (.ofFailure failure))) ∧
      (parsed.failures = [] →
        parsed.certificates.map Except.ok =
          parsed.leading?.toList.map Archive.Leading.certificate ++ parsed.others ∧
        (∀ key, parsed.key? = some key → parsed.leading? = none →
          decoded = .error (.formatOrPassword (.archive .keyWithoutCertificate))) ∧
        (∀ key leading, parsed.key? = some key → parsed.leading? = some leading →
          ∃ encoding, key = .ok encoding ∧
            decoded = .ok [⟨(leading.name?.map Text.Utf8.lossy).getD Archive.defaultKeyName,
              .key (.plain .pkcs8 encoding) parsed.certificates, none⟩]) ∧
        (parsed.key? = none →
          decoded = .ok (parsed.certificates.mapIdx fun index certificate =>
            ⟨toString index, .trusted certificate, none⟩)))) ∧
    (∀ (library : Archive.Library) bytes password declaredType credentials,
      StoreFormat.archive.decodeWith library bytes password = .ok credentials →
        ∃ parsed, library.Parses bytes password parsed ∧
          (CredentialStore.certificates ⟨declaredType, credentials⟩).map Except.ok =
            parsed.leading?.toList.map Archive.Leading.certificate ++ parsed.others) ∧
    (∀ (library : Archive.Library) (format : StoreFormat) bytes password declaredType credentials,
      format = .pem ∨ format = .archive →
      format.decodeWith library bytes password = .ok credentials →
        let store : CredentialStore := ⟨declaredType, credentials⟩
        (store.aliases.map fold).Nodup ∧
          ∀ (index : Nat) listed, store.aliases[index]? = some listed →
            store.find? listed = store.credentials[index]?) ∧
    ∀ (store : CredentialStore) name,
      (∀ index, store.index? name = some index ↔
        (∃ credential ∈ store.credentials[index]?, fold credential.name = fold name) ∧
          ∀ earlier < index, ∀ credential ∈ store.credentials[earlier]?,
            fold credential.name ≠ fold name) ∧
      store.find? name = (store.index? name).bind (store.credentials[·]?) ∧
      ((store.find? name).isSome ↔ ∃ listed ∈ store.aliases, fold listed = fold name) ∧
      ∀ other, fold name = fold other → store.find? name = store.find? other := by
  refine ⟨?_, ?_, ?_, ?_⟩
  · intro library bytes password parsed hparses decoded
    have hdecoded : decoded = parsed.credentials.mapError LoadCause.ofArchive :=
      decode_archive hparses
    rw [hdecoded]
    constructor
    · intro failure rest hfailures
      rw [Archive.Parsed.credentials_of_failure hfailures]
      rfl
    · intro hfailures
      refine ⟨Archive.Parsed.map_ok_certificates hfailures, ?_, ?_, ?_⟩
      · intro key hkey hleading
        rw [Archive.Parsed.credentials_of_bare_key hfailures hkey hleading]
        rfl
      · intro key leading hkey hleading
        obtain ⟨encoding, rfl, hmade⟩ :=
          Archive.Parsed.credentials_of_key hfailures hkey hleading
        rw [hmade]
        exact ⟨encoding, rfl, rfl⟩
      · intro hkey
        rw [Archive.Parsed.credentials_of_keyless hfailures hkey]
        rfl
  · intro library bytes password declaredType credentials hdecode
    obtain ⟨parsed, hparses, hfailures, harranged⟩ := arranged_of_archive hdecode
    refine ⟨parsed, hparses, ?_⟩
    rw [CredentialStore.certificates, harranged.certificates_eq,
      Archive.Parsed.map_ok_certificates hfailures]
  · intro library format bytes password declaredType credentials hformat hdecode store
    have hdistinct : store.Distinct := distinct_of_decode declaredType hformat hdecode
    exact ⟨hdistinct, fun index listed hlisted => hdistinct.find? hlisted⟩
  · intro store name
    exact ⟨fun index => CredentialStore.index?_eq_some_iff, store.find?_eq_bind name,
      CredentialStore.isSome_find?_iff, fun other => CredentialStore.find?_congr⟩

/-- An archive with one certificate that no key belongs to. -/
theorem certificate_of_keyless_archive :
    let certificate :=
      Archive.encodeCertificate (Asn1.encodeAlgorithm KeyAlgorithm.edwards []) [0xaa]
    let archive := Archive.encodeBags [Archive.encodeCertificateBag certificate]
    let store : CredentialStore := ⟨"PKCS12", [⟨"0", .trusted certificate, none⟩]⟩
    StoreFormat.archive.decode archive [] = .ok store.credentials ∧
      store.find? "0" = some ⟨"0", .trusted certificate, none⟩ := by
  intro certificate archive store
  have hparses : Archive.Library.standard.Parses archive [] ⟨none, none, [.ok certificate]⟩ :=
    Archive.Library.parses_standard rfl ⟨none, none, [⟨certificate, none⟩]⟩ (by decide +kernel)
  obtain ⟨hheld, -, hfound, -⟩ := credentials_conserved_and_found
  have hdecode := ((hheld .standard archive [] _ hparses).2 rfl).2.2.2 rfl
  exact ⟨hdecode, (hfound .standard .archive archive [] "PKCS12" _ (.inr rfl) hdecode).2 0 "0" rfl⟩

/-- A key on a curve of 32 bytes whose number takes 33 has its certificate beside it and makes no
credential, since it is not written out. -/
theorem unwritable_key_fails :
    let curve := Curve.Weierstrass.p256
    let point := curve.encodePoint .uncompressed (.affine curve.baseX curve.baseY)
    let algorithm :=
      Asn1.encodeAlgorithm KeyAlgorithm.elliptic (Asn1.encodeObjectIdentifier curve.identifier)
    let info := PrivateKey.wrap algorithm <| Asn1.encodeSequence [Asn1.encodeSigned 1,
      Asn1.encodeOctetString (Bytes.bigEndian 33 (Bytes.capacity 32 + 1)),
      Asn1.encodeExplicit 1 (Asn1.encodeBitString ⟨0, point⟩)]
    let certificate := Archive.encodeCertificate algorithm point
    let archive := Archive.encodeBags
      [Archive.encodeKind (Archive.bagKind 1) info, Archive.encodeCertificateBag certificate]
    Archive.Library.standard.Parses archive []
        ⟨some (.error .malformed), some ⟨.ok certificate, none⟩, []⟩ ∧
      StoreFormat.archive.decode archive [] = .error (.formatOrPassword (.archive .malformed)) := by
  intro curve point algorithm info certificate archive
  let half : Curve.Point := .affine curve.baseX curve.baseY
  let key : EllipticKey := ⟨1, curve, Bytes.capacity 32 + 1, some (half, .uncompressed)⟩
  let leading : Archive.NamedCertificate := ⟨⟨certificate, some (.elliptic curve half)⟩, none⟩
  have hencode : PrivateKey.encode? (.elliptic key) = none := by decide +kernel
  have hparses : Archive.Library.standard.Parses archive []
      ⟨some (.error .malformed), some ⟨.ok certificate, none⟩, []⟩ := by
    have hfound : Archive.Library.standard.Parses archive []
        (Archive.Holdings.parsed ⟨some (.elliptic key), some leading, []⟩) :=
      Archive.Library.parses_standard rfl _ (by decide +kernel)
    rw [Archive.Holdings.parsed, Option.map_some, hencode] at hfound
    exact hfound
  have hfailures : Archive.Parsed.failures
      ⟨some (.error .malformed), some ⟨.ok certificate, none⟩, []⟩ = [.malformed] := rfl
  refine ⟨hparses, ?_⟩
  rw [StoreFormat.decode, decode_archive hparses,
    Archive.Parsed.credentials_of_failure hfailures]
  rfl

end CredentialWatch
