import CredentialWatch.Proofs.KeystoreFile
import CredentialWatch.Proofs.Utf16

/-!
# Keystore files that are tampered with

A file that is cut short or added to is refused for its structure: the body that is then left of it
begins with the body of the file or the other way round, and no layout of contents begins with that
of others. A file that is altered without that, or that is opened with another password, can only be
let through where SHA-1 has a collision, since what is digested tells the password and the body
apart.
-/
namespace CredentialWatch.Keystore

section Framing

/-- Layouts of fitting values with something behind them are equal only if the values are. -/
theorem Scan.Reads.unique {α : Type} {scan : Scan α} {layout : α → Bytes} {fits : α → Prop}
    (reads : Reads scan layout fits) {value other : α} {rest rest' : Bytes}
    (h : layout value ++ rest = layout other ++ rest') (hfits : fits value) (hfits' : fits other) :
    value = other ∧ rest = rest' := by
  have hvalue := (reads _ value rest).2 ⟨rfl, hfits⟩
  have hother := (reads _ other rest').2 ⟨h, hfits'⟩
  rw [hvalue] at hother
  obtain ⟨houtcome, hrest⟩ := Prod.mk.inj hother
  exact ⟨Except.ok.inj houtcome, hrest⟩

variable {contents other : Contents} {file : Bytes}

/-- No layout of contents begins with the layout of other contents. -/
theorem Contents.eq_of_append_eq {rest rest' : Bytes} (hfits : contents.Fits) (hfits' : other.Fits)
    (h : contents.bytes ++ rest = other.bytes ++ rest') : contents = other := by
  obtain ⟨version, records⟩ := contents
  obtain ⟨version', records'⟩ := other
  simp only [Contents.bytes, List.append_assoc] at h
  have hversions := List.append_cancel_left h
  obtain ⟨rfl, hcounts⟩ := Scan.reads_version.unique hversions trivial trivial
  obtain ⟨hcount, hrecords⟩ := (Scan.reads_number 4).unique hcounts hfits.1 hfits'.1
  obtain ⟨rfl, -⟩ := ((Scan.reads_record version).many records.length).unique hrecords
    ⟨rfl, hfits.2⟩ ⟨hcount.symm, hfits'.2⟩
  rfl

theorem Contents.eq_of_comparable (hfits : contents.Fits) (hfits' : other.Fits)
    (h : contents.bytes <+: other.bytes ∨ other.bytes <+: contents.bytes) : contents = other := by
  rcases h with ⟨rest, hrest⟩ | ⟨rest, hrest⟩
  · have hwhole : contents.bytes ++ rest = other.bytes ++ [] := by rw [hrest, List.append_nil]
    exact eq_of_append_eq hfits hfits' hwhole
  · have hwhole : contents.bytes ++ [] = other.bytes ++ rest := by rw [hrest, List.append_nil]
    exact eq_of_append_eq hfits hfits' hwhole

/-- What is left of a file without what is taken for its digest. -/
def bodyOf (file : Bytes) : Bytes :=
  file.take (file.length - digestLength)

/-- A file of a length and body for which every file is refused with the same defect: neither the
password nor the bytes that are taken for the digest have to do with it. -/
def IsMisshapen (file : Bytes) : Prop :=
  ∃ defect, ∀ other : Bytes, other.length = file.length → bodyOf other = bodyOf file →
    ∀ password, StoreFormat.keystore.decode other password =
      .error (.formatOrPassword (.keystore defect))

/-- A file is misshapen if it is too short for a digest or its body is no layout of contents. -/
theorem isMisshapen_of_body
    (h : digestLength ≤ file.length → ∀ contents : Contents, contents.Fits →
      bodyOf file ≠ contents.bytes) : IsMisshapen file := by
  by_cases hshort : file.length < digestLength
  · refine ⟨.truncated, fun other hlength _ password => ?_⟩
    have hcut : cut other = .error .truncated := if_pos (hlength ▸ hshort)
    simp only [StoreFormat.decode, StoreFormat.decodeWith, decode, decodeContents, hcut]
    rfl
  · cases hread : readContents (bodyOf file) with
    | ok contents =>
      obtain ⟨hbody, hfits⟩ := readContents_eq_ok_iff.1 hread
      exact absurd hbody (h (Nat.le_of_not_lt hshort) contents hfits)
    | error defect =>
      refine ⟨defect, fun other hlength hsame password => ?_⟩
      have hcut : cut other = .ok (bodyOf other, other.drop (other.length - digestLength)) :=
        if_neg (hlength ▸ hshort)
      simp only [StoreFormat.decode, StoreFormat.decodeWith, decode, decodeContents, hcut, hsame,
        bind, Except.bind, hread]
      rfl

theorem bodyOf_starts (file : Bytes) : bodyOf file <+: file :=
  List.take_prefix _ _

theorem length_bodyOf (file : Bytes) : (bodyOf file).length = file.length - digestLength := by
  rw [bodyOf, List.length_take]
  omega

/-- A file that begins with another one that is read, or the other way round, has no layout as its
body. -/
theorem isMisshapen_of_comparable {altered password : Bytes} {credentials : List Credential}
    (hread : StoreFormat.keystore.decode file password = .ok credentials)
    (hcomparable : altered <+: file ∨ file <+: altered) (hlength : altered.length ≠ file.length) :
    IsMisshapen altered := by
  obtain ⟨text, contents, -, hfits, hfile, -⟩ := decode_eq_ok_iff.1 hread
  have hclosing : (closingDigest text contents.bytes).length = digestLength := Digest.length_sha1 _
  have hbody : bodyOf file = contents.bytes := by
    rw [bodyOf, hfile, List.length_append, hclosing, Nat.add_sub_cancel, List.take_left]
  refine isMisshapen_of_body fun henough other hfits' hother => hlength ?_
  have hbodies : bodyOf altered <+: bodyOf file ∨ bodyOf file <+: bodyOf altered := by
    rcases hcomparable with hcut | hmore
    · exact List.prefix_or_prefix_of_prefix ((bodyOf_starts altered).trans hcut)
        (bodyOf_starts file)
    · exact List.prefix_or_prefix_of_prefix (bodyOf_starts altered)
        ((bodyOf_starts file).trans hmore)
  rw [hother, hbody] at hbodies
  obtain rfl : other = contents := Contents.eq_of_comparable hfits' hfits hbodies
  have hlengths : (bodyOf altered).length = (bodyOf file).length := by rw [hother, hbody]
  rw [length_bodyOf, length_bodyOf] at hlengths
  have hfileLength : digestLength ≤ file.length := by
    rw [hfile, List.length_append, hclosing]
    omega
  omega

/-- Of two files that are read, under whatever passwords, neither begins with the other: a file that
is cut short or added to is refused for its structure, whatever password it is opened with and
whatever stands in the place of its digest. -/
theorem no_file_begins_with_another {password : Bytes} {credentials : List Credential}
    (hread : StoreFormat.keystore.decode file password = .ok credentials) :
    (∀ left, left <+: file → left ≠ file → IsMisshapen left) ∧
      ∀ more, more ≠ [] → IsMisshapen (file ++ more) := by
  constructor
  · intro left hprefix hne
    refine isMisshapen_of_comparable hread (.inl hprefix) fun hlength => hne ?_
    exact hprefix.eq_of_length hlength
  · intro more hmore
    refine isMisshapen_of_comparable hread (.inr (List.prefix_append file more)) ?_
    have hpositive := List.length_pos_of_ne_nil hmore
    rw [List.length_append]
    omega

/-- A file that ends with an empty certificate is refused without its last byte and with a byte
more. -/
theorem empty_certificate_at_the_end :
    ∃ file, StoreFormat.keystore.decode file [] = .ok [⟨"", .trusted [], some ⟨0, 0⟩⟩] ∧
      IsMisshapen file.dropLast ∧ IsMisshapen (file ++ [0]) := by
  let contents : Contents := ⟨.two, [⟨[], 0, .trusted []⟩]⟩
  let file := contents.bytes ++ closingDigest "" contents.bytes
  have hfits : contents.Fits :=
    ⟨by decide, List.forall_mem_singleton.2 ⟨by decide, by decide, by decide⟩⟩
  have hread : StoreFormat.keystore.decode file [] = .ok [⟨"", .trusted [], some ⟨0, 0⟩⟩] :=
    decode_eq_ok_iff.2 ⟨"", contents, rfl, hfits, rfl, by decide +kernel⟩
  obtain ⟨hcut, hmore⟩ := no_file_begins_with_another hread
  refine ⟨file, hread, hcut _ (List.dropLast_prefix file) fun h => ?_, hmore [0] (by simp)⟩
  have hlength := congrArg List.length h
  rw [List.length_dropLast] at hlength
  simp [file, contents, Contents.bytes] at hlength

end Framing

section Collisions

/-- Two different messages with one digest. -/
def Collide (left right : Bytes) : Prop :=
  left ≠ right ∧ Digest.sha1 left = Digest.sha1 right

variable {body body' : Bytes} {text text' : String}

/-- What is digested tells the passwords apart. -/
theorem collide_of_passwords (hne : text ≠ text')
    (hsame : closingDigest text body = closingDigest text' body) :
    Collide (signedMessage text body) (signedMessage text' body) := by
  refine ⟨fun h => hne (Text.Utf16.encode_injective ?_), hsame⟩
  simp only [signedMessage, List.append_assoc] at h
  exact List.append_cancel_right h

/-- What is digested tells the bodies apart. -/
theorem collide_of_bodies (hne : body ≠ body')
    (hsame : closingDigest text body = closingDigest text body') :
    Collide (signedMessage text body) (signedMessage text body') := by
  refine ⟨fun h => hne ?_, hsame⟩
  simp only [signedMessage, List.append_assoc] at h
  exact List.append_cancel_left (List.append_cancel_left h)

/-- A file that is read: its password is a text, and its body has the digest behind it. -/
theorem closing_of_decode {file password : Bytes} {credentials : List Credential}
    (hread : StoreFormat.keystore.decode file password = .ok credentials) :
    ∃ text body, password = Text.Utf8.encode text ∧ file = body ++ closingDigest text body := by
  obtain ⟨text, contents, hpassword, -, hfile, -⟩ := decode_eq_ok_iff.1 hread
  exact ⟨text, contents.bytes, hpassword, hfile⟩

/-- A file that is read under a password is read under another one, or another file with the same
digest at its end is read under the same password, only if two different messages have one SHA-1
digest. A password that is no text is refused. -/
theorem other_opening_needs_collision {file password : Bytes} {credentials : List Credential}
    (hread : StoreFormat.keystore.decode file password = .ok credentials) :
    let message (text : String) (body : Bytes) : Bytes :=
      Text.Utf16.encode text ++ Bytes.ascii "Mighty Aphrodite" ++ body
    ∃ (text : String) (body closing : Bytes),
      password = Text.Utf8.encode text ∧ file = body ++ closing ∧ closing.length = 20 ∧
      (∀ other, other ≠ password →
        (∃ text', other = Text.Utf8.encode text' ∧
          ∀ credentials', StoreFormat.keystore.decode file other = .ok credentials' →
            Collide (message text body) (message text' body)) ∨
        (¬∃ text', other = Text.Utf8.encode text') ∧
          ∃ defect, StoreFormat.keystore.decode file other = .error (.formatOrPassword defect)) ∧
      ∀ altered, altered ≠ file → closing <:+ altered →
        ∀ credentials', StoreFormat.keystore.decode altered password = .ok credentials' →
          ∃ body', altered = body' ++ closing ∧
            Collide (message text body) (message text body') := by
  intro message
  obtain ⟨text, body, rfl, rfl⟩ := closing_of_decode hread
  refine ⟨text, body, closingDigest text body, rfl, rfl, Digest.length_sha1 _,
    fun other hne => ?_, ?_⟩
  · by_cases htext : ∃ text', other = Text.Utf8.encode text'
    · obtain ⟨text', rfl⟩ := htext
      refine .inl ⟨text', rfl, fun credentials' hread' => ?_⟩
      obtain ⟨found, body', hfound, hfile⟩ := closing_of_decode hread'
      obtain rfl : text' = found := Text.Utf8.encode_injective hfound
      obtain ⟨rfl, hsame⟩ := List.append_inj' hfile (by simp [closingDigest, Digest.length_sha1])
      exact collide_of_passwords (fun h => hne (by rw [h])) hsame
    · refine .inr ⟨htext, ?_⟩
      obtain ⟨credentials', hread'⟩ | hrefused :=
        mapError_ofKeystore_cases (decode (body ++ closingDigest text body) other)
      · obtain ⟨text', -, hother, -⟩ := closing_of_decode hread'
        exact absurd ⟨text', hother⟩ htext
      · exact hrefused
  · rintro altered hne ⟨body', rfl⟩ credentials' hread'
    obtain ⟨found, other, hfound, hfile⟩ := closing_of_decode hread'
    obtain rfl : text = found := Text.Utf8.encode_injective hfound
    obtain ⟨rfl, hsame⟩ := List.append_inj' hfile (by simp [closingDigest, Digest.length_sha1])
    exact ⟨body', rfl, collide_of_bodies (fun h => hne (by rw [h])) hsame⟩

/-- A file under a password of a key sign and a NUL is opened without the NUL by a collision only,
and not at all by a byte that is no text. -/
theorem opening_without_nul_needs_collision :
    ∃ (file body : Bytes),
      StoreFormat.keystore.decode file (Text.Utf8.encode "🔑\x00") = .ok [] ∧
      (∀ credentials, StoreFormat.keystore.decode file (Text.Utf8.encode "🔑") = .ok credentials →
        Collide (Text.Utf16.encode "🔑\x00" ++ Bytes.ascii "Mighty Aphrodite" ++ body)
          (Text.Utf16.encode "🔑" ++ Bytes.ascii "Mighty Aphrodite" ++ body)) ∧
      ∃ defect, StoreFormat.keystore.decode file [0xFF] = .error (.formatOrPassword defect) := by
  let contents : Contents := ⟨.one, []⟩
  let file := contents.bytes ++ closingDigest "🔑\x00" contents.bytes
  have hread : StoreFormat.keystore.decode file (Text.Utf8.encode "🔑\x00") = .ok [] :=
    decode_eq_ok_iff.2 ⟨"🔑\x00", contents, rfl, ⟨by decide, by simp [contents]⟩, rfl, rfl⟩
  obtain ⟨text, body, closing, htext, -, -, hpasswords, -⟩ := other_opening_needs_collision hread
  obtain rfl : "🔑\x00" = text := Text.Utf8.encode_injective htext
  refine ⟨file, body, hread, fun credentials hopened => ?_, ?_⟩
  · rcases hpasswords (Text.Utf8.encode "🔑") (by decide) with ⟨text', htext', hcollide⟩ | ⟨hnone, -⟩
    · obtain rfl : "🔑" = text' := Text.Utf8.encode_injective htext'
      exact hcollide credentials hopened
    · exact absurd ⟨"🔑", rfl⟩ hnone
  · rcases hpasswords [0xFF] (by decide) with ⟨text', htext', -⟩ | ⟨-, hrefused⟩
    · have hdecoded := Text.Utf8.decode?_eq_some_iff.2 htext'
      cases hdecoded
    · exact hrefused

end Collisions

end CredentialWatch.Keystore
