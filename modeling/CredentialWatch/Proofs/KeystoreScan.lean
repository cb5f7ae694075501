import CredentialWatch.Keystore.Scan
import CredentialWatch.Proofs.Utf8

/-!
# What the scans of a keystore read

A scan reads a layout when it succeeds on exactly the byte strings that begin with the layout of a
fitting value, and then leaves what follows. Each scan reads the layout of its part, so a body is
read exactly when it is the layout of some contents: no prefix, no wrong count and nothing behind
the last record is let through.
-/
namespace CredentialWatch.Keystore

namespace Scan

variable {α β : Type}

section Steps

variable {bytes rest : Bytes}

theorem runOn_bind (scan : Scan α) (next : α → Scan β) (bytes : Bytes) :
    (scan >>= next).runOn bytes =
      match scan.runOn bytes with
      | (.ok value, middle) => (next value).runOn middle
      | (.error defect, middle) => (.error defect, middle) := by
  simp only [runOn, ExceptT.run_bind, StateT.run_bind]
  obtain ⟨outcome, middle⟩ := StateT.run (ExceptT.run scan) bytes
  cases outcome <;> rfl

/-- Two scans in a row succeed when both do, the second on what the first leaves. -/
theorem bind_runOn_iff {scan : Scan α} {next : α → Scan β} {last : β} :
    (scan >>= next).runOn bytes = (.ok last, rest) ↔
      ∃ value middle, scan.runOn bytes = (.ok value, middle) ∧
        (next value).runOn middle = (.ok last, rest) := by
  rw [runOn_bind]
  obtain ⟨outcome, middle⟩ := scan.runOn bytes
  cases outcome with
  | ok value => simp
  | error defect => simp

@[simp] theorem pure_runOn_iff {value last : α} :
    (pure value : Scan α).runOn bytes = (.ok last, rest) ↔ value = last ∧ bytes = rest := by
  have hpure : (pure value : Scan α).runOn bytes = (.ok value, bytes) := rfl
  simp [hpure]

@[simp] theorem throw_runOn_iff {defect : Defect} {last : α} :
    (throw defect : Scan α).runOn bytes = (.ok last, rest) ↔ False := by
  have hthrow : (throw defect : Scan α).runOn bytes = (.error defect, bytes) := rfl
  simp [hthrow]

@[simp] theorem get_runOn_iff {last : Bytes} :
    (get : Scan Bytes).runOn bytes = (.ok last, rest) ↔ bytes = last ∧ bytes = rest := by
  have hget : (get : Scan Bytes).runOn bytes = (.ok bytes, bytes) := rfl
  simp [hget]

theorem map_runOn_iff {scan : Scan α} {image : α → β} {last : β} :
    (image <$> scan).runOn bytes = (.ok last, rest) ↔
      ∃ value, scan.runOn bytes = (.ok value, rest) ∧ image value = last := by
  rw [map_eq_pure_bind, bind_runOn_iff]
  constructor
  · rintro ⟨value, middle, hvalue, hlast⟩
    obtain ⟨himage, rfl⟩ := pure_runOn_iff.1 hlast
    exact ⟨value, hvalue, himage⟩
  · rintro ⟨value, hvalue, himage⟩
    exact ⟨value, rest, hvalue, pure_runOn_iff.2 ⟨himage, rfl⟩⟩

@[simp] theorem expect_runOn_iff {condition : Bool} {defect : Defect} {done : Unit} :
    (expect condition defect).runOn bytes = (.ok done, rest) ↔ condition ∧ bytes = rest := by
  cases condition <;> simp [expect]

theorem runOn_take (count : Nat) (bytes : Bytes) :
    (take count).runOn bytes =
      match bytes.split? count with
      | some (first, rest) => (.ok first, rest)
      | none => (.error Defect.truncated, bytes) := by
  have hget : (take count).runOn bytes =
      (match bytes.split? count with
        | some (first, rest) => (do set rest; return first : Scan Bytes)
        | none => throw Defect.truncated).runOn bytes := rfl
  rw [hget]
  cases bytes.split? count <;> rfl

theorem take_runOn_iff {count : Nat} {first : Bytes} :
    (take count).runOn bytes = (.ok first, rest) ↔
      bytes = first ++ rest ∧ first.length = count := by
  rw [← Bytes.split?_eq_some_iff, runOn_take]
  cases bytes.split? count with
  | none => simp
  | some parts => simp [Prod.ext_iff]

end Steps

/-- A scan succeeds on the byte strings that begin with the layout of a fitting value, gives that
value and leaves what follows. -/
def Reads (scan : Scan α) (layout : α → Bytes) (fits : α → Prop) : Prop :=
  ∀ bytes value rest,
    scan.runOn bytes = (.ok value, rest) ↔ bytes = layout value ++ rest ∧ fits value

theorem reads_number (width : Nat) :
    Reads (number width) (Bytes.bigEndian width) (· < Bytes.capacity width) := by
  intro bytes value rest
  rw [number, map_runOn_iff]
  constructor
  · rintro ⟨field, hfield, rfl⟩
    obtain ⟨rfl, hlength⟩ := take_runOn_iff.1 hfield
    exact ⟨by rw [Bytes.bigEndian_value hlength], Bytes.value_lt hlength⟩
  · rintro ⟨rfl, hfits⟩
    refine ⟨Bytes.bigEndian width value, take_runOn_iff.2 ⟨rfl, by simp⟩, ?_⟩
    rw [Bytes.value_bigEndian, Nat.mod_eq_of_lt hfits]

theorem reads_counted (width : Nat) :
    Reads (Scan.counted width) (Keystore.counted width) (·.length < Bytes.capacity width) := by
  intro bytes value rest
  rw [Scan.counted, bind_runOn_iff]
  constructor
  · rintro ⟨count, middle, hcount, hvalue⟩
    obtain ⟨rfl, hfits⟩ := (reads_number width _ _ _).1 hcount
    obtain ⟨rfl, rfl⟩ := take_runOn_iff.1 hvalue
    exact ⟨by simp [Keystore.counted], hfits⟩
  · rintro ⟨rfl, hfits⟩
    refine ⟨value.length, value ++ rest, (reads_number width _ _ _).2 ⟨?_, hfits⟩,
      take_runOn_iff.2 ⟨rfl, rfl⟩⟩
    simp [Keystore.counted]

/-- The only field that a scan takes for an encoded text without U+FFFD is that text. -/
theorem text_runOn_iff {bytes rest : Bytes} {name : String} (hmark : '\uFFFD' ∉ name.toList) :
    text.runOn bytes = (.ok name, rest) ↔
      bytes = Keystore.counted 2 (Text.Utf8.encode name) ++ rest ∧
        name.utf8ByteSize < Bytes.capacity 2 := by
  rw [text, map_runOn_iff]
  constructor
  · rintro ⟨field, hfield, rfl⟩
    obtain ⟨rfl, hfits⟩ := (reads_counted 2 _ _ _).1 hfield
    have hname := Text.Utf8.eq_encode_of_lossy rfl hmark
    refine ⟨by rw [← hname], ?_⟩
    rw [← Text.Utf8.length_encode, ← hname]
    exact hfits
  · rintro ⟨rfl, hfits⟩
    refine ⟨Text.Utf8.encode name, (reads_counted 2 _ _ _).2 ⟨rfl, ?_⟩, by simp⟩
    simpa using hfits

/-- As many items as a counter says are read one behind the other. -/
theorem Reads.many {item : Scan α} {layout : α → Bytes} {fits : α → Prop}
    (reads : Reads item layout fits) (count : Nat) :
    Reads (many item count) (List.flatMap layout)
      (fun values => values.length = count ∧ ∀ value ∈ values, fits value) := by
  induction count with
  | zero =>
    intro bytes values rest
    simp only [Scan.many, pure_runOn_iff, List.length_eq_zero_iff]
    constructor
    · rintro ⟨rfl, rfl⟩
      simp
    · rintro ⟨rfl, rfl, -⟩
      simp
  | succ count ih =>
    intro bytes values rest
    simp only [Scan.many, bind_runOn_iff, pure_runOn_iff]
    constructor
    · rintro ⟨first, middle, hfirst, others, last, hothers, rfl, rfl⟩
      obtain ⟨rfl, hfit⟩ := (reads _ _ _).1 hfirst
      obtain ⟨rfl, rfl, hfits⟩ := (ih _ _ _).1 hothers
      refine ⟨by simp, by simp, ?_⟩
      simpa using ⟨hfit, hfits⟩
    · rintro ⟨rfl, hlength, hfits⟩
      cases values with
      | nil => simp at hlength
      | cons first others =>
        have hothers : others.length = count := by simpa using hlength
        refine ⟨first, others.flatMap layout ++ rest, (reads _ _ _).2 ⟨by simp, ?_⟩,
          others, rest, (ih _ _ _).2 ⟨rfl, hothers, ?_⟩, rfl, rfl⟩
        · exact hfits first List.mem_cons_self
        · exact fun value hvalue => hfits value (List.mem_cons_of_mem _ hvalue)

theorem reads_certificate (version : Version) :
    Reads (certificate version) (certificateBytes version) (·.length < Bytes.capacity 4) := by
  cases version with
  | one => exact reads_counted 4
  | two =>
    have hmark : '\uFFFD' ∉ certificateType.toList := by decide
    intro bytes value rest
    simp only [certificate, bind_runOn_iff, expect_runOn_iff, decide_eq_true_eq]
    constructor
    · rintro ⟨name, middle, hname, -, middle, ⟨rfl, rfl⟩, hvalue⟩
      obtain ⟨rfl, -⟩ := (text_runOn_iff hmark).1 hname
      obtain ⟨rfl, hfits⟩ := (reads_counted 4 _ _ _).1 hvalue
      exact ⟨by simp [certificateBytes], hfits⟩
    · rintro ⟨rfl, hfits⟩
      refine ⟨certificateType, Keystore.counted 4 value ++ rest,
        (text_runOn_iff hmark).2 ⟨by simp [certificateBytes], by decide⟩,
        (), _, ⟨rfl, rfl⟩, (reads_counted 4 _ _ _).2 ⟨rfl, hfits⟩⟩

theorem reads_content (version : Version) (tag : Nat) :
    Reads (content version tag) (Content.bytes version)
      (fun content => content.tag = tag ∧ content.Fits) := by
  intro bytes value rest
  constructor
  · intro h
    rw [content] at h
    split at h
    · simp only [bind_runOn_iff, pure_runOn_iff] at h
      obtain ⟨wrapped, first, hwrapped, count, second, hcount, chain, third, hchain, rfl, rfl⟩ := h
      obtain ⟨rfl, hwrappedfits⟩ := (reads_counted 4 _ _ _).1 hwrapped
      obtain ⟨rfl, hcountfits⟩ := (reads_number 4 _ _ _).1 hcount
      obtain ⟨rfl, rfl, hchainfits⟩ := ((reads_certificate version).many _ _ _ _).1 hchain
      refine ⟨by simp [Content.bytes], ?_, hwrappedfits, hcountfits, hchainfits⟩
      simp [Content.tag, *]
    · split at h
      · simp only [bind_runOn_iff, pure_runOn_iff] at h
        obtain ⟨certificate, middle, hcertificate, rfl, rfl⟩ := h
        obtain ⟨rfl, hfits⟩ := (reads_certificate version _ _ _).1 hcertificate
        refine ⟨rfl, ?_, hfits⟩
        simp [Content.tag, *]
      · simp at h
  · rintro ⟨rfl, rfl, hfits⟩
    cases value with
    | key wrapped chain =>
      obtain ⟨hwrapped, hcount, hchain⟩ := hfits
      simp only [content, Content.tag, if_true, bind_runOn_iff, pure_runOn_iff]
      refine ⟨wrapped, _, (reads_counted 4 _ _ _).2 ⟨?_, hwrapped⟩,
        chain.length, _, (reads_number 4 _ _ _).2 ⟨rfl, hcount⟩,
        chain, rest, ((reads_certificate version).many _ _ _ _).2 ⟨rfl, rfl, hchain⟩, rfl, rfl⟩
      simp [Content.bytes]
    | trusted certificate =>
      have hscan : content version 2 = do return .trusted (← Scan.certificate version) := rfl
      simp only [Content.tag, hscan, bind_runOn_iff, pure_runOn_iff]
      exact ⟨certificate, rest, (reads_certificate version _ _ _).2 ⟨rfl, hfits⟩, rfl, rfl⟩

theorem tag_lt (content : Content) : content.tag < Bytes.capacity 4 := by
  cases content with
  | key wrapped chain => exact Nat.lt_of_lt_of_le (Nat.lt_add_one 1) (by decide)
  | trusted certificate => exact Nat.lt_of_lt_of_le (Nat.lt_add_one 2) (by decide)

theorem reads_record (version : Version) :
    Reads (record version) (Record.bytes version) Record.Fits := by
  intro bytes value rest
  simp only [record, bind_runOn_iff, pure_runOn_iff]
  constructor
  · rintro ⟨tag, first, htag, name, second, hname, time, third, htime, content, fourth, hcontent,
      rfl, rfl⟩
    obtain ⟨rfl, -⟩ := (reads_number 4 _ _ _).1 htag
    obtain ⟨rfl, hnamefits⟩ := (reads_counted 2 _ _ _).1 hname
    obtain ⟨rfl, htimefits⟩ := (reads_number 8 _ _ _).1 htime
    obtain ⟨rfl, rfl, hcontentfits⟩ := (reads_content version _ _ _ _).1 hcontent
    exact ⟨by simp [Record.bytes], hnamefits, htimefits, hcontentfits⟩
  · rintro ⟨rfl, hnamefits, htimefits, hcontentfits⟩
    obtain ⟨name, time, content⟩ := value
    refine ⟨content.tag, _, (reads_number 4 _ _ _).2 ⟨?_, tag_lt content⟩,
      name, _, (reads_counted 2 _ _ _).2 ⟨rfl, hnamefits⟩,
      time, _, (reads_number 8 _ _ _).2 ⟨rfl, htimefits⟩,
      content, rest, (reads_content version _ _ _ _).2 ⟨rfl, rfl, hcontentfits⟩, rfl, rfl⟩
    simp [Record.bytes]

theorem reads_version :
    Reads version (fun version => Bytes.bigEndian 4 version.number) (fun _ => True) := by
  intro bytes value rest
  simp only [version, bind_runOn_iff]
  constructor
  · rintro ⟨number, middle, hnumber, hvalue⟩
    obtain ⟨rfl, -⟩ := (reads_number 4 _ _ _).1 hnumber
    split at hvalue
    · obtain ⟨rfl, rfl⟩ := pure_runOn_iff.1 hvalue
      simp [Version.number, *]
    · split at hvalue
      · obtain ⟨rfl, rfl⟩ := pure_runOn_iff.1 hvalue
        simp [Version.number, *]
      · simp at hvalue
  · rintro ⟨rfl, -⟩
    refine ⟨value.number, rest, (reads_number 4 _ _ _).2 ⟨rfl, ?_⟩, ?_⟩
    · cases value <;> decide
    · cases value <;> simp [Version.number]

/-- A body is read when it is the layout of fitting contents, to its last byte. -/
theorem contents_runOn_iff {bytes rest : Bytes} {value : Contents} :
    contents.runOn bytes = (.ok value, rest) ↔
      bytes = value.bytes ∧ value.Fits ∧ rest = [] := by
  simp only [contents, bind_runOn_iff, expect_runOn_iff, get_runOn_iff, pure_runOn_iff,
    decide_eq_true_eq, List.isEmpty_iff]
  constructor
  · rintro ⟨mark, first, hmark, _, _, ⟨rfl, rfl⟩, version, second, hversion, count, third, hcount,
      records, fourth, hrecords, left, _, ⟨rfl, rfl⟩, _, _, ⟨rfl, rfl⟩, rfl, rfl⟩
    obtain ⟨rfl, -⟩ := (reads_number 4 _ _ _).1 hmark
    obtain ⟨rfl, -⟩ := (reads_version _ _ _).1 hversion
    obtain ⟨rfl, hcountfits⟩ := (reads_number 4 _ _ _).1 hcount
    obtain ⟨rfl, rfl, hfits⟩ := ((reads_record version).many _ _ _ _).1 hrecords
    exact ⟨by simp [Contents.bytes], ⟨hcountfits, hfits⟩, rfl⟩
  · rintro ⟨rfl, ⟨hcountfits, hfits⟩, rfl⟩
    obtain ⟨version, records⟩ := value
    refine ⟨magic, _, (reads_number 4 _ _ _).2 ⟨?_, by decide⟩, (), _, ⟨rfl, rfl⟩,
      version, _, (reads_version _ _ _).2 ⟨rfl, trivial⟩,
      records.length, _, (reads_number 4 _ _ _).2 ⟨rfl, hcountfits⟩,
      records, [], ((reads_record version).many _ _ _ _).2 ⟨rfl, rfl, hfits⟩,
      [], [], ⟨rfl, rfl⟩, (), [], ⟨rfl, rfl⟩, rfl, rfl⟩
    simp [Contents.bytes]

end Scan

/-- The bodies that are read are the layouts of fitting contents, each read as these contents. -/
theorem readContents_eq_ok_iff {body : Bytes} {contents : Contents} :
    readContents body = .ok contents ↔ body = contents.bytes ∧ contents.Fits := by
  have hrun : readContents body = .ok contents ↔
      ∃ rest, Scan.contents.runOn body = (.ok contents, rest) := by
    rw [readContents]
    constructor
    · intro h
      exact ⟨(Scan.contents.runOn body).2, Prod.ext h rfl⟩
    · rintro ⟨rest, h⟩
      rw [h]
  rw [hrun]
  constructor
  · rintro ⟨rest, h⟩
    obtain ⟨hbody, hfits, -⟩ := Scan.contents_runOn_iff.1 h
    exact ⟨hbody, hfits⟩
  · rintro ⟨hbody, hfits⟩
    exact ⟨[], Scan.contents_runOn_iff.2 ⟨hbody, hfits, rfl⟩⟩

end CredentialWatch.Keystore
