import CredentialWatch.Outcome
import CredentialWatch.Proofs.KeystorePositions

/-!
# Reading stays within the body

Certificates and records need some bytes at least, and these pay for what is built of them. So
however large the counters in a file are, what is built until reading ends or fails is bounded by
the file's own length.
-/
namespace CredentialWatch.Keystore

@[simp] theorem length_counted (width : Nat) (bytes : Bytes) :
    (counted width bytes).length = width + bytes.length := by
  simp [counted]

@[simp] theorem length_certificateBytes (version : Version) (held : Bytes) :
    (certificateBytes version held).length = (Item.certificate version []).least + held.length := by
  have htype : (Text.Utf8.encode certificateType).length = 5 := by decide
  cases version with
  | one => simp [certificateBytes, Item.least]
  | two =>
    simp only [certificateBytes, Item.least, List.length_append, length_counted, htype]
    omega

theorem Record.length_bytes (version : Version) (record : Record) :
    (record.bytes version).length =
      14 + record.name.length + (record.content.bytes version).length := by
  simp only [bytes, List.length_append, Bytes.length_bigEndian, length_counted]
  omega

namespace Item

theorem least_le (item : Item) : item.least ≤ item.bytes.length := by
  match item with
  | certificate version held =>
    rw [bytes, length_certificateBytes]
    cases version <;> exact Nat.le_add_right _ _
  | record version ⟨name, time, .key wrapped chain⟩ =>
    simp only [bytes, Record.length_bytes, Content.bytes, List.length_append, length_counted,
      Bytes.length_bigEndian, least]
    omega
  | record version ⟨name, time, .trusted held⟩ =>
    have hleast : 4 ≤ (certificate version []).least := by cases version <;> decide
    rw [bytes, Record.length_bytes, Content.bytes, length_certificateBytes, least]
    omega

/-- The bytes of a record are its own and those of its certificates. -/
theorem affordable_ownLength : Affordable ownLength where
  certificate _ _ := Nat.le_refl _
  record version held := by
    obtain ⟨name, time, content⟩ := held
    rw [Record.items, Record.length_bytes, List.map_append, List.map_map, List.sum_append]
    cases content with
    | key wrapped chain =>
      simp only [Content.certificates, Content.bytes, Function.comp_def, ownLength,
        List.map_singleton,
        List.sum_singleton, List.length_append, length_counted, Bytes.length_bigEndian,
        List.length_flatMap]
      omega
    | trusted held =>
      simp only [Content.certificates, Content.bytes, Function.comp_def, ownLength,
        List.map_singleton,
        List.sum_singleton]
      omega

/-- A record takes eighteen bytes besides those of a chain. -/
theorem affordable_records : Affordable fun item => if item.isRecord then 18 else 0 where
  certificate _ _ := Nat.zero_le _
  record version held := by
    have hcertificates : ((held.content.certificates.map (certificate version)).map
        fun item => if item.isRecord then 18 else 0).sum = 0 := by
      simp [isRecord, Function.comp_def]
    rw [Record.items, List.map_append, List.sum_append, hcertificates, Nat.zero_add]
    exact (record version held).least_le

end Item

theorem total_records (built : List Built) :
    total (fun item => if item.isRecord then 18 else 0) built =
      18 * built.countP fun thing => thing.item.isRecord := by
  induction built with
  | nil => rfl
  | cons thing rest ih =>
    simp only [total, List.map_cons, List.sum_cons, List.countP_cons] at ih ⊢
    rw [ih]
    split <;> omega

namespace Request.Path

variable {limit start stop : Nat} {requests : List Request}

theorem of_mem (path : Path limit start requests stop) :
    ∀ request ∈ requests, start ≤ request.start ∧ request.stop ≤ stop ∧
      (request.met ↔ request.start + request.count ≤ limit) := by
  induction requests generalizing start with
  | nil => simp
  | cons first rest ih =>
    obtain ⟨rfl, hmet, hrest⟩ := path
    intro request hrequest
    rcases List.mem_cons.1 hrequest with rfl | hrequest
    · exact ⟨Nat.le_refl _, hrest.le, hmet⟩
    · obtain ⟨hstart, hstop, hmet⟩ := ih hrest request hrequest
      exact ⟨first.start_le_stop.trans hstart, hstop, hmet⟩

theorem pairwise (path : Path limit start requests stop) :
    requests.Pairwise fun earlier later => earlier.stop ≤ later.start := by
  induction requests generalizing start with
  | nil => exact .nil
  | cons first rest ih =>
    obtain ⟨rfl, -, hrest⟩ := path
    exact .cons (fun later hlater => (hrest.of_mem later hlater).1) (ih hrest)

end Request.Path

/-- A reader that has stayed within a body of so many bytes. -/
structure Reader.Within (limit : Nat) (reader : Reader) : Prop where
  /-- Each request begins where the one before it stopped, the first one at the beginning. -/
  path : Request.Path limit 0 reader.requests reader.position
  position : reader.position ≤ limit
  /-- No request stops outside, and it is met exactly if what it asks for is there. -/
  requests : ∀ request ∈ reader.requests, request.stop ≤ limit ∧
    (request.met ↔ request.start + request.count ≤ limit)
  forward : reader.requests.Pairwise fun earlier later => earlier.stop ≤ later.start
  /-- Whatever was built took its own bytes, which are as many as its kind needs. -/
  built : ∀ thing ∈ reader.built, thing.stop = thing.start + thing.item.bytes.length ∧
    thing.start + thing.item.least ≤ thing.stop ∧ thing.stop ≤ reader.position

theorem Reader.Within.start (limit : Nat) : Reader.start.Within limit where
  path := rfl
  position := Nat.zero_le limit
  requests := by simp [Reader.start]
  forward := .nil
  built := by simp [Reader.start]

theorem Reader.Moves.within_of_start {body : Bytes} {cost : Item → Nat} {reader : Reader}
    (moves : Reader.start.Moves body cost reader) : reader.Within body.length := by
  obtain ⟨requests, hrequests, hpath⟩ := moves.requests
  obtain ⟨built, hbuilt, hsound⟩ := moves.built
  obtain rfl : reader.requests = requests := hrequests
  obtain rfl : reader.built = built := hbuilt
  have hposition : reader.position ≤ body.length := moves.within (Nat.zero_le _)
  refine ⟨hpath, hposition, fun request hrequest => ?_, hpath.pairwise, fun thing hthing => ?_⟩
  · obtain ⟨-, hstop, hmet⟩ := hpath.of_mem request hrequest
    exact ⟨hstop.trans hposition, hmet⟩
  · obtain ⟨hstop, hpassed⟩ := hsound thing hthing
    exact ⟨hstop, hstop ▸ Nat.add_le_add_left thing.item.least_le _, hpassed⟩

/-- Reading by positions finds the contents of a body. -/
theorem Reading.outcome_contents (body : Bytes) :
    ((contents body).runOn Reader.start).1 = readContents body := by
  have hrun := (tracks_contents Item.affordable_ownLength Reader.start (Nat.zero_le body.length)).1
  rw [readContents]
  exact (congrArg Prod.fst hrun).symm

/-- A file is read as its body is, and what follows the body moves no reader. -/
theorem Reading.decode_of_cut {file body closing : Bytes} (hcut : cut file = .ok (body, closing))
    (password : Bytes) : Reading.decode file password =
      (Keystore.decode file password, ((contents body).runOn Reader.start).2) := by
  rw [Reading.decode, Keystore.decode, decodeContents, hcut]
  dsimp only [bind, Except.bind]
  rw [outcome_contents]
  refine Prod.ext ?_ rfl
  cases readContents body with
  | error defect => rfl
  | ok contents =>
    cases passwordText password with
    | error defect => rfl
    | ok text =>
      dsimp only
      split <;> rfl

/-- The log of a reader is complete: what is read of a file was built, the certificates of a record
before it. -/
theorem Reading.built_of_decode {file password : Bytes} {contents : Contents}
    (h : decodeContents file password = .ok contents) :
    (Reading.decode file password).2.built.map Built.item =
      contents.records.flatMap fun record => record.items contents.version := by
  simp only [decodeContents, bind_eq_ok_iff, Prod.exists] at h
  obtain ⟨body, closing, hcut, found, hfound, text, -, h⟩ := h
  obtain rfl : found = contents := by
    split at h <;> cases h
    rfl
  have hrun : (Reading.contents body).runOn Reader.start =
      (.ok found, ((Reading.contents body).runOn Reader.start).2) :=
    Prod.ext ((outcome_contents body).trans hfound) rfl
  rw [decode_of_cut hcut]
  exact builds_contents _ _ _ hrun

/-- A reader goes through any file by requests of which each begins where the one before it stopped,
a failed one at its own beginning, and none stops outside the body. It builds certificates and
records only from bytes it has passed: at most one record for each eighteen bytes behind the header,
whatever count and lengths the file claims, and all in all no more than these bytes, also where
reading fails. -/
theorem reading_stays_within_the_body (file password : Bytes) :
    let (outcome, reader) := Reading.decode file password
    outcome = decode file password ∧ reader.Within (file.length - digestLength) ∧
      reader.built.countP (fun thing => thing.item.isRecord) ≤ (file.length - 32) / 18 ∧
      total Item.ownLength reader.built ≤ file.length - 32 ∧
      ∀ contents, decodeContents file password = .ok contents → reader.built.map Built.item =
        contents.records.flatMap fun record => record.items contents.version := by
  have hcomplete := @Reading.built_of_decode file password
  by_cases hshort : file.length < digestLength
  · have hcut : cut file = .error .truncated := if_pos hshort
    have hdecode : Reading.decode file password = (decode file password, Reader.start) := by
      rw [Reading.decode, decode, decodeContents, hcut]
      rfl
    rw [hdecode] at hcomplete ⊢
    exact ⟨rfl, .start _, Nat.zero_le _, Nat.zero_le _, @hcomplete⟩
  · have hcut : cut file = .ok (file.take (file.length - digestLength),
        file.drop (file.length - digestLength)) := if_neg hshort
    have hlength : (file.take (file.length - digestLength)).length =
        file.length - digestLength := by
      rw [List.length_take]
      omega
    rw [Reading.decode_of_cut hcut] at hcomplete ⊢
    generalize file.take (file.length - digestLength) = body at hcomplete hlength ⊢
    have hwithin := (Reading.tracks_contents Item.affordable_ownLength Reader.start
      (Nat.zero_le body.length)).2.within_of_start
    have hposition := hwithin.position
    have hrecords := Reading.total_contents_le Item.affordable_records body
    have hown := Reading.total_contents_le Item.affordable_ownLength body
    have hdigest : digestLength = 20 := rfl
    rw [total_records] at hrecords
    exact ⟨rfl, hlength ▸ hwithin, by omega, by omega, @hcomplete⟩

/-- A count of 4294967295 records is not believed: the first one is missing already. -/
example :
    (Reading.contents [0xfe, 0xed, 0xfe, 0xed, 0, 0, 0, 2, 0xff, 0xff, 0xff, 0xff]).runOn
        Reader.start =
    (.error .truncated, ⟨12, [⟨0, 4, true⟩, ⟨4, 4, true⟩, ⟨8, 4, true⟩, ⟨12, 4, false⟩], []⟩) := by
  rfl

end CredentialWatch.Keystore
