import CredentialWatch.Keystore.Reader
import CredentialWatch.Proofs.KeystoreScan

/-!
# What a stretch of reading comes to

A reader does what the scans do with the bytes behind its position. It only moves forward, by
requests that are met, and whatever it builds is paid for by the bytes it has passed. Each reading
of a part has this from those of its parts, whether they end or fail.
-/
namespace CredentialWatch.Keystore

/-- Requests of which each begins where the one before it stopped, from a position to another one. A
request is met if what it asks for ends within the limit. -/
def Request.Path (limit : Nat) : Nat → List Request → Nat → Prop
  | start, [], stop => start = stop
  | start, request :: rest, stop =>
    request.start = start ∧ (request.met ↔ start + request.count ≤ limit) ∧
      Path limit request.stop rest stop

theorem Request.start_le_stop (request : Request) : request.start ≤ request.stop := by
  rw [stop]
  split <;> omega

namespace Request.Path

variable {limit start middle stop : Nat} {requests others : List Request}

theorem append (first : Path limit start requests middle) (second : Path limit middle others stop) :
    Path limit start (requests ++ others) stop := by
  induction requests generalizing start with
  | nil =>
    obtain rfl : start = middle := first
    exact second
  | cons request rest ih =>
    obtain ⟨hstart, hmet, hrest⟩ := first
    exact ⟨hstart, hmet, ih hrest⟩

theorem le (path : Path limit start requests stop) : start ≤ stop := by
  induction requests generalizing start with
  | nil => exact Nat.le_of_eq path
  | cons request rest ih =>
    obtain ⟨rfl, -, hrest⟩ := path
    exact request.start_le_stop.trans (ih hrest)

theorem within (path : Path limit start requests stop) (h : start ≤ limit) : stop ≤ limit := by
  induction requests generalizing start with
  | nil => exact path ▸ h
  | cons request rest ih =>
    obtain ⟨rfl, hmet, hrest⟩ := path
    refine ih hrest ?_
    rw [Request.stop]
    split
    · next h => exact hmet.1 h
    · exact h

end Request.Path

namespace Reading

variable {α β : Type} {body : Bytes}

theorem runOn_bind (reading : Reading α) (next : α → Reading β) (reader : Reader) :
    (reading >>= next).runOn reader =
      match reading.runOn reader with
      | (.ok value, later) => (next value).runOn later
      | (.error defect, later) => (.error defect, later) := by
  simp only [runOn, ExceptT.run_bind, StateT.run_bind]
  obtain ⟨outcome, later⟩ := StateT.run (ExceptT.run reading) reader
  cases outcome <;> rfl

theorem bind_runOn_iff {reading : Reading α} {next : α → Reading β} {reader later : Reader}
    {last : β} :
    (reading >>= next).runOn reader = (.ok last, later) ↔
      ∃ value middle, reading.runOn reader = (.ok value, middle) ∧
        (next value).runOn middle = (.ok last, later) := by
  rw [runOn_bind]
  obtain ⟨outcome, middle⟩ := reading.runOn reader
  cases outcome with
  | ok value => simp
  | error defect => simp

@[simp] theorem runOn_pure (value : α) (reader : Reader) :
    (pure value : Reading α).runOn reader = (.ok value, reader) := rfl

theorem runOn_take (count : Nat) (reader : Reader) :
    (take body count).runOn reader = reader.take body count := rfl

theorem runOn_noting (item : α → Item) (reading : Reading α) (reader : Reader) :
    (noting item reading).runOn reader =
      match reading.runOn reader with
      | (.ok value, later) => (.ok value, later.note (item value) reader.position)
      | (.error defect, later) => (.error defect, later) := by
  have hget : (noting item reading).runOn reader =
      (do
        let value ← reading
        modify (Reader.note (item value) reader.position)
        return value : Reading α).runOn reader := rfl
  rw [hget, runOn_bind]
  obtain ⟨outcome, later⟩ := reading.runOn reader
  cases outcome <;> rfl

end Reading

/-- A price for items that their bytes can pay: a record pays for itself and for its
certificates. -/
structure Item.Affordable (cost : Item → Nat) : Prop where
  certificate : ∀ version held,
    cost (.certificate version held) ≤ (certificate version held).bytes.length
  record : ∀ version (held : Record),
    ((held.items version).map cost).sum ≤ (held.bytes version).length

/-- What has been built costs in all. -/
def total (cost : Item → Nat) (built : List Built) : Nat :=
  (built.map fun thing => cost thing.item).sum

theorem total_eq (cost : Item → Nat) (built : List Built) :
    total cost built = ((built.map Built.item).map cost).sum := by
  rw [total, List.map_map]
  rfl

theorem total_concat (cost : Item → Nat) (built : List Built) (thing : Built) :
    total cost (built ++ [thing]) = total cost built + cost thing.item := by
  simp [total]

/-- An item that was built from exactly the bytes that the reader passed. -/
def Built.Sound (thing : Built) : Prop :=
  thing.stop = thing.start + thing.item.bytes.length

/-- What a stretch of reading comes to, whether it ends or fails. -/
structure Reader.Moves (body : Bytes) (cost : Item → Nat) (reader later : Reader) : Prop where
  requests : ∃ made, later.requests = reader.requests ++ made ∧
    Request.Path body.length reader.position made later.position
  built : ∃ made, later.built = reader.built ++ made ∧
    ∀ thing ∈ made, thing.Sound ∧ thing.stop ≤ later.position
  paid : total cost later.built + reader.position ≤ total cost reader.built + later.position

namespace Reader.Moves

variable {body : Bytes} {cost : Item → Nat} {reader middle later : Reader}

theorem refl (reader : Reader) : reader.Moves body cost reader where
  requests := ⟨[], by simp, rfl⟩
  built := ⟨[], by simp, by simp⟩
  paid := Nat.le_refl _

theorem le (moves : reader.Moves body cost later) : reader.position ≤ later.position := by
  obtain ⟨made, -, hpath⟩ := moves.requests
  exact hpath.le

theorem within (moves : reader.Moves body cost later) (h : reader.position ≤ body.length) :
    later.position ≤ body.length := by
  obtain ⟨made, -, hpath⟩ := moves.requests
  exact hpath.within h

theorem trans (first : reader.Moves body cost middle) (second : middle.Moves body cost later) :
    reader.Moves body cost later := by
  obtain ⟨requests, hrequests, hpath⟩ := first.requests
  obtain ⟨requests', hrequests', hpath'⟩ := second.requests
  obtain ⟨built, hbuilt, hsound⟩ := first.built
  obtain ⟨built', hbuilt', hsound'⟩ := second.built
  have hpaid := first.paid
  have hpaid' := second.paid
  refine ⟨⟨requests ++ requests', ?_, hpath.append hpath'⟩, ⟨built ++ built', ?_, ?_⟩, by omega⟩
  · rw [hrequests', hrequests, List.append_assoc]
  · rw [hbuilt', hbuilt, List.append_assoc]
  · intro thing hthing
    rcases List.mem_append.1 hthing with h | h
    · exact ⟨(hsound thing h).1, (hsound thing h).2.trans second.le⟩
    · exact hsound' thing h

end Reader.Moves

namespace Reading

section Tracking

variable {α β : Type} {body : Bytes} {cost : Item → Nat}

/-- A reading that does what a scan does with the bytes behind its position, and moves its
reader. -/
def Tracks (body : Bytes) (cost : Item → Nat) (reading : Reading α) (scan : Scan α) : Prop :=
  ∀ reader : Reader, reader.position ≤ body.length →
    scan.runOn (body.drop reader.position) =
        ((reading.runOn reader).1, body.drop (reading.runOn reader).2.position) ∧
      reader.Moves body cost (reading.runOn reader).2

theorem Tracks.bind {reading : Reading α} {scan : Scan α} {next : α → Reading β}
    {follow : α → Scan β} (first : Tracks body cost reading scan)
    (second : ∀ value, Tracks body cost (next value) (follow value)) :
    Tracks body cost (reading >>= next) (scan >>= follow) := by
  intro reader hwithin
  obtain ⟨hrun, hmoves⟩ := first reader hwithin
  rw [runOn_bind, Scan.runOn_bind, hrun]
  generalize reading.runOn reader = result at hmoves
  obtain ⟨outcome, later⟩ := result
  cases outcome with
  | error defect => exact ⟨rfl, hmoves⟩
  | ok value =>
    obtain ⟨hrun', hmoves'⟩ := second value later (hmoves.within hwithin)
    exact ⟨hrun', hmoves.trans hmoves'⟩

theorem tracks_pure (value : α) : Tracks body cost (pure value) (pure value) :=
  fun reader _ => ⟨rfl, .refl reader⟩

theorem tracks_throw (defect : Defect) :
    Tracks body cost (throw defect : Reading α) (throw defect) :=
  fun reader _ => ⟨rfl, .refl reader⟩

theorem Tracks.map {reading : Reading α} {scan : Scan α} (tracks : Tracks body cost reading scan)
    (image : α → β) : Tracks body cost (image <$> reading) (image <$> scan) := by
  rw [map_eq_pure_bind, map_eq_pure_bind]
  exact tracks.bind fun value => tracks_pure (image value)

/-- A reading may look at its position where the scan looks at what is left. -/
theorem tracks_get {next : Reader → Reading α} {follow : Bytes → Scan α}
    (h : ∀ reader : Reader, reader.position ≤ body.length →
      Tracks body cost (next reader) (follow (body.drop reader.position))) :
    Tracks body cost (get >>= next) (get >>= follow) :=
  fun reader hwithin => h reader hwithin reader hwithin

theorem tracks_expect (condition : Bool) (defect : Defect) :
    Tracks body cost (expect condition defect) (Scan.expect condition defect) := by
  cases condition with
  | false => exact tracks_throw defect
  | true => exact tracks_pure ()

theorem tracks_take (count : Nat) : Tracks body cost (take body count) (Scan.take count) := by
  intro reader hwithin
  rw [runOn_take, Scan.runOn_take, Reader.take, Bytes.split?]
  have hleft : ((body.drop reader.position).take count).length = count ↔
      reader.position + count ≤ body.length := by
    rw [List.length_take, List.length_drop]
    omega
  by_cases hmet : reader.position + count ≤ body.length
  · rw [if_pos hmet, if_pos (hleft.2 hmet)]
    refine ⟨by rw [List.drop_drop], ⟨_, rfl, rfl, by simp [hmet], rfl⟩, ⟨[], by simp, by simp⟩, ?_⟩
    exact Nat.add_le_add_left (Nat.le_add_right _ _) _
  · rw [if_neg hmet, if_neg (mt hleft.1 hmet)]
    exact ⟨rfl, ⟨_, rfl, rfl, by simp [hmet], rfl⟩, ⟨[], by simp, by simp⟩, Nat.le_refl _⟩

theorem tracks_number (width : Nat) : Tracks body cost (number body width) (Scan.number width) :=
  (tracks_take width).map Bytes.value

theorem tracks_counted (width : Nat) : Tracks body cost (counted body width) (Scan.counted width) :=
  (tracks_number width).bind tracks_take

theorem tracks_text : Tracks body cost (text body) Scan.text :=
  (tracks_counted 2).map Text.Utf8.lossy

theorem Tracks.many {item : Reading α} {scan : Scan α} (tracks : Tracks body cost item scan)
    (count : Nat) : Tracks body cost (many item count) (Scan.many scan count) := by
  induction count with
  | zero => exact tracks_pure []
  | succ count ih =>
    exact tracks.bind fun first => ih.bind fun others => tracks_pure (first :: others)

/-- What is read of a layout can be noted if its bytes pay for it and for what was noted on the
way. -/
theorem Tracks.noting {reading : Reading α} {scan : Scan α} (tracks : Tracks body cost reading scan)
    {layout : α → Bytes} {fits : α → Prop} (reads : Scan.Reads scan layout fits)
    {item : α → Item} (hlayout : ∀ value, (item value).bytes = layout value)
    (hpaid : ∀ reader value later, reading.runOn reader = (.ok value, later) →
      total cost later.built + cost (item value) ≤
        total cost reader.built + (item value).bytes.length) :
    Tracks body cost (noting item reading) scan := by
  intro reader hwithin
  obtain ⟨hrun, hmoves⟩ := tracks reader hwithin
  rw [runOn_noting, hrun]
  have hcost := hpaid reader
  generalize reading.runOn reader = result at hmoves hrun hcost
  obtain ⟨outcome, later⟩ := result
  cases outcome with
  | error defect => exact ⟨rfl, hmoves⟩
  | ok value =>
    have hread : scan.runOn (body.drop reader.position) =
        (.ok value, body.drop later.position) := hrun
    obtain ⟨hbytes, -⟩ := (reads _ _ _).1 hread
    have hwithin' : later.position ≤ body.length := hmoves.within hwithin
    have hstop : later.position = reader.position + (item value).bytes.length := by
      have hlength := congrArg List.length hbytes
      rw [List.length_append, List.length_drop, List.length_drop, ← hlayout] at hlength
      omega
    obtain ⟨made, hmade, hsound⟩ := hmoves.built
    have hcost := hcost value later rfl
    refine ⟨rfl, hmoves.requests,
      ⟨made ++ [⟨item value, reader.position, later.position⟩], ?_, ?_⟩, ?_⟩
    · rw [Reader.built_note, hmade, List.append_assoc]
    · intro thing hthing
      rcases List.mem_append.1 hthing with h | h
      · exact hsound thing h
      · obtain rfl := List.mem_singleton.1 h
        exact ⟨hstop, Nat.le_refl _⟩
    · have hposition : (later.note (item value) reader.position).position = later.position := rfl
      rw [Reader.built_note, total_concat, hposition]
      dsimp only
      omega

theorem tracks_version : Tracks body cost (version body) Scan.version := by
  refine (tracks_number 4).bind fun number => ?_
  split
  · exact tracks_pure Version.one
  · split
    · exact tracks_pure Version.two
    · exact tracks_throw (.version number)

theorem tracks_header : Tracks body cost (header body) (do
    Scan.expect ((← Scan.number 4) = magic) .notKeystore
    let version ← Scan.version
    let count ← Scan.number 4
    pure (version, count)) :=
  (tracks_number 4).bind fun _ => (tracks_expect _ _).bind fun _ =>
    tracks_version.bind fun version => (tracks_number 4).bind fun count =>
      tracks_pure (version, count)

end Tracking

section Header

variable {body : Bytes} {reader later : Reader}

theorem position_number {width number : Nat}
    (h : (Reading.number body width).runOn reader = (.ok number, later)) :
    later.position = reader.position + width := by
  rw [Reading.number, map_eq_pure_bind, bind_runOn_iff] at h
  obtain ⟨field, middle, hfield, h⟩ := h
  cases h
  rw [runOn_take, Reader.take] at hfield
  split at hfield
  · cases hfield
    rfl
  · cases hfield

theorem eq_of_expect {condition : Bool} {defect : Defect} {done : Unit}
    (h : (expect condition defect).runOn reader = (.ok done, later)) : later = reader := by
  cases condition <;> cases h
  rfl

/-- The header takes twelve bytes. -/
theorem position_header {head : Version × Nat}
    (h : (header body).runOn reader = (.ok head, later)) :
    later.position = reader.position + 12 := by
  simp only [header, Reading.version, bind_runOn_iff, runOn_pure] at h
  obtain ⟨mark, first, hmark, done, second, hdone, version, third,
    ⟨number, fourth, hnumber, hversion⟩,
    count, fifth, hcount, h⟩ := h
  cases h
  have hthird : third.position = fourth.position := by
    split at hversion
    · cases hversion
      rfl
    · split at hversion <;> cases hversion
      rfl
  have hmark := position_number hmark
  have hdone := congrArg Reader.position (eq_of_expect hdone)
  have hnumber := position_number hnumber
  have hcount := position_number hcount
  omega

end Header

section Building

variable {α β : Type} {body : Bytes} {reader later : Reader}

/-- A reading that builds nothing, whether it ends or fails. -/
def Quiet (reading : Reading α) : Prop :=
  ∀ reader : Reader, (reading.runOn reader).2.built = reader.built

theorem Quiet.bind {reading : Reading α} {next : α → Reading β} (first : Quiet reading)
    (second : ∀ value, Quiet (next value)) : Quiet (reading >>= next) := by
  intro reader
  have hfirst := first reader
  rw [runOn_bind]
  generalize reading.runOn reader = result at hfirst
  obtain ⟨outcome, later⟩ := result
  cases outcome with
  | error defect => exact hfirst
  | ok value => exact (second value later).trans hfirst

theorem quiet_pure (value : α) : Quiet (pure value) := fun _ => rfl

theorem quiet_throw (defect : Defect) : Quiet (throw defect : Reading α) := fun _ => rfl

theorem Quiet.map {reading : Reading α} (quiet : Quiet reading) (image : α → β) :
    Quiet (image <$> reading) := by
  rw [map_eq_pure_bind]
  exact quiet.bind fun value => quiet_pure (image value)

theorem quiet_expect (condition : Bool) (defect : Defect) : Quiet (expect condition defect) := by
  cases condition with
  | false => exact quiet_throw defect
  | true => exact quiet_pure ()

theorem quiet_take (count : Nat) : Quiet (take body count) := by
  intro reader
  rw [runOn_take, Reader.take]
  split <;> rfl

theorem quiet_number (width : Nat) : Quiet (number body width) :=
  (quiet_take width).map Bytes.value

theorem quiet_counted (width : Nat) : Quiet (counted body width) :=
  (quiet_number width).bind quiet_take

theorem quiet_text : Quiet (text body) :=
  (quiet_counted 2).map Text.Utf8.lossy

theorem quiet_certificateBy (version : Version) : Quiet (certificateBy body version) := by
  cases version with
  | one => exact quiet_counted 4
  | two => exact quiet_text.bind fun name => (quiet_expect _ _).bind fun _ => quiet_counted 4

theorem quiet_version : Quiet (version body) := by
  refine (quiet_number 4).bind fun number => ?_
  split
  · exact quiet_pure Version.one
  · split
    · exact quiet_pure Version.two
    · exact quiet_throw (.version number)

theorem quiet_header : Quiet (header body) :=
  (quiet_number 4).bind fun _ => (quiet_expect _ _).bind fun _ => quiet_version.bind fun version =>
    (quiet_number 4).bind fun count => quiet_pure (version, count)

/-- What a reading that ends has built, told by what it gives. -/
def Builds (reading : Reading α) (items : α → List Item) : Prop :=
  ∀ (reader : Reader) (value : α) (later : Reader), reading.runOn reader = (.ok value, later) →
    later.built.map Built.item = reader.built.map Built.item ++ items value

theorem Quiet.builds {reading : Reading α} (quiet : Quiet reading) :
    Builds reading fun _ => [] := by
  intro reader value later h
  have hbuilt := quiet reader
  rw [h] at hbuilt
  rw [hbuilt, List.append_nil]

theorem Builds.many {item : Reading α} {items : α → List Item} (builds : Builds item items)
    (count : Nat) : Builds (many item count) (List.flatMap items) := by
  induction count with
  | zero =>
    rintro reader _ _ ⟨⟩
    simp
  | succ count ih =>
    intro reader values later h
    simp only [Reading.many, bind_runOn_iff, runOn_pure] at h
    obtain ⟨first, middle, hfirst, others, last, hothers, h⟩ := h
    cases h
    rw [ih _ _ _ hothers, builds _ _ _ hfirst, List.append_assoc, List.flatMap_cons]

theorem Builds.noting {reading : Reading α} {items : α → List Item} (builds : Builds reading items)
    (item : α → Item) : Builds (noting item reading) fun value => items value ++ [item value] := by
  intro reader value later h
  have hbuilt := builds reader
  rw [runOn_noting] at h
  generalize reading.runOn reader = result at h hbuilt
  obtain ⟨outcome, middle⟩ := result
  cases outcome with
  | error defect => cases h
  | ok read =>
    cases h
    rw [Reader.built_note, List.map_append, hbuilt _ _ rfl, List.append_assoc]
    rfl

theorem builds_certificate (version : Version) :
    Builds (certificate body version) fun held => [.certificate version held] :=
  (quiet_certificateBy version).builds.noting (.certificate version)

theorem builds_content (version : Version) (tag : Nat) :
    Builds (content body version tag) fun content =>
      content.certificates.map (.certificate version) := by
  intro reader value later h
  rw [content] at h
  split at h
  · simp only [bind_runOn_iff, runOn_pure] at h
    obtain ⟨wrapped, first, hwrapped, count, second, hcount, chain, third, hchain, h⟩ := h
    cases h
    rw [(builds_certificate version).many _ _ _ _ hchain, (quiet_number 4).builds _ _ _ hcount,
      (quiet_counted 4).builds _ _ _ hwrapped, List.append_nil, List.append_nil,
      ← List.map_eq_flatMap]
    rfl
  · split at h
    · simp only [bind_runOn_iff, runOn_pure] at h
      obtain ⟨held, middle, hheld, h⟩ := h
      cases h
      exact builds_certificate version _ _ _ hheld
    · cases h

theorem builds_fields (version : Version) : Builds (fields body version) fun record =>
    record.content.certificates.map (.certificate version) := by
  intro reader value later h
  simp only [fields, bind_runOn_iff, runOn_pure] at h
  obtain ⟨tag, first, htag, name, second, hname, time, third, htime, content, fourth,
    hcontent, h⟩ := h
  cases h
  rw [builds_content version tag _ _ _ hcontent, (quiet_number 8).builds _ _ _ htime,
    (quiet_counted 2).builds _ _ _ hname, (quiet_number 4).builds _ _ _ htag]
  simp

theorem builds_record (version : Version) :
    Builds (record body version) fun record => record.items version :=
  (builds_fields version).noting (.record version)

theorem builds_records (version : Version) (count : Nat) :
    Builds (records body version count) fun contents =>
      contents.records.flatMap fun record => record.items contents.version := by
  intro reader value later h
  simp only [records, bind_runOn_iff, runOn_pure] at h
  obtain ⟨held, first, hheld, second, third, hget, done, fourth, hdone, h⟩ := h
  cases h
  cases hget
  rw [eq_of_expect hdone, (builds_record version).many _ _ _ _ hheld]

theorem builds_contents : Builds (contents body) fun contents =>
    contents.records.flatMap fun record => record.items contents.version := by
  intro reader value later h
  rw [contents, bind_runOn_iff] at h
  obtain ⟨head, middle, hhead, h⟩ := h
  rw [builds_records _ _ _ _ _ h, quiet_header.builds _ _ _ hhead, List.append_nil]

end Building

section Records

variable {body : Bytes} {cost : Item → Nat} (affordable : Item.Affordable cost)
include affordable

theorem tracks_certificate (version : Version) :
    Tracks body cost (certificate body version) (Scan.certificate version) := by
  have htracks : Tracks body cost (certificateBy body version) (Scan.certificate version) := by
    cases version with
    | one => exact tracks_counted 4
    | two =>
      exact tracks_text.bind fun name => (tracks_expect _ _).bind fun _ => tracks_counted 4
  refine htracks.noting (Scan.reads_certificate version) (fun _ => rfl)
    fun reader held later h => ?_
  have hquiet : Quiet (certificateBy body version) := quiet_certificateBy version
  have hbuilt := hquiet reader
  rw [h] at hbuilt
  rw [hbuilt]
  exact Nat.add_le_add_left (affordable.certificate version held) _

theorem tracks_content (version : Version) (tag : Nat) :
    Tracks body cost (content body version tag) (Scan.content version tag) := by
  rw [content, Scan.content]
  split
  · exact (tracks_counted 4).bind fun wrapped => (tracks_number 4).bind fun count =>
      ((tracks_certificate affordable version).many count).bind fun chain => tracks_pure _
  · split
    · exact (tracks_certificate affordable version).bind fun held => tracks_pure _
    · exact tracks_throw _

theorem tracks_record (version : Version) :
    Tracks body cost (record body version) (Scan.record version) := by
  have htracks : Tracks body cost (fields body version) (Scan.record version) :=
    (tracks_number 4).bind fun tag => (tracks_counted 2).bind fun name =>
      (tracks_number 8).bind fun time => (tracks_content affordable version tag).bind fun content =>
        tracks_pure _
  refine htracks.noting (Scan.reads_record version) (fun _ => rfl) fun reader held later h => ?_
  have hbuilt := builds_fields version reader held later h
  have hpaid : ((held.items version).map cost).sum ≤ (held.bytes version).length :=
    affordable.record version held
  rw [Record.items, List.map_append, List.sum_append, List.map_singleton,
    List.sum_singleton] at hpaid
  rw [total_eq, hbuilt, List.map_append, List.sum_append, ← total_eq]
  dsimp only [Item.bytes]
  omega

theorem tracks_records (version : Version) (count : Nat) :
    Tracks body cost (records body version count) (do
      let records ← Scan.many (Scan.record version) count
      Scan.expect (← get).isEmpty .trailing
      return ⟨version, records⟩) := by
  refine ((tracks_record affordable version).many count).bind fun records => ?_
  refine tracks_get fun reader hwithin => ?_
  have hend : (body.drop reader.position).isEmpty = decide (reader.position = body.length) := by
    rw [Bool.eq_iff_iff, List.isEmpty_iff, List.drop_eq_nil_iff, decide_eq_true_iff]
    omega
  rw [hend]
  exact (tracks_expect _ _).bind fun _ => tracks_pure _

theorem tracks_contents : Tracks body cost (contents body) Scan.contents := by
  have hscan : Scan.contents = (do
      Scan.expect ((← Scan.number 4) = magic) .notKeystore
      let version ← Scan.version
      let count ← Scan.number 4
      pure (version, count)) >>= fun head => (do
        let records ← Scan.many (Scan.record head.1) head.2
        Scan.expect (← get).isEmpty .trailing
        return ⟨head.1, records⟩) := by
    simp [Scan.contents]
  rw [hscan]
  exact tracks_header.bind fun head => tracks_records affordable head.1 head.2

/-- What is built is paid for by what the reader has passed behind the header. -/
theorem total_contents_le (body : Bytes) :
    total cost ((contents body).runOn Reader.start).2.built ≤
      ((contents body).runOn Reader.start).2.position - 12 := by
  have hquiet : ((header body).runOn Reader.start).2.built = [] := quiet_header Reader.start
  have hmoves : Reader.start.Moves body cost ((header body).runOn Reader.start).2 :=
    (tracks_header Reader.start (Nat.zero_le body.length)).2
  have hend : ∀ head later, (header body).runOn Reader.start = (.ok head, later) →
      later.position = 12 := fun head later h => by
    simpa [Reader.start] using position_header h
  rw [contents, runOn_bind]
  generalize (header body).runOn Reader.start = result at hquiet hend hmoves
  obtain ⟨outcome, middle⟩ := result
  replace hquiet : middle.built = [] := hquiet
  cases outcome with
  | error defect => simp [hquiet, total]
  | ok head =>
    have hposition := hend head middle rfl
    have hwithin := hmoves.within (Nat.zero_le body.length)
    have hpaid := (tracks_records affordable head.1 head.2 middle hwithin).2.paid
    rw [hquiet, hposition] at hpaid
    simp only [total, List.map_nil, List.sum_nil] at hpaid ⊢
    omega

end Records

end Reading

end CredentialWatch.Keystore
