import CredentialWatch.Configuration.Hashing
import CredentialWatch.Outcome
import CredentialWatch.Proofs.Utf8

/-!
# Spellings of a path

Paths with the same components differ only in pieces that do not count: empty ones, and dots behind
a slash. So they feed the same chunks to a hasher. A walk passes over such a piece if it stands in a
directory and fails there else; so of two walks along paths with the same components either one
fails, or both take the same way.
-/
namespace CredentialWatch

namespace Path

/-- Whether a piece of a path leads anywhere. -/
def counts (piece : String) : Bool :=
  piece != "" && piece != "."

/-- The pieces that lead somewhere. -/
def strip (pieces : List String) : List String :=
  pieces.filter counts

/-- The piece that a component is written as. -/
def piece : Component → String
  | .root => ""
  | .current => "."
  | .parent => ".."
  | .name name => name

section Pieces

variable {pieces : List String}

@[simp] theorem strip_append (left right : List String) :
    strip (left ++ right) = strip left ++ strip right :=
  List.filter_append ..

theorem strip_cons_of_counts {first : String} (h : counts first) :
    strip (first :: pieces) = first :: strip pieces :=
  List.filter_cons_of_pos h

theorem strip_cons_of_not_counts {first : String} (h : ¬ counts first) :
    strip (first :: pieces) = strip pieces :=
  List.filter_cons_of_neg h

theorem counts_iff {text : String} : counts text ↔ ¬ (text = "" ∨ text = ".") := by
  simp [counts]

theorem component?_eq_none_iff {text : String} : component? text = none ↔ ¬ counts text := by
  rw [counts_iff, not_not]
  unfold component?
  split
  · simpa
  · split <;> simp [‹¬ (text = "" ∨ text = ".")›]

theorem piece_of_component? {text : String} {component : Component}
    (h : component? text = some component) : piece component = text := by
  unfold component? at h
  split at h
  · cases h
  split at h
  · cases h
    exact (‹text = ".."›).symm
  · cases h
    rfl

/-- The components of pieces determine the pieces that count. -/
theorem map_piece_components : (pieces.filterMap component?).map piece = strip pieces := by
  induction pieces with
  | nil => rfl
  | cons first rest ih =>
    cases hcomponent : component? first with
    | none =>
      rw [List.filterMap_cons_none hcomponent, ih,
        strip_cons_of_not_counts (component?_eq_none_iff.1 hcomponent)]
    | some component =>
      have hcounts : counts first := by
        by_contra h
        rw [component?_eq_none_iff.2 h] at hcomponent
        cases hcomponent
      rw [List.filterMap_cons_some hcomponent, List.map_cons, ih, piece_of_component? hcomponent,
        strip_cons_of_counts hcounts]

theorem mem_components_of_pieces {component : Component}
    (h : component ∈ pieces.filterMap component?) :
    component ≠ .root ∧ component ≠ .current := by
  obtain ⟨text, -, h⟩ := List.mem_filterMap.1 h
  unfold component? at h
  split at h
  · cases h
  · split at h <;> (cases h; simp)

end Pieces

section Splits

/-- The first piece takes all up to the first slash; the others do not depend on what was
gathered. -/
theorem split_go_eq (gathered chars : List Char) :
    split.go gathered chars =
      String.ofList (gathered.reverse ++ chars.takeWhile (· != '/')) ::
        (split.go [] chars).tail := by
  induction chars generalizing gathered with
  | nil => simp [split.go]
  | cons char rest ih =>
    by_cases hslash : char = '/'
    · simp [split.go, hslash]
    · simp only [split.go, if_neg hslash]
      rw [ih (char :: gathered), ih [char]]
      simp [hslash]

theorem split_eq (path : String) :
    split path = String.ofList (path.toList.takeWhile (· != '/')) :: (split path).tail :=
  split_go_eq [] path.toList

theorem split_go_append (gathered front rest : List Char) :
    split.go gathered (front ++ '/' :: rest) = split.go gathered front ++ split.go [] rest := by
  induction front generalizing gathered with
  | nil => simp [split.go]
  | cons char front ih =>
    by_cases hslash : char = '/'
    · simp [split.go, hslash, ih]
    · simp [split.go, hslash, ih]

/-- A slash splits a path in two. -/
theorem split_append (front rest : String) :
    split (front ++ "/" ++ rest) = split front ++ split rest := by
  simpa [split] using split_go_append [] front.toList rest.toList

end Splits

section Components

variable {left right : String}

/-- The component that says where a path starts, if there is one. -/
def start (path : String) : List Component :=
  if isAbsolute path then [.root] else if (split path).head? = some "." then [.current] else []

theorem components_eq (path : String) :
    components path = start path ++ (split path).filterMap component? := rfl

/-- Paths with the same components start alike and have the same pieces that count. -/
theorem components_eq_iff :
    components left = components right ↔
      start left = start right ∧ strip (split left) = strip (split right) := by
  constructor
  · intro h
    have hstart : ∀ path, start path = (components path).filter
        fun component => component = .root ∨ component = .current := by
      intro path
      have hnone : ((split path).filterMap component?).filter
          (fun component => decide (component = .root ∨ component = .current)) = [] := by
        rw [List.filter_eq_nil_iff]
        intro component hmem
        have := mem_components_of_pieces hmem
        simpa using this
      rw [components_eq, List.filter_append, hnone, List.append_nil]
      unfold start
      split
      · rfl
      · split <;> rfl
    have hsame : start left = start right := by rw [hstart, hstart, h]
    rw [components_eq, components_eq, hsame, List.append_cancel_left_eq] at h
    exact ⟨hsame, by rw [← map_piece_components, ← map_piece_components, h]⟩
  · rintro ⟨hstart, hstrip⟩
    have hcomponents : ∀ pieces : List String,
        pieces.filterMap component? = (strip pieces).filterMap component? := by
      intro pieces
      rw [strip, List.filterMap_filter]
      refine List.filterMap_congr fun text _ => ?_
      split
      · rfl
      · exact component?_eq_none_iff.2 ‹_›
    rw [components_eq, components_eq, hstart, hcomponents, hstrip, ← hcomponents]

theorem isAbsolute_iff_start {path : String} : isAbsolute path ↔ start path = [.root] := by
  unfold start
  split
  · simpa
  · split <;> simp_all

theorem isAbsolute_eq_of_components_eq (h : components left = components right) :
    isAbsolute left = isAbsolute right := by
  rw [Bool.eq_iff_iff, isAbsolute_iff_start, isAbsolute_iff_start, (components_eq_iff.1 h).1]

end Components

section Chunks

theorem chunk?_toList (gathered : List Char) :
    (chunk? gathered).toList = [String.ofList gathered.reverse].filter (· != "") := by
  cases gathered with
  | nil => rfl
  | cons char rest => simp [chunk?]

/-- The chunks are the first piece, if it is not empty, and the others that count. Directly behind a
slash the first one must count as well. -/
theorem chunksFrom_eq (chars : List Char) :
    (∀ gathered, chunksFrom false gathered chars =
      [String.ofList (gathered.reverse ++ chars.takeWhile (· != '/'))].filter (· != "") ++
        strip (split.go [] chars).tail) ∧
    chunksFrom true [] chars = strip (split.go [] chars) := by
  induction chars with
  | nil => exact ⟨fun gathered => by simp [chunksFrom, chunk?_toList, split.go, strip], rfl⟩
  | cons char rest ih =>
    obtain ⟨ihInside, ihBehind⟩ := ih
    by_cases hslash : char = '/'
    · subst hslash
      have hempty : strip ("" :: split.go [] rest) = strip (split.go [] rest) :=
        strip_cons_of_not_counts (by decide)
      refine ⟨fun gathered => ?_, ?_⟩
      · simp [chunksFrom, chunk?_toList, ihBehind, split.go]
      · simp [chunksFrom, chunk?, ihBehind, split.go, hempty]
    · have hgo : split.go [] (char :: rest) =
          String.ofList (char :: rest.takeWhile (· != '/')) :: (split.go [] rest).tail := by
        simp only [split.go, if_neg hslash]
        simpa using split_go_eq [char] rest
      refine ⟨fun gathered => ?_, ?_⟩
      · simp only [chunksFrom, if_neg hslash, Bool.false_eq_true, false_and, if_false,
          ihInside, hgo]
        simp [hslash]
      · simp only [chunksFrom, if_neg hslash, true_and, hgo]
        split
        · rename_i hdot
          obtain ⟨rfl, hend⟩ := hdot
          have htake : rest.takeWhile (· != '/') = [] := by
            rcases hend with rfl | hnext
            · rfl
            · obtain ⟨tail, rfl⟩ := List.head?_eq_some_iff.1 hnext
              rfl
          rw [ihInside, htake, strip_cons_of_not_counts (by decide)]
          rfl
        · rename_i hdot
          have hcounts : counts (String.ofList (char :: rest.takeWhile (· != '/'))) := by
            rw [counts_iff]
            rintro (h | h)
            · simp at h
            · obtain ⟨rfl, htake⟩ : char = '.' ∧ rest.takeWhile (· != '/') = [] := by
                simpa using congrArg String.toList h
              refine hdot ⟨rfl, ?_⟩
              cases rest with
              | nil => exact .inl rfl
              | cons next tail =>
                by_cases hnext : next = '/'
                · exact .inr (by simp [hnext])
                · simp [hnext] at htake
          rw [ihInside, strip_cons_of_counts hcounts]
          simp

/-- Only a path that is not absolute can start with a dot. -/
theorem start_eq_current_iff {path : String} :
    start path = [.current] ↔ (split path).head? = some "." := by
  unfold start
  split
  · rename_i habsolute
    obtain ⟨rest, hrest⟩ := List.head?_eq_some_iff.1 (by simpa [isAbsolute] using habsolute)
    rw [split_eq, hrest]
    simp
  · simp

/-- The chunks of a path are its pieces that count, behind the dot that it may start with. -/
theorem chunks_eq (path : String) :
    chunks path = (if start path = [.current] then ["."] else []) ++ strip (split path) := by
  obtain ⟨first, hfirst⟩ : ∃ first, split path = first :: (split path).tail := ⟨_, split_eq path⟩
  have hchunks : chunks path = [first].filter (· != "") ++ strip (split path).tail := by
    have hsplit := (split_eq path).symm.trans hfirst
    rw [← (List.cons.inj hsplit).1]
    exact (chunksFrom_eq path.toList).1 []
  have hstrip : strip (split path) = strip [first] ++ strip (split path).tail := by
    rw [← strip_append, List.singleton_append, ← hfirst]
  have hhead : [first].filter (· != "") = (if first = "." then ["."] else []) ++ strip [first] := by
    by_cases hempty : first = ""
    · simp [hempty, strip, counts]
    · by_cases hdot : first = "."
      · simp [hdot, strip, counts]
      · have hcounts : strip [first] = [first] :=
          strip_cons_of_counts (counts_iff.2 (by simp [hempty, hdot]))
        simp [hempty, hdot, hcounts]
  have hdot : start path = [.current] ↔ first = "." := by
    rw [start_eq_current_iff, hfirst, List.head?_cons, Option.some.injEq]
  rw [hchunks, hstrip, hhead, List.append_assoc]
  simp only [hdot]

end Chunks

/-- Paths with the same components feed a hasher with the same data. -/
theorem hashed_eq_of_components_eq {left right : String} (h : components left = components right) :
    hashed left = hashed right := by
  obtain ⟨hstart, hstrip⟩ := components_eq_iff.1 h
  simp only [hashed, chunks_eq, hstart, hstrip]

section Variants

/-- A part behind a slash has no influence on where a path starts. -/
theorem start_append (front rest : String) :
    start (front ++ "/" ++ rest) = if front = "" then [.root] else start front := by
  split
  · rename_i hfront
    subst hfront
    simp [start, isAbsolute]
  · rename_i hfront
    obtain ⟨first, tail, hlist⟩ : ∃ first tail, front.toList = first :: tail :=
      List.exists_cons_of_ne_nil (by simpa using hfront)
    have habsolute : isAbsolute (front ++ "/" ++ rest) = isAbsolute front := by
      simp [isAbsolute, hlist]
    have hhead : (split (front ++ "/" ++ rest)).head? = (split front).head? := by
      rw [split_append, split_eq front]
      rfl
    simp only [start, habsolute, hhead]

/-- Paths that differ behind a slash are the same if their pieces that count are. -/
theorem same_of_strip_eq {front rest rest' : String}
    (h : strip (split rest) = strip (split rest')) :
    same (front ++ "/" ++ rest) (front ++ "/" ++ rest') := by
  rw [same, beq_iff_eq, components_eq_iff]
  simp only [start_append, split_append, strip_append, h, true_and]

/-- Neither a second slash nor a dot behind a slash says anything. -/
theorem same_repeated (front rest : String) :
    same (front ++ "/" ++ ("/" ++ rest)) (front ++ "/" ++ rest) ∧
      same (front ++ "/" ++ ("./" ++ rest)) (front ++ "/" ++ rest) := by
  have hslash : split ("/" ++ rest) = "" :: split rest := split_append "" rest
  have hdot : split ("./" ++ rest) = "." :: split rest := split_append "." rest
  constructor
  · exact same_of_strip_eq (by rw [hslash, strip_cons_of_not_counts (by decide)])
  · exact same_of_strip_eq (by rw [hdot, strip_cons_of_not_counts (by decide)])

/-- Nor does a slash at the end, be it followed by a dot or not. -/
theorem same_trailing {front : String} (h : front ≠ "") :
    same (front ++ "/") front ∧ same (front ++ "/.") front := by
  have hend : ∀ rest, strip (split rest) = [] → same (front ++ "/" ++ rest) front := by
    intro rest hrest
    rw [same, beq_iff_eq, components_eq_iff]
    simp [start_append, split_append, h, hrest]
  have hslash := hend "" (by decide)
  have hdot := hend "." (by decide)
  rw [String.append_empty] at hslash
  rw [String.append_assoc] at hdot
  exact ⟨hslash, hdot⟩

end Variants

end Path

namespace FileSystem

variable {files : FileSystem}

/-- A piece that does not count makes no difference to a walk that gets on, as far as the next
link. -/
theorem advance_strip (place : Place) (pieces : List String) :
    (∀ found node, files.advance true place pieces = .found found node →
      files.advance true place (Path.strip pieces) = .found found node) ∧
    ∀ directory target rest, files.advance true place pieces = .link directory target rest →
      files.advance true place (Path.strip pieces) = .link directory target (Path.strip rest) := by
  induction pieces generalizing place with
  | nil =>
    refine ⟨fun _ _ h => h, fun directory target rest h => ?_⟩
    simp only [advance] at h
    split at h <;> cases h
  | cons first rest ih =>
    by_cases hdirectory : files.isDirectory place
    · by_cases hcounts : Path.counts first
      · have hskip := Path.counts_iff.1 hcounts
        rw [Path.strip_cons_of_counts hcounts]
        simp only [advance, hdirectory, not_true_eq_false, if_false, hskip]
        by_cases hparent : first = ".."
        · simpa [hparent] using ih place.dropLast
        by_cases hlong : longestName < first.utf8ByteSize
        · simp [hparent, hlong]
        simp only [hparent, hlong, if_false]
        cases files.node? (place ++ [first]) with
        | none =>
          refine ⟨fun _ _ h => ?_, fun _ _ _ h => ?_⟩ <;> (dsimp only at h; split at h <;> cases h)
        | some node =>
          cases node with
          | link target => simp
          | file | directory | pipe | unreadable => exact ih (place ++ [first])
      · have hskip := not_not.1 (Path.counts_iff.not.1 hcounts)
        rw [Path.strip_cons_of_not_counts hcounts]
        simpa [advance, hdirectory, hskip] using ih place
    · simp [advance, hdirectory]

/-- A walk that finds something does so without a link, or behind the first one. -/
theorem walk_eq_found_iff {links : Nat} {place found : Place} {node : Node} {pieces : List String} :
    files.walk true links place pieces = .ok (.found found node) ↔
      files.advance true place pieces = .found found node ∨
      ∃ fewer directory target rest, links = fewer + 1 ∧
        files.advance true place pieces = .link directory target rest ∧
        target.isEmpty = false ∧
        files.walk true fewer (origin directory target) (Path.split target ++ rest) =
          .ok (.found found node) := by
  conv_lhs => unfold walk
  cases files.advance true place pieces with
  | found | absent | failed => simp
  | link directory target rest =>
    cases links with
    | zero => simp
    | succ fewer => by_cases hempty : target = "" <;> simp [hempty]

/-- Two walks along pieces of which the same count end at the same, if both get there. -/
theorem walk_found_unique {links : Nat} {place found found' : Place} {node node' : Node}
    {pieces pieces' : List String} (hstrip : Path.strip pieces = Path.strip pieces')
    (h : files.walk true links place pieces = .ok (.found found node))
    (h' : files.walk true links place pieces' = .ok (.found found' node')) :
    found = found' ∧ node = node' := by
  induction links using Nat.strongRecOn generalizing place pieces pieces' with
  | ind links ih =>
    obtain ⟨hfound, hlink⟩ := files.advance_strip place pieces
    obtain ⟨hfound', hlink'⟩ := files.advance_strip place pieces'
    rw [← hstrip] at hfound' hlink'
    rcases walk_eq_found_iff.1 h with
        hfirst | ⟨fewer, directory, target, rest, rfl, hfirst, -, hnext⟩ <;>
      rcases walk_eq_found_iff.1 h' with
        hfirst' | ⟨fewer', directory', target', rest', hfewer, hfirst', -, hnext'⟩
    · have hsame := (hfound _ _ hfirst).symm.trans (hfound' _ _ hfirst')
      exact Stop.found.inj hsame
    · cases (hfound _ _ hfirst).symm.trans (hlink' _ _ _ hfirst')
    · cases (hlink _ _ _ hfirst).symm.trans (hfound' _ _ hfirst')
    · obtain ⟨rfl, rfl, hrest⟩ :=
        Stop.link.inj ((hlink _ _ _ hfirst).symm.trans (hlink' _ _ _ hfirst'))
      obtain rfl := Nat.succ.inj hfewer
      exact ih fewer (Nat.lt_succ_self fewer) (by rw [Path.strip_append, Path.strip_append, hrest])
        hnext hnext'

theorem find_eq_ok_iff_locate {path : String} {place : Place} {node : Node} :
    files.find path = .ok (place, node) ↔ files.locate true path = .ok (.found place node) := by
  rw [find, bind_eq_ok_iff]
  constructor
  · rintro ⟨arrival, hlocate, h⟩
    cases arrival with
    | found => simp_all
    | absent => exact absurd h throw_ne_ok
  · exact fun h => ⟨_, h, rfl⟩

/-- What a path leads to, if it is one that a walk begins for, is where the walk along its pieces
ends. -/
theorem locate_eq_found_iff {follow : Bool} {path : String} {place : Place} {node : Node} :
    files.locate follow path = .ok (.found place node) ↔
      (path.toList.contains '\x00' = false ∧ path.isEmpty = false ∧
        path.utf8ByteSize < pathLimit) ∧
      files.walk follow linkLimit (origin files.workingDirectory path) (Path.split path) =
        .ok (.found place node) := by
  rw [locate]
  split
  · simp_all
  split
  · simp_all
  split
  · simp_all
  · simp_all [mapError_eq_ok_iff]

theorem find_eq_ok_iff {path : String} {place : Place} {node : Node} :
    files.find path = .ok (place, node) ↔
      (path.toList.contains '\x00' = false ∧ path.isEmpty = false ∧
        path.utf8ByteSize < pathLimit) ∧
      files.walk true linkLimit (origin files.workingDirectory path) (Path.split path) =
        .ok (.found place node) :=
  find_eq_ok_iff_locate.trans locate_eq_found_iff

/-- Paths with the same components lead to the same, if both lead anywhere. -/
theorem find_unique {left right : String} {place place' : Place} {node node' : Node}
    (hcomponents : Path.components left = Path.components right)
    (hleft : files.find left = .ok (place, node))
    (hright : files.find right = .ok (place', node')) :
    place = place' ∧ node = node' := by
  have horigin : origin files.workingDirectory left = origin files.workingDirectory right := by
    simp only [origin, Path.isAbsolute_eq_of_components_eq hcomponents]
  have hwalk := (find_eq_ok_iff.1 hleft).2
  rw [horigin] at hwalk
  exact walk_found_unique (Path.components_eq_iff.1 hcomponents).2 hwalk (find_eq_ok_iff.1 hright).2

end FileSystem

end CredentialWatch
