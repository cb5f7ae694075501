import CredentialWatch.Proofs.PathSpelling

/-!
# Canonical paths

A walk that starts at a place of proper names arrives at such a place, since it adds the pieces of
paths and of links, which have no slash in them, and passes over those that are no names. The path
of such a place is split into its names again. So two canonical paths are the same, component by
component, only if the places are.
-/
namespace CredentialWatch

/-- A name that a file in a directory can have. -/
def Place.IsName (name : String) : Prop :=
  Path.counts name ∧ name ≠ ".." ∧ '/' ∉ name.toList

/-- Whether all names of a place are names that files can have. -/
def Place.Proper (place : Place) : Prop := ∀ name ∈ place, IsName name

namespace Path

/-- The pieces of a path have no slash in them. -/
theorem slash_notMem_split_go (gathered chars : List Char) (hgathered : '/' ∉ gathered) :
    ∀ piece ∈ split.go gathered chars, '/' ∉ piece.toList := by
  induction chars generalizing gathered with
  | nil => simpa [split.go] using hgathered
  | cons char rest ih =>
    by_cases hslash : char = '/'
    · simp only [split.go, if_pos hslash, List.mem_cons]
      rintro piece (rfl | hmem)
      · simpa using hgathered
      · exact ih [] List.not_mem_nil piece hmem
    · simp only [split.go, if_neg hslash]
      exact ih (char :: gathered) (by simp [hgathered, Ne.symm hslash])

theorem slash_notMem_split (path : String) : ∀ piece ∈ split path, '/' ∉ piece.toList :=
  slash_notMem_split_go [] path.toList List.not_mem_nil

theorem split_of_slash_notMem {text : String} (h : '/' ∉ text.toList) : split text = [text] := by
  have hgo : ∀ (chars gathered : List Char), '/' ∉ chars →
      split.go gathered chars = [String.ofList (gathered.reverse ++ chars)] := by
    intro chars
    induction chars with
    | nil => simp [split.go]
    | cons char rest ih =>
      intro gathered hchars
      obtain ⟨hchar, hrest⟩ := not_or.1 (List.mem_cons.not.1 hchars)
      simp [split.go, Ne.symm hchar, ih (char :: gathered) hrest]
  simpa [split] using hgo text.toList [] h

/-- Names that are written one after the other, with a slash before each, are split up again. -/
theorem split_names {place : Place} (proper : place.Proper) (front : String)
    (hfront : '/' ∉ front.toList) :
    split (front ++ String.join (place.map ("/" ++ ·))) = front :: place := by
  induction place generalizing front with
  | nil => simpa using split_of_slash_notMem hfront
  | cons name rest ih =>
    obtain ⟨hname, hrest⟩ := List.forall_mem_cons.1 proper
    have hpath : front ++ String.join ((name :: rest).map ("/" ++ ·)) =
        front ++ "/" ++ (name ++ String.join (rest.map ("/" ++ ·))) := by
      simp [String.join_cons, String.append_assoc]
    rw [hpath, split_append, split_of_slash_notMem hfront, ih hrest name hname.2.2]
    rfl

end Path

namespace Place

variable {place other : Place}

theorem component?_of_isName {name : String} (h : IsName name) :
    Path.component? name = some (.name name) := by
  have hcounts := Path.counts_iff.1 h.1
  simp [Path.component?, hcounts, h.2.1]

/-- The components of the path of a place are the root and its names. -/
theorem components_path (proper : place.Proper) :
    Path.components place.path = .root :: place.map .name := by
  by_cases hempty : place = []
  · subst hempty
    decide
  have hpath : place.path = String.join (place.map ("/" ++ ·)) := by
    rw [path, if_neg (by simpa using hempty)]
  have hsplit : Path.split place.path = "" :: place := by
    have hnames := Path.split_names proper "" (by simp)
    rwa [String.empty_append, ← hpath] at hnames
  have habsolute : Path.isAbsolute place.path := by
    obtain ⟨first, rest, rfl⟩ := List.exists_cons_of_ne_nil hempty
    simp [hpath, Path.isAbsolute, String.join_cons]
  have hnames : place.filterMap Path.component? = place.map .name := by
    rw [← List.filterMap_eq_map]
    exact List.filterMap_congr fun name hmem => component?_of_isName (proper name hmem)
  rw [Path.components_eq, Path.isAbsolute_iff_start.1 habsolute, hsplit]
  simp [Path.component?, hnames]

/-- Canonical paths are the same only if they are those of one place. -/
theorem same_path_iff (proper : place.Proper) (proper' : other.Proper) :
    Path.same place.path other.path ↔ place = other := by
  have hnames : Function.Injective (List.map Component.name) :=
    List.map_injective_iff.2 fun _ _ => Component.name.inj
  rw [Path.same, beq_iff_eq, components_path proper, components_path proper', List.cons.injEq,
    hnames.eq_iff]
  simp

theorem path_eq_iff (proper : place.Proper) (proper' : other.Proper) :
    place.path = other.path ↔ place = other := by
  refine ⟨fun h => ?_, congrArg path⟩
  rw [← same_path_iff proper proper', h]
  simp [Path.same]

end Place

namespace FileSystem

variable {files : FileSystem}

/-- Whether the names of the directory that relative paths start from are names that files can
have. -/
def Proper (files : FileSystem) : Prop := files.workingDirectory.Proper

/-- A walk along pieces without slashes goes from proper places to proper places. -/
theorem advance_proper (follow : Bool) {place : Place} {pieces : List String}
    (proper : place.Proper) (hpieces : ∀ piece ∈ pieces, '/' ∉ piece.toList) :
    (∀ found node, files.advance follow place pieces = .found found node → found.Proper) ∧
      ∀ directory target rest, files.advance follow place pieces = .link directory target rest →
        directory.Proper ∧ ∀ piece ∈ rest, '/' ∉ piece.toList := by
  induction pieces generalizing place with
  | nil =>
    simp only [advance]
    split <;> simp_all
  | cons first rest ih =>
    obtain ⟨hfirst, hrest⟩ := List.forall_mem_cons.1 hpieces
    by_cases hdirectory : files.isDirectory place
    swap
    · simp [advance, hdirectory]
    by_cases hskip : first = "" ∨ first = "."
    · simpa [advance, hdirectory, hskip] using ih proper hrest
    by_cases hparent : first = ".."
    · have hfront : Place.Proper place.dropLast :=
        fun name h => proper name (List.mem_of_mem_dropLast h)
      simpa [advance, hdirectory, hparent] using ih hfront hrest
    by_cases hlong : longestName < first.utf8ByteSize
    · simp [advance, hdirectory, hskip, hparent, hlong]
    have hnext : Place.Proper (place ++ [first]) := by
      intro name hmem
      rcases List.mem_append.1 hmem with hmem | hmem
      · exact proper name hmem
      · rw [List.mem_singleton.1 hmem]
        exact ⟨Path.counts_iff.2 hskip, hparent, hfirst⟩
    simp only [advance, hdirectory, not_true_eq_false, if_false, hskip, hparent, hlong]
    cases files.node? (place ++ [first]) with
    | none => cases rest <;> simp
    | some node =>
      cases node with
      | link target =>
        by_cases hlast : rest.isEmpty ∧ ¬ follow
        · simp [hlast, hnext]
        · simp only [if_neg hlast, reduceCtorEq, false_implies, implies_true, true_and]
          rintro directory target' rest' h
          cases h
          exact ⟨proper, hrest⟩
      | file | directory | pipe | unreadable => exact ih hnext hrest

theorem origin_proper {directory : Place} (proper : directory.Proper) (path : String) :
    (origin directory path).Proper := by
  unfold origin
  split
  · simp [Place.Proper]
  · exact proper

theorem walk_proper {links : Nat} {place found : Place} {node : Node} {pieces : List String}
    (proper : place.Proper) (hpieces : ∀ piece ∈ pieces, '/' ∉ piece.toList)
    (h : files.walk true links place pieces = .ok (.found found node)) : found.Proper := by
  induction links using Nat.strongRecOn generalizing place pieces with
  | ind links ih =>
    obtain ⟨hfound, hlink⟩ := files.advance_proper true proper hpieces
    rcases walk_eq_found_iff.1 h with
      hfirst | ⟨fewer, directory, target, rest, rfl, hfirst, -, hnext⟩
    · exact hfound found node hfirst
    · obtain ⟨hdirectory, hrest⟩ := hlink directory target rest hfirst
      refine ih fewer (Nat.lt_succ_self fewer) (origin_proper hdirectory target) ?_ hnext
      intro piece hmem
      rcases List.mem_append.1 hmem with hmem | hmem
      · exact Path.slash_notMem_split target piece hmem
      · exact hrest piece hmem

/-- What a path leads to has a proper place. -/
theorem find_proper (proper : files.Proper) {path : String} {place : Place} {node : Node}
    (h : files.find path = .ok (place, node)) : place.Proper :=
  walk_proper (origin_proper proper path) (Path.slash_notMem_split path) (find_eq_ok_iff.1 h).2

theorem canonicalPath_eq_ok_iff {path canonical : String} :
    files.canonicalPath path = .ok canonical ↔
      ∃ place node, files.find path = .ok (place, node) ∧ place.path = canonical := by
  rw [canonicalPath]
  cases files.find path with
  | error error => simp [Functor.map, Except.map]
  | ok found =>
    obtain ⟨place, node⟩ := found
    simp [Functor.map, Except.map]

theorem sourcePath_eq {path : String} {place : Place} {node : Node}
    (h : files.find path = .ok (place, node)) : files.sourcePath path = place.path := by
  rw [sourcePath, canonicalPath_eq_ok_iff.2 ⟨place, node, h, rfl⟩]
  rfl

/-- Two paths, looked up when files may have changed in between, have the same canonical path if
they lead to the same place. -/
theorem canonicalPath_eq_iff {others : FileSystem} (proper : files.Proper) (proper' : others.Proper)
    {path path' : String} {place place' : Place} {node node' : Node}
    (h : files.find path = .ok (place, node)) (h' : others.find path' = .ok (place', node')) :
    files.canonicalPath path = others.canonicalPath path' ↔ place = place' := by
  rw [canonicalPath_eq_ok_iff.2 ⟨place, node, h, rfl⟩,
    canonicalPath_eq_ok_iff.2 ⟨place', node', h', rfl⟩,
    Except.ok.injEq, Place.path_eq_iff (find_proper proper h) (find_proper proper' h')]

end FileSystem

end CredentialWatch
