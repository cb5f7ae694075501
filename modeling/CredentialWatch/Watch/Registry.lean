import CredentialWatch.FileSystem.Basic

/-!
# The registry of watched files

The registry has one entry for each watched file: the number of the watch and the number of handles
that hold it. Watches are numbered in the order in which they start, from one. A release or an end
that names an older watch of the file changes nothing. What an operation does is said by what
`find?` finds afterwards.
-/
namespace CredentialWatch.Watch

structure Entry where
  place : Place
  id : Nat
  references : Nat
  deriving DecidableEq, Repr

structure Registry where
  entries : List Entry
  nextId : Nat
  deriving DecidableEq, Repr

namespace Registry

def empty : Registry := ⟨[], 1⟩

/-- The number of files watched. -/
def count (registry : Registry) : Nat :=
  registry.entries.length

def find? (registry : Registry) (place : Place) : Option Entry :=
  registry.entries.find? (·.place == place)

@[simp] theorem find?_empty (place : Place) : empty.find? place = none := rfl

theorem place_of_find? {registry : Registry} {place : Place} {entry : Entry}
    (h : registry.find? place = some entry) : entry.place = place := by
  simpa using List.find?_some h

/-- The number of the watch of a file, if it is watched. -/
def watchId? (registry : Registry) (place : Place) : Option Nat :=
  (registry.find? place).map Entry.id

@[simp] theorem watchId?_empty (place : Place) : empty.watchId? place = none := rfl

theorem watchId?_eq_some_iff {registry : Registry} {place : Place} {id : Nat} :
    registry.watchId? place = some id ↔
      ∃ entry, registry.find? place = some entry ∧ entry.id = id := by
  simp [watchId?]

/-- How many handles hold the watch of a file; none do if it is not watched. -/
def references (registry : Registry) (place : Place) : Nat :=
  ((registry.find? place).map Entry.references).getD 0

/-- No file has two entries. -/
def Keyed (registry : Registry) : Prop :=
  (registry.entries.map Entry.place).Nodup

theorem keyed_empty : empty.Keyed := List.nodup_nil

/-- In a keyed registry an entry is found by its file. -/
theorem Keyed.mem_iff {registry : Registry} (keyed : registry.Keyed) {entry : Entry} :
    entry ∈ registry.entries ↔ registry.find? entry.place = some entry := by
  constructor
  · intro h
    obtain ⟨entries, nextId⟩ := registry
    induction entries with
    | nil => cases h
    | cons first rest ih =>
      obtain ⟨hfirst, hrest⟩ := List.nodup_cons.1 keyed
      rcases List.mem_cons.1 h with rfl | h
      · simp [find?]
      · have hne : first.place ≠ entry.place := fun he =>
          hfirst (he ▸ List.mem_map_of_mem h)
        have := ih hrest h
        simp_all [find?]
  · exact List.mem_of_find?_eq_some

def erase (registry : Registry) (place : Place) : Registry :=
  { registry with entries := registry.entries.filter (·.place != place) }

@[simp] theorem find?_erase (registry : Registry) (place other : Place) :
    (registry.erase place).find? other =
      if other = place then none else registry.find? other := by
  simp only [find?, erase, List.find?_filter]
  split
  · subst other
    simp
  · rename_i hne
    congr 1
    funext entry
    by_cases he : entry.place = other <;> simp [he, hne]

@[simp] theorem watchId?_erase (registry : Registry) (place other : Place) :
    (registry.erase place).watchId? other =
      if other = place then none else registry.watchId? other := by
  simp only [watchId?, find?_erase]
  split <;> rfl

theorem Keyed.erase {registry : Registry} (keyed : registry.Keyed) (place : Place) :
    (registry.erase place).Keyed :=
  (List.filter_sublist.map _).nodup keyed

/-- The registry with one entry changed. -/
def modify (registry : Registry) (place : Place) (change : Entry → Entry) : Registry :=
  { registry with
    entries := registry.entries.map fun entry =>
      if entry.place = place then change entry else entry }

section Modify

variable {change : Entry → Entry} (hchange : ∀ entry, (change entry).place = entry.place)
include hchange

theorem find?_modify (registry : Registry) (place other : Place) :
    (registry.modify place change).find? other =
      if other = place then (registry.find? other).map change else registry.find? other := by
  obtain ⟨entries, nextId⟩ := registry
  simp only [find?, modify]
  induction entries with
  | nil => simp
  | cons first rest ih =>
    by_cases hother : first.place = other
    · subst other
      by_cases hfirst : first.place = place <;> simp [hfirst, hchange]
    · by_cases hfirst : first.place = place
      · have hne : ¬ place = other := hfirst ▸ hother
        simpa [hfirst, hchange, hne] using ih
      · simpa [hfirst, hother] using ih

theorem watchId?_modify (hid : ∀ entry, (change entry).id = entry.id) (registry : Registry)
    (place other : Place) :
    (registry.modify place change).watchId? other = registry.watchId? other := by
  simp only [watchId?, find?_modify hchange]
  split
  · simp [Function.comp_def, hid]
  · rfl

theorem Keyed.modify {registry : Registry} (keyed : registry.Keyed) (place : Place) :
    (registry.modify place change).Keyed := by
  have hplace : (Entry.place ∘ fun entry => if entry.place = place then change entry else entry) =
      Entry.place := by
    funext entry
    by_cases h : entry.place = place <;> simp [h, hchange]
  simpa only [Keyed, Registry.modify, List.map_map, hplace] using keyed

end Modify

/-- Count one more handle on a watched file. -/
def join (registry : Registry) (place : Place) : Registry :=
  registry.modify place fun entry => { entry with references := entry.references + 1 }

@[simp] theorem find?_join (registry : Registry) (place other : Place) :
    (registry.join place).find? other =
      if other = place then
        (registry.find? other).map fun entry => { entry with references := entry.references + 1 }
      else registry.find? other :=
  find?_modify (by intro _; rfl) ..

@[simp] theorem watchId?_join (registry : Registry) (place other : Place) :
    (registry.join place).watchId? other = registry.watchId? other :=
  watchId?_modify (by intro _; rfl) (by intro _; rfl) ..

theorem Keyed.join {registry : Registry} (keyed : registry.Keyed) (place : Place) :
    (registry.join place).Keyed :=
  keyed.modify (by intro _; rfl) place

/-- Count one handle less on a watched file. -/
def part (registry : Registry) (place : Place) : Registry :=
  registry.modify place fun entry => { entry with references := entry.references - 1 }

@[simp] theorem find?_part (registry : Registry) (place other : Place) :
    (registry.part place).find? other =
      if other = place then
        (registry.find? other).map fun entry => { entry with references := entry.references - 1 }
      else registry.find? other :=
  find?_modify (by intro _; rfl) ..

@[simp] theorem watchId?_part (registry : Registry) (place other : Place) :
    (registry.part place).watchId? other = registry.watchId? other :=
  watchId?_modify (by intro _; rfl) (by intro _; rfl) ..

theorem Keyed.part {registry : Registry} (keyed : registry.Keyed) (place : Place) :
    (registry.part place).Keyed :=
  keyed.modify (by intro _; rfl) place

/-- Enter a new watch with one handle, in the place of what there was on the file. -/
def enter (registry : Registry) (place : Place) : Nat × Registry :=
  let id := registry.nextId
  (id, ⟨(registry.erase place).entries ++ [⟨place, id, 1⟩], id + 1⟩)

@[simp] theorem nextId_enter (registry : Registry) (place : Place) :
    (registry.enter place).2.nextId = registry.nextId + 1 := rfl

@[simp] theorem find?_enter (registry : Registry) (place other : Place) :
    (registry.enter place).2.find? other =
      if other = place then some ⟨place, registry.nextId, 1⟩ else registry.find? other := by
  have herase := find?_erase registry place other
  simp only [find?] at herase
  simp only [enter, find?, List.find?_append, herase]
  split
  · subst other
    simp
  · rename_i hne
    have : ¬ place = other := fun h => hne h.symm
    simp [this]

@[simp] theorem watchId?_enter (registry : Registry) (place other : Place) :
    (registry.enter place).2.watchId? other =
      if other = place then some registry.nextId else registry.watchId? other := by
  simp only [watchId?, find?_enter]
  split <;> rfl

theorem Keyed.enter {registry : Registry} (keyed : registry.Keyed) (place : Place) :
    (registry.enter place).2.Keyed := by
  have herased : place ∉ (registry.erase place).entries.map Entry.place := by
    simp [Registry.erase]
  have hnodup : ((registry.erase place).entries.map Entry.place).Nodup := keyed.erase place
  simp only [Keyed, Registry.enter, List.map_append, List.map_cons, List.map_nil]
  exact List.nodup_append.2 ⟨hnodup, by simp, by
    intro left hleft right hright
    rw [List.mem_singleton.1 hright]
    rintro rfl
    exact herased hleft⟩

/-- Count one handle less; the entry goes with its last handle. The first part says whether it
went. -/
def release (registry : Registry) (place : Place) (id : Nat) : Bool × Registry :=
  match registry.find? place with
  | none => (false, registry)
  | some entry =>
    if entry.id ≠ id then (false, registry)
    else if entry.references ≤ 1 then (true, registry.erase place)
    else (false, registry.part place)

/-- A release that does not name the watch of the file changes nothing. -/
theorem release_stale {registry : Registry} {place : Place} {id : Nat}
    (h : registry.watchId? place ≠ some id) : registry.release place id = (false, registry) := by
  unfold release
  split
  · rfl
  · rename_i entry hfind
    rw [if_pos fun hid => h (watchId?_eq_some_iff.2 ⟨entry, hfind, hid⟩)]

theorem release_last {registry : Registry} {place : Place} {entry : Entry}
    (h : registry.find? place = some entry) (hlast : entry.references ≤ 1) :
    registry.release place entry.id = (true, registry.erase place) := by
  simp [release, h, hlast]

theorem release_shared {registry : Registry} {place : Place} {entry : Entry}
    (h : registry.find? place = some entry) (hshared : ¬ entry.references ≤ 1) :
    registry.release place entry.id = (false, registry.part place) := by
  simp [release, h, hshared]

@[simp] theorem nextId_release (registry : Registry) (place : Place) (id : Nat) :
    (registry.release place id).2.nextId = registry.nextId := by
  unfold release
  split
  · rfl
  · split
    · rfl
    · split <;> rfl

/-- Remove the entry of a watch that has ended. -/
def forget (registry : Registry) (place : Place) (id : Nat) : Registry :=
  match registry.find? place with
  | none => registry
  | some entry => if entry.id = id then registry.erase place else registry

/-- The end of a watch that is not the file's watch any more changes nothing. -/
theorem forget_stale {registry : Registry} {place : Place} {id : Nat}
    (h : registry.watchId? place ≠ some id) : registry.forget place id = registry := by
  unfold forget
  split
  · rfl
  · rename_i entry hfind
    rw [if_neg fun hid => h (watchId?_eq_some_iff.2 ⟨entry, hfind, hid⟩)]

end Registry

end CredentialWatch.Watch
