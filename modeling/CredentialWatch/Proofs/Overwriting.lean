import CredentialWatch.FileSystem.Change
import CredentialWatch.Proofs.Loading
import CredentialWatch.Proofs.PathSpelling

/-!
# Writing over a file

A walk sees directories, links and the node at which it ends. Where a tree keeps its directories and
links, and every file stays one although not the same, all paths lead where they did. So it is when
a file is written over in place, and when another file is renamed over it, except for the paths of
the other file.
-/
namespace CredentialWatch

/-- Whether a walk goes on from a node. -/
def Node.leadsOn : Node → Bool
  | directory | link _ => true
  | _ => false

namespace FileSystem

section Ends

variable {files : FileSystem} {place found : Place} {node : Node} {follow : Bool}

/-- Where a walk ends, there stands what it finds. -/
theorem node?_of_advance {pieces : List String}
    (h : files.advance follow place pieces = .found found node) :
    files.node? found = some node := by
  induction pieces generalizing place with
  | nil =>
    simp only [advance] at h
    split at h
    · next hnode =>
      cases h
      exact hnode
    · cases h
  | cons first rest ih =>
    simp only [advance] at h
    split at h
    · cases h
    split at h
    · exact ih h
    split at h
    · exact ih h
    split at h
    · cases h
    split at h
    · split at h <;> cases h
    · next hnode =>
      split at h
      · cases h
        exact hnode
      · cases h
    · exact ih h

theorem node?_of_walk {links : Nat} {pieces : List String}
    (h : files.walk follow links place pieces = .ok (.found found node)) :
    files.node? found = some node := by
  induction links using Nat.strongRecOn generalizing place pieces with
  | ind links ih =>
    unfold walk at h
    split at h
    · cases h
      exact node?_of_advance ‹_›
    · cases h
    · cases h
    · split at h
      · cases h
      · split at h
        · cases h
        · exact ih _ (Nat.lt_succ_self _) h

theorem node?_of_locate {path : String} (h : files.locate follow path = .ok (.found found node)) :
    files.node? found = some node :=
  node?_of_walk (locate_eq_found_iff.1 h).2

end Ends

/-- Where a walk does not go on, it has come to its end or fails. -/
theorem advance_of_ends {files : FileSystem} {place : Place} {node : Node}
    (hnode : files.node? place = some node) (hends : node.leadsOn = false) (pieces : List String) :
    files.advance true place pieces =
      if pieces = [] then .found place node else .failed .notDirectory := by
  cases pieces with
  | nil => simp [advance, hnode]
  | cons first rest =>
    have hdirectory : files.isDirectory place = false := by
      rw [isDirectory, hnode]
      cases node <;> first | rfl | cases hends
    simp [advance, hdirectory]

/-- One tree keeps what another one had, except at places that are gone: what a walk goes on from
stays the same, and what ends a walk still does. -/
structure Keeps (before after : FileSystem) (gone : Place → Prop) : Prop where
  workingDirectory : after.workingDirectory = before.workingDirectory
  node? : ∀ place node, before.node? place = some node → ¬ gone place →
    ∃ other, after.node? place = some other ∧ other.leadsOn = node.leadsOn ∧
      (node.leadsOn → other = node)
  ends : ∀ place node, before.node? place = some node → gone place → node.leadsOn = false

namespace Keeps

variable {before after : FileSystem} {gone : Place → Prop}

theorem isDirectory (keeps : before.Keeps after gone) {place : Place}
    (h : before.isDirectory place = true) : after.isDirectory place = true := by
  have hnode : before.node? place = some .directory := eq_of_beq h
  have hkept : ¬ gone place :=
    fun hgone => by simpa [Node.leadsOn] using keeps.ends place _ hnode hgone
  obtain ⟨other, hother, -, hsame⟩ := keeps.node? place _ hnode hkept
  simp [FileSystem.isDirectory, hother, hsame rfl]

/-- A walk that ends at a place that is not gone ends there as well, and one that comes to a link
comes to the same link. -/
theorem advance (keeps : before.Keeps after gone) (place : Place) (pieces : List String) :
    (∀ found node, before.advance true place pieces = .found found node → ¬ gone found →
      ∃ other, after.advance true place pieces = .found found other) ∧
    ∀ directory target rest, before.advance true place pieces = .link directory target rest →
      after.advance true place pieces = .link directory target rest := by
  induction pieces generalizing place with
  | nil =>
    simp only [FileSystem.advance]
    cases hnode : before.node? place with
    | none => simp
    | some node =>
      simp only [Stop.found.injEq, and_imp, reduceCtorEq, false_implies, implies_true, and_true]
      rintro found - rfl - hkept
      obtain ⟨other, hother, -⟩ := keeps.node? place node hnode hkept
      exact ⟨other, by rw [hother]⟩
  | cons first rest ih =>
    by_cases hdirectory : before.isDirectory place = true
    · have hdirectory' := keeps.isDirectory hdirectory
      simp only [FileSystem.advance, hdirectory, hdirectory', not_true_eq_false, if_false]
      by_cases hskip : first = "" ∨ first = "."
      · simpa only [hskip, if_true] using ih place
      by_cases hparent : first = ".."
      · simpa [hparent] using ih place.dropLast
      by_cases hlong : longestName < first.utf8ByteSize
      · simp [hskip, hparent, hlong]
      simp only [hskip, hparent, hlong, if_false]
      have hnext := ih (place ++ [first])
      cases hnode : before.node? (place ++ [first]) with
      | none =>
        refine ⟨fun _ _ h => ?_, fun _ _ _ h => ?_⟩ <;> (dsimp only at h; split at h <;> cases h)
      | some node =>
        by_cases hgone : gone (place ++ [first])
        · have hends := keeps.ends _ node hnode hgone
          have hstop := advance_of_ends hnode hends rest
          cases node with
          | link | directory => cases hends
          | file | pipe | unreadable =>
            dsimp only
            rw [hstop]
            cases rest <;> simp [hgone]
        · obtain ⟨other, hother, hkind, hsame⟩ := keeps.node? _ node hnode hgone
          cases node with
          | link target => simp [hother, hsame rfl]
          | directory => simpa [hother, hsame rfl] using hnext
          | file | pipe | unreadable =>
            cases other with
            | link | directory => cases hkind
            | file | pipe | unreadable => simpa [hother] using hnext
    · simp [FileSystem.advance, hdirectory]

theorem walk (keeps : before.Keeps after gone) {links : Nat} {place found : Place} {node : Node}
    {pieces : List String} (h : before.walk true links place pieces = .ok (.found found node))
    (hkept : ¬ gone found) :
    ∃ other, after.walk true links place pieces = .ok (.found found other) := by
  induction links using Nat.strongRecOn generalizing place pieces with
  | ind links ih =>
    obtain ⟨hfound, hlink⟩ := keeps.advance place pieces
    rcases walk_eq_found_iff.1 h with
      hfirst | ⟨fewer, directory, target, rest, rfl, hfirst, htarget, hnext⟩
    · obtain ⟨other, hother⟩ := hfound found node hfirst hkept
      exact ⟨other, walk_eq_found_iff.2 (.inl hother)⟩
    · obtain ⟨other, hother⟩ := ih fewer (Nat.lt_succ_self fewer) hnext
      exact ⟨other, walk_eq_found_iff.2
        (.inr ⟨fewer, directory, target, rest, rfl, hlink _ _ _ hfirst, htarget, hother⟩)⟩

/-- A path leads where it did, unless the place is gone. -/
theorem find (keeps : before.Keeps after gone) {path : String} {place : Place} {node : Node}
    (h : before.find path = .ok (place, node)) (hkept : ¬ gone place) :
    ∃ other, after.find path = .ok (place, other) := by
  obtain ⟨hpath, hwalk⟩ := find_eq_ok_iff.1 h
  obtain ⟨other, hother⟩ := keeps.walk hwalk hkept
  exact ⟨other, find_eq_ok_iff.2 ⟨hpath, by rwa [keeps.workingDirectory]⟩⟩

/-- A tree in which one file stands in the place of another one, and other files may be gone. -/
theorem of_replaced {place : Place} {old new : Node}
    (hdirectory : after.workingDirectory = before.workingDirectory)
    (hold : before.node? place = some old) (hnew : after.node? place = some new)
    (hends : old.leadsOn = false ∧ new.leadsOn = false)
    (hsame : ∀ other node, other ≠ place → ¬ gone other → before.node? other = some node →
      after.node? other = some node)
    (hgone : ∀ other node, before.node? other = some node → gone other → node.leadsOn = false) :
    before.Keeps after gone where
  workingDirectory := hdirectory
  node? other node hnode hkept := by
    by_cases hplace : other = place
    · subst hplace
      obtain rfl : old = node := Option.some.inj (hold.symm.trans hnode)
      exact ⟨new, hnew, hends.2.trans hends.1.symm, by simp [hends.1]⟩
    · exact ⟨node, hsame other node hplace hkept hnode, rfl, fun _ => rfl⟩
  ends := hgone

/-- If nothing has come in exchange, a location that led to no place that is gone leads where it
did. -/
theorem place? (keeps : before.Keeps after gone) (back : after.Keeps before fun _ => False)
    {location? : Option String}
    (hkept : ∀ place, location?.bind (Location.place? before) = some place → ¬ gone place) :
    location?.bind (Location.place? after) = location?.bind (Location.place? before) := by
  rw [Location.bind_place?] at hkept
  rw [Location.bind_place?, Location.bind_place?]
  generalize (location?.bind fun location => (Location.resolve location).toOption) = source?
    at hkept ⊢
  refine Option.bind_congr fun source hsource => ?_
  simp only [hsource, Option.bind_some] at hkept
  cases hbefore : before.find source.path with
  | ok found =>
    obtain ⟨place, node⟩ := found
    obtain ⟨other, hafter⟩ := keeps.find hbefore (hkept place (by simp [hbefore, Except.toOption]))
    simp [hafter, Except.toOption]
  | error error =>
    cases hafter : after.find source.path with
    | ok found =>
      obtain ⟨place, node⟩ := found
      obtain ⟨other, hother⟩ := back.find hafter id
      simp [hbefore] at hother
    | error error => simp only [Except.toOption]

end Keeps

section Replacing

variable {files after : FileSystem} {place source : Place} {old new : Node}

theorem lookup_filter (nodes : List (Place × Node)) (keep : Place → Bool) (place : Place) :
    (nodes.filter fun entry => keep entry.1).lookup place =
      if keep place then nodes.lookup place else none := by
  induction nodes with
  | nil => simp
  | cons first rest ih =>
    obtain ⟨other, node⟩ := first
    by_cases hplace : place = other
    · subst hplace
      cases hkeep : keep place with
      | true => simp [hkeep]
      | false => simpa [hkeep] using ih
    · have hne : (place == other) = false := beq_false_of_ne hplace
      cases hkeep : keep other <;> simp [hkeep, List.lookup_cons, hne, ih]

theorem lookup_put (files : FileSystem) (place other : Place) (node : Node) :
    (files.put place node).nodes.lookup other =
      if other = place then some node else files.nodes.lookup other := by
  simp only [put, List.lookup_append, lookup_filter _ (· != place)]
  by_cases h : other = place
  · simp [h]
  · simp [h, List.lookup_cons, beq_false_of_ne h]

theorem node?_put (files : FileSystem) (hplace : place ≠ []) (node : Node) (other : Place) :
    (files.put place node).node? other =
      if other = place then some node else files.node? other := by
  simp only [FileSystem.node?, lookup_put]
  by_cases h : other = place <;> simp [h, hplace]

theorem ne_nil_of_ends (hold : files.node? place = some old) (hends : old.leadsOn = false) :
    place ≠ [] := by
  rintro rfl
  obtain rfl : Node.directory = old := by simpa [FileSystem.node?] using hold
  cases hends

/-- A file that is written over in place. -/
theorem keeps_put (new : Node) (hold : files.node? place = some old)
    (hends : old.leadsOn = false ∧ new.leadsOn = false) :
    files.Keeps (files.put place new) (fun _ => False) ∧
      (files.put place new).Keeps files fun _ => False := by
  have hput := node?_put files (ne_nil_of_ends hold hends.1) new
  have hnew : (files.put place new).node? place = some new := by rw [hput, if_pos rfl]
  constructor
  · exact .of_replaced rfl hold hnew hends
      (fun other node hother _ hnode => by rwa [hput, if_neg hother]) fun _ _ _ => False.elim
  · exact .of_replaced rfl hnew hold hends.symm
      (fun other node hother _ hnode => by rwa [hput, if_neg hother] at hnode)
      fun _ _ _ => False.elim

theorem lookup_drop (hempty : files.isEmptyDirectory place = true) (other : Place) :
    (files.drop place).nodes.lookup other =
      if other = place then none else files.nodes.lookup other := by
  rw [drop, lookup_filter _ fun other => !place.isPrefixOf other]
  cases hbelow : place.isPrefixOf other with
  | true =>
    rw [if_neg (by simp)]
    split
    · rfl
    · next h =>
      refine (List.lookup_eq_none_iff.2 fun entry hentry => bne_iff_ne.2 ?_).symm
      rintro rfl
      simpa [h, hbelow] using List.all_eq_true.1 hempty entry hentry
  | false =>
    have hne : other ≠ place := by
      rintro rfl
      simp [List.isPrefixOf_iff_prefix.2] at hbelow
    simp [hne]

/-- What is at a place and below it, as it is called when the place has another name. -/
def moved (files : FileSystem) (source place : Place) : List (Place × Node) :=
  (files.nodes.filter fun (other, _) => source.isPrefixOf other).map fun (other, node) =>
    (place ++ other.drop source.length, node)

/-- All that is moved with a file is the file itself. -/
theorem lookup_moved (hempty : files.isEmptyDirectory source = true) (other : Place) :
    (files.moved source place).lookup other =
      if other = place then files.nodes.lookup source else none := by
  unfold moved
  have hself : files.nodes.lookup source =
      (files.nodes.filter fun entry => source.isPrefixOf entry.1).lookup source := by
    rw [lookup_filter, if_pos (List.isPrefixOf_iff_prefix.2 List.prefix_rfl)]
  rw [hself]
  have hall : ∀ entry ∈ files.nodes.filter fun entry => source.isPrefixOf entry.1,
      entry.1 = source := by
    intro entry hentry
    obtain ⟨hmem, hbelow⟩ := List.mem_filter.1 hentry
    simpa [hbelow] using List.all_eq_true.1 hempty entry hmem
  generalize (files.nodes.filter fun entry => source.isPrefixOf entry.1) = moved at hall
  induction moved with
  | nil => simp
  | cons first rest ih =>
    obtain ⟨first, node⟩ := first
    obtain ⟨rfl, hrest⟩ := List.forall_mem_cons.1 hall
    by_cases h : other = place
    · simp [h]
    · simpa [h, List.lookup_cons, beq_false_of_ne h] using ih hrest

/-- A renaming moves what is at a place and below it to the place that the new path leads to, unless
this is the same place. -/
theorem rename_cases {path newPath : String} {changes : List FileChange} {node : Node}
    (hsource : files.locate false path = .ok (.found source node))
    (h : files.rename path newPath = .ok (after, changes)) :
    (files.locate false newPath = .ok (.found source node) ∧ after = files ∧ changes = []) ∨
      ∃ target, (files.locate false newPath = .ok (.absent target) ∨
          ∃ old, files.locate false newPath = .ok (.found target old)) ∧
        after = { files with
          nodes := ((files.drop source).drop target).nodes ++ files.moved source target } ∧
        changes = [⟨.renamedFrom, source⟩, ⟨.renamedTo, target⟩] := by
  obtain ⟨first, hfirst, h⟩ := bind_eq_ok_iff.1 h
  obtain rfl := Except.ok.inj (hsource.symm.trans hfirst)
  obtain ⟨arrival, harrival, h⟩ := bind_eq_ok_iff.1 h
  cases arrival with
  | absent target =>
    dsimp only at h
    split at h
    · cases h
    · cases h
      exact .inr ⟨target, .inl harrival, rfl, rfl⟩
  | found target old =>
    have hfound := node?_of_locate harrival
    dsimp only at h
    split at h
    · next hsame =>
      cases h
      obtain rfl : node = old :=
        Option.some.inj ((node?_of_locate hsource).symm.trans (hsame ▸ hfound))
      exact .inl ⟨hsame ▸ harrival, rfl, rfl⟩
    split at h
    · cases h
    split at h
    · cases h
    split at h
    · split at h
      · cases h
        exact .inr ⟨target, .inr ⟨_, harrival⟩, rfl, rfl⟩
      · cases h
    · cases h
    · cases h
    · cases h
      exact .inr ⟨target, .inr ⟨_, harrival⟩, rfl, rfl⟩

/-- What is renamed over a file stands in its place, and everything else where it did. -/
theorem node?_rename {path newPath : String} {changes : List FileChange}
    (hsource : files.locate false path = .ok (.found source new))
    (htarget : files.locate false newPath = .ok (.found place old))
    (hends : old.leadsOn = false ∧ new.leadsOn = false) (hne : place ≠ source)
    (hempty : files.isEmptyDirectory source = true ∧ files.isEmptyDirectory place = true)
    (h : files.rename path newPath = .ok (after, changes)) :
    changes = [⟨.renamedFrom, source⟩, ⟨.renamedTo, place⟩] ∧
      after.workingDirectory = files.workingDirectory ∧
      ∀ other, after.node? other = if other = place then some new else
        if other = source then none else files.node? other := by
  obtain ⟨target, rfl, rfl, rfl⟩ : ∃ target, target = place ∧
      after = { files with
        nodes := ((files.drop source).drop target).nodes ++ files.moved source target } ∧
      changes = [⟨.renamedFrom, source⟩, ⟨.renamedTo, target⟩] := by
    rcases rename_cases hsource h with ⟨hsame, -⟩ | ⟨target, habsent | ⟨_, hfound⟩, hmoved⟩
    · cases hsame.symm.trans htarget
      exact absurd rfl hne
    · cases habsent.symm.trans htarget
    · cases hfound.symm.trans htarget
      exact ⟨_, rfl, hmoved⟩
  refine ⟨rfl, rfl, fun other => ?_⟩
  have hnew := node?_of_locate hsource
  have hplace := ne_nil_of_ends (node?_of_locate htarget) hends.1
  have hsource' := ne_nil_of_ends hnew hends.2
  have hempty' : (files.drop source).isEmptyDirectory target = true :=
    List.all_eq_true.2 fun entry hentry =>
      List.all_eq_true.1 hempty.2 entry (List.mem_filter.1 hentry).1
  have hlookup : files.nodes.lookup source = some new := by
    simpa [FileSystem.node?, hsource'] using hnew
  simp only [FileSystem.node?, List.lookup_append, lookup_drop hempty', lookup_drop hempty.1,
    lookup_moved hempty.1, hlookup]
  by_cases hother : other = target
  · simp [hother, hplace]
  by_cases hgone : other = source
  · simp [hgone, hsource', hne.symm]
  · simp [hother, hgone]

/-- A file that another one is renamed over. -/
theorem keeps_rename {path newPath : String} {changes : List FileChange}
    (hsource : files.locate false path = .ok (.found source new))
    (htarget : files.locate false newPath = .ok (.found place old))
    (hends : old.leadsOn = false ∧ new.leadsOn = false) (hne : place ≠ source)
    (hempty : files.isEmptyDirectory source = true ∧ files.isEmptyDirectory place = true)
    (h : files.rename path newPath = .ok (after, changes)) :
    files.Keeps after (· = source) ∧ after.Keeps files fun _ => False := by
  obtain ⟨-, hdirectory, hnode⟩ := node?_rename hsource htarget hends hne hempty h
  have hold := node?_of_locate htarget
  have hnew : after.node? place = some new := by rw [hnode, if_pos rfl]
  constructor
  · refine .of_replaced hdirectory hold hnew hends (fun other node hother hkept h => ?_) ?_
    · rwa [hnode, if_neg hother, if_neg hkept]
    · rintro _ node hsource'' rfl
      obtain rfl : new = node := Option.some.inj ((node?_of_locate hsource).symm.trans hsource'')
      exact hends.2
  · refine .of_replaced hdirectory.symm hnew hold hends.symm (fun other node hother _ h => ?_)
      fun _ _ _ => False.elim
    rw [hnode, if_neg hother] at h
    split at h
    · cases h
    · exact h

end Replacing

end FileSystem

end CredentialWatch
