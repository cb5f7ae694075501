import CredentialWatch.Proofs.DueChanges
import CredentialWatch.Proofs.Overwriting
import CredentialWatch.Store.Surroundings

/-!
# What a watch notices

Every operation that leaves something else at a place than before is reported as an event of the
file there. So from the start of its watch on, a file is as it was then, or gone, or its change is
noticed: due with its task or published. What happened before, between the read of the file and the
start of its watch, is not.
-/
namespace CredentialWatch

open Watch

section Operations

variable {files after : FileSystem} {changes : List FileChange} {place : Place}

/-- Changes of which an observer of the directory of a file learns that the file has changed. -/
def Tells (changes : List FileChange) (place : Place) : Prop :=
  ∃ change ∈ changes, ∃ event, PlatformEvent.ofChange? place.dropLast change = some event ∧
    event.concerns place

theorem tells_of_mem {kind : ChangeKind} (hmem : ⟨kind, place⟩ ∈ changes) (hkind : kind ≠ .removed)
    (hplace : place ≠ []) : Tells changes place := by
  refine ⟨_, hmem, ?_⟩
  cases kind <;> simp [PlatformEvent.ofChange?, PlatformEvent.concerns, hplace] at hkind ⊢

/-- Changes of a tree that tell of every file that is not as before, unless it is gone. -/
def Accounts (before after : FileSystem) (changes : List FileChange) : Prop :=
  ∀ place, after.node? place = before.node? place ∨ after.node? place = none ∨ Tells changes place

theorem accounts_put {kind : ChangeKind} (node : Node) (hmem : ⟨kind, place⟩ ∈ changes)
    (hkind : kind ≠ .removed) : Accounts files (files.put place node) changes := by
  intro other
  by_cases hroot : other = []
  · simp [FileSystem.node?, hroot]
  by_cases hother : other = place
  · exact .inr (.inr (tells_of_mem (hother ▸ hmem) hkind hroot))
  · exact .inl (by simp [FileSystem.node?, FileSystem.lookup_put, hother])

theorem node?_drop (files : FileSystem) (place other : Place) :
    (files.drop place).node? other = files.node? other ∨ (files.drop place).node? other = none := by
  by_cases hroot : other = []
  · simp [FileSystem.node?, hroot]
  · simp only [FileSystem.node?, FileSystem.drop,
      FileSystem.lookup_filter _ fun other => !place.isPrefixOf other]
    cases place.isPrefixOf other <;> simp [hroot]

theorem accounts_write {path : String} {content : Bytes}
    (h : files.write path content = .ok (after, changes)) : Accounts files after changes := by
  obtain ⟨arrival, -, h⟩ := bind_eq_ok_iff.1 h
  cases arrival with
  | absent place =>
    cases h
    exact accounts_put _ List.mem_cons_self (by decide)
  | found place node =>
    cases node with
    | file | unreadable =>
      cases h
      exact accounts_put _ List.mem_cons_self (by decide)
    | directory | link | pipe => cases h

theorem accounts_make {path : String} {node : Node}
    (h : files.make path node = .ok (after, changes)) : Accounts files after changes := by
  obtain ⟨arrival, -, h⟩ := bind_eq_ok_iff.1 h
  cases arrival with
  | absent place =>
    cases h
    exact accounts_put _ List.mem_cons_self (by decide)
  | found => cases h

theorem accounts_remove {path : String} (h : files.remove path = .ok (after, changes)) :
    Accounts files after changes := by
  obtain ⟨arrival, -, h⟩ := bind_eq_ok_iff.1 h
  cases arrival with
  | absent => cases h
  | found place node =>
    dsimp only at h
    split at h
    · cases h
    · cases h
      intro other
      exact (node?_drop files place other).imp_right .inl

theorem accounts_rename {path newPath : String} {source : Place} {node : Node}
    (hsource : files.locate false path = .ok (.found source node))
    (hempty : files.isEmptyDirectory source)
    (h : files.rename path newPath = .ok (after, changes)) : Accounts files after changes := by
  intro other
  rcases FileSystem.rename_cases hsource h with ⟨-, rfl, rfl⟩ | ⟨target, -, rfl, rfl⟩
  · exact .inl rfl
  by_cases hroot : other = []
  · simp [FileSystem.node?, hroot]
  by_cases hother : other = target
  · have htold : (⟨.renamedTo, other⟩ : FileChange) ∈
        [⟨.renamedFrom, source⟩, ⟨.renamedTo, target⟩] := by simp [hother]
    exact .inr (.inr (tells_of_mem htold (by decide) hroot))
  · have hmoved : (files.moved source target).lookup other = none :=
      (FileSystem.lookup_moved hempty other).trans (if_neg hother)
    have hafter : FileSystem.node? { files with
        nodes := ((files.drop source).drop target).nodes ++ files.moved source target } other =
        ((files.drop source).drop target).node? other := by
      simp [FileSystem.node?, hroot, List.lookup_append, hmoved]
    rw [hafter]
    rcases node?_drop (files.drop source) target other with hkept | hgone
    · rw [hkept]
      exact (node?_drop files source other).imp_right .inl
    · exact .inr (.inl hgone)

theorem accounts_perform {operation : FileOperation}
    (h : operation.perform files = .ok (after, changes)) : Accounts files after changes := by
  cases operation with
  | write path content => exact accounts_write h
  | make path node => exact accounts_make h
  | remove path => exact accounts_remove h
  | rename path newPath =>
    obtain ⟨arrival, hsource, h⟩ := bind_eq_ok_iff.1 h
    cases arrival with
    | absent => cases h
    | found source node =>
      dsimp only at h
      split at h
      · cases h
      · rename_i hempty
        exact accounts_rename hsource (by simpa using hempty) h

/-- Changes that tell of a watched file are due with its task. -/
theorem Watch.Service.Balanced.due_observe {service : Service} {handles : List Handle}
    (balanced : service.Balanced handles) (watched : service.registry.watchId? place ≠ none)
    (tells : Tells changes place) : (service.observe changes).Due place := by
  obtain ⟨id, hwatched⟩ := Option.ne_none_iff_exists'.1 watched
  obtain ⟨task, hmem, rfl, rfl, hstop⟩ := balanced.served place id hwatched
  obtain ⟨change, hchange, event, hevent, hconcerns⟩ := tells
  have hrunning : task.state.isTerminal = false := by
    rw [(balanced.sound task hmem).watching hstop]
    rfl
  have htold : event ∈ changes.filterMap (PlatformEvent.ofChange? task.directory) :=
    List.mem_filterMap.2 ⟨change, hchange, hevent⟩
  exact ⟨_, List.mem_map.2 ⟨task, hmem, if_neg (by simp [hrunning])⟩, rfl, hwatched,
    .inr ⟨event, List.mem_append_right _ (List.mem_map_of_mem htold), hconcerns⟩⟩

end Operations

namespace Surroundings

/-- A change of a file has been published since some earlier time, or it is due. -/
def Notices (start now : Surroundings) (place : Place) : Prop :=
  place ∈ now.published.drop start.published.length ∨ now.service.Due place

instance (start now : Surroundings) (place : Place) : Decidable (start.Notices now place) :=
  inferInstanceAs (Decidable (_ ∨ _))

variable {start now : Surroundings} {handles : List Handle} {place : Place}

/-- What the watch of a file has come to since some time: the file is as it was then, or gone, or
its change is noticed. -/
structure Watches (start now : Surroundings) (handles : List Handle) (place : Place) : Prop where
  balanced : now.service.Balanced handles
  watched : now.service.registry.watchId? place ≠ none
  published : start.published <+: now.published
  noticed : now.files.node? place = start.files.node? place ∨ now.files.node? place = none ∨
    start.Notices now place

namespace Watches

/-- What is noticed stays noticed, whatever the tasks do. -/
theorem work (watches : start.Watches now handles place) (work : Work) :
    start.Watches (now.apply (.work work)) handles place where
  balanced := watches.balanced.work work
  watched := by
    simpa only [apply, watches.balanced.registry_work work] using watches.watched
  published := watches.published.trans (List.prefix_append ..)
  noticed := by
    refine watches.noticed.imp_right (Or.imp_right fun hnotices => ?_)
    rcases hnotices with hpublished | hdue
    · refine .inl ?_
      simp only [apply, List.drop_append_of_le_length watches.published.length_le]
      exact List.mem_append_left _ hpublished
    · rcases watches.balanced.due_work hdue work with hdue | hpublished
      · exact .inr hdue
      · refine .inl ?_
        simp [apply, hpublished, List.drop_append_of_le_length watches.published.length_le]

/-- What an operation leaves at the place of a watched file is noticed, unless it was there
before. -/
theorem operation (watches : start.Watches now handles place) (operation : FileOperation) :
    start.Watches (now.apply (.operation operation)) handles place := by
  cases hperform : operation.perform now.files with
  | error => simpa only [apply, hperform] using watches
  | ok changed =>
    obtain ⟨files, changes⟩ := changed
    have hobserved := watches.work (.observe changes)
    have hafter : now.apply (.operation operation) =
        { now.apply (.work (.observe changes)) with files := files } := by
      simp [apply, hperform, Service.published?, Service.work, Work.move, Usage.apply]
    rw [hafter]
    refine ⟨hobserved.balanced, hobserved.watched, hobserved.published, ?_⟩
    rcases accounts_perform hperform place with hkept | hgone | htells
    · rw [hkept]
      exact hobserved.noticed
    · exact .inr (.inl hgone)
    · exact .inr (.inr (.inr (watches.balanced.due_observe watches.watched htells)))

theorem run (watches : start.Watches now handles place) (disturbances : List Disturbance) :
    start.Watches (now.run disturbances) handles place := by
  induction disturbances generalizing now with
  | nil => exact watches
  | cons first rest ih =>
    cases first with
    | operation operation => exact ih (watches.operation operation)
    | work work => exact ih (watches.work work)

end Watches

/-- Whatever happens keeps the balance of a service. -/
theorem balanced_run (balanced : now.service.Balanced handles) (disturbances : List Disturbance) :
    (now.run disturbances).service.Balanced handles := by
  induction disturbances generalizing now with
  | nil => exact balanced
  | cons first rest ih =>
    refine ih ?_
    cases first with
    | work work => exact balanced.work work
    | operation operation =>
      simp only [apply]
      split
      · exact balanced
      · exact balanced.work (.observe _)

end Surroundings

section Loads

variable {loader : Loader} {platform : Platform} {now : Nat} {location : String} {password : Secret}
  {storeType : String} {afterRead afterFollow : List Disturbance} {before started : Surroundings}
  {handles : List Handle} {loaded : LoadedStore}

/-- A load that is disturbed has read the file that its location led to, and watches the file that
it leads to after that. -/
theorem loadAmid_spec (balanced : before.service.Balanced handles)
    (h : loader.loadAmid platform now (some location) password storeType afterRead
      afterFollow before =
      (.ok loaded, started)) :
    let read := before.run afterRead
    let followed := read.run afterFollow
    ∃ source content, Location.resolve location = .ok source ∧
      before.files.read source.path = .ok content ∧ started.files = followed.files ∧
      followed.service.Gained handles loaded.watch?.toList started.service ∧
      followed.service.Follows platform ((read.files.find source.path).toOption.map Prod.fst)
        loaded.watch? := by
  intro read followed
  unfold Loader.loadAmid at h
  split at h
  · cases h
  rename_i store source? hread
  obtain ⟨hsource, ⟨hnone, -⟩ | ⟨source, _, place, content, _, rfl, -, hfind, -⟩⟩ :=
    CredentialStore.read_cases hread
  · cases hnone
  have hresolve : Location.resolve location = .ok source := by
    cases hresult : Location.resolve location with
    | error error => simp [hresult, Except.toOption] at hsource
    | ok other =>
      rw [Option.bind_some, hresult] at hsource
      exact congrArg Except.ok (Option.some.inj hsource).symm
  have hcontent : before.files.read source.path = .ok content := by
    rw [FileSystem.read, hfind]
    rfl
  have hfollowed := Surroundings.balanced_run (Surroundings.balanced_run balanced afterRead)
    afterFollow
  obtain ⟨after, hafter, hgained, hfollows, -⟩ :=
    startWatch_spec hfollowed platform read.files now (some source)
  have hstarted : (Loader.startWatch platform read.files now (some source)
      (some followed.service)).2.getD followed.service = after := by
    rw [hafter]
    rfl
  cases h
  refine ⟨source, content, hresolve, hcontent, rfl, ?_, hfollows⟩
  exact hstarted ▸ hgained

end Loads

/-- From the start of its watch on, no change of a file goes unnoticed. However a load of a store is
disturbed, it watches the file that the location leads to after the read, unless it leads nowhere
then or the platform refuses a file that is not watched yet. Whatever is later at the place of this
file and was not when the watch was started, its change is due or has been published since. So it is
with what the location leads to later, if it is still this file and its content is not what was
read, unless the content had changed before the watch was started. -/
theorem changes_noticed_once_watched {debounce : Duration} {moves : List Move} {loader : Loader}
    {platform : Platform} {now : Nat} {location : String} {password : Secret} {storeType : String}
    {afterRead afterFollow : List Disturbance} {before started : Surroundings}
    {loaded : LoadedStore} (hservice : before.service = ((Usage.start debounce).run moves).service)
    (hload : loader.loadAmid platform now (some location) password storeType afterRead afterFollow
      before = (.ok loaded, started)) :
    let read := before.run afterRead
    let followed := read.run afterFollow
    ∃ source content, Location.resolve location = .ok source ∧
      before.files.read source.path = .ok content ∧
      followed.service.Follows platform ((read.files.find source.path).toOption.map Prod.fst)
        loaded.watch? ∧
      ∀ handle, loaded.watch? = some handle → ∀ later,
        let after := started.run later
        (∀ node, after.files.node? handle.place = some node →
          followed.files.node? handle.place ≠ some node → started.Notices after handle.place) ∧
        ∀ other, after.files.find source.path = .ok (handle.place, .file other) → other ≠ content →
          followed.files.node? handle.place = some (.file content) →
            started.Notices after handle.place := by
  intro read followed
  have hstart : (Usage.start debounce).Balanced := Service.balanced_start debounce
  have hbalanced : before.service.Balanced ((Usage.start debounce).run moves).handles := by
    rw [hservice]
    exact hstart.run moves
  obtain ⟨source, content, hresolve, hcontent, hfiles, hgained, hfollows⟩ :=
    loadAmid_spec hbalanced hload
  refine ⟨source, content, hresolve, hcontent, hfollows, fun handle hhandle later => ?_⟩
  rw [hhandle] at hgained
  have hheld := hgained.balanced.held handle (by simp) (hgained.opened handle (by simp))
  have hwatched : started.service.registry.watchId? handle.place ≠ none := by simp [hheld]
  have watches : started.Watches started _ handle.place :=
    ⟨hgained.balanced, hwatched, List.prefix_rfl, .inl rfl⟩
  have hnoticed : ∀ node, (started.run later).files.node? handle.place = some node →
      followed.files.node? handle.place ≠ some node →
        started.Notices (started.run later) handle.place := by
    intro node hnode hbefore
    rcases (watches.run later).noticed with hkept | hgone | hnotices
    · rw [hfiles, hnode] at hkept
      exact absurd hkept.symm hbefore
    · simp [hnode] at hgone
    · exact hnotices
  refine ⟨hnoticed, fun other hfind hother hbefore => ?_⟩
  have hnode := FileSystem.node?_of_locate (FileSystem.find_eq_ok_iff_locate.1 hfind)
  exact hnoticed _ hnode (by simp [hbefore, hother.symm])

/-- While a file is loaded another one is written, which is renamed over it after the load. -/
theorem renamed_file_noticed :
    let certificate (body : String) : Bytes := Text.Utf8.encode
      ("-----BEGIN CERTIFICATE-----\n" ++ body ++ "\n-----END CERTIFICATE-----\n")
    let before : Surroundings :=
      ⟨⟨[(["a.pem"], .file (certificate "AA=="))], [], []⟩, Service.ofDebounce ⟨200⟩, []⟩
    let written : Disturbance := .operation (.write "/b.pem" (certificate "AQ=="))
    let renamed : Disturbance := .operation (.rename "/b.pem" "/a.pem")
    before.service = ((Usage.start ⟨200⟩).run []).service ∧
      ∃ loaded started handle,
        (⟨⟨1000⟩⟩ : Loader).loadAmid .willing 0 (some "/a.pem") .empty "PEM" [written] [] before =
          (.ok loaded, started) ∧
        loaded.watch? = some handle ∧ started.Notices (started.run [renamed]) handle.place := by
  intro certificate before written renamed
  let result :=
    (⟨⟨1000⟩⟩ : Loader).loadAmid .willing 0 (some "/a.pem") .empty "PEM" [written] [] before
  have hplaces : (result.1.toOption.bind LoadedStore.watch?).map Handle.place = some ["a.pem"] := by
    decide +kernel
  obtain ⟨handle, hfound, hplace⟩ := Option.map_eq_some_iff.1 hplaces
  obtain ⟨loaded, hloaded, hhandle⟩ := Option.bind_eq_some_iff.1 hfound
  have hload : result = (.ok loaded, result.2) := by
    cases hresult : result.1 with
    | error error => simp [hresult, Except.toOption] at hloaded
    | ok other =>
      rw [hresult] at hloaded
      obtain rfl := Option.some.inj hloaded
      exact Prod.ext hresult rfl
  have hservice : before.service = ((Usage.start ⟨200⟩).run []).service := rfl
  obtain ⟨_, _, -, -, -, hnotices⟩ := changes_noticed_once_watched hservice hload
  refine ⟨hservice, loaded, result.2, handle, hload, hhandle, ?_⟩
  refine (hnotices handle hhandle [renamed]).1 (.file (certificate "AQ==")) ?_ ?_
  · rw [hplace]
    decide +kernel
  · rw [hplace]
    decide +kernel

/-- A load succeeds, and later its path leads to a file with another content than was read, but no
watch was started or no change of the file that it is on has been noticed. -/
def Loader.Misses (loader : Loader) (path : String) (storeType : String)
    (afterRead later : List Disturbance) (before : Surroundings) : Prop :=
  let result := loader.loadAmid .willing 0 (some path) .empty storeType afterRead [] before
  let after := result.2.run later
  ∃ loaded ∈ result.1.toOption,
    (after.files.read path).isOk ∧ after.files.read path ≠ before.files.read path ∧
      ∀ handle ∈ loaded.watch?, ¬ before.Notices after handle.place

instance (loader : Loader) (path : String) (storeType : String) (afterRead later : List Disturbance)
    (before : Surroundings) : Decidable (loader.Misses path storeType afterRead later before) :=
  inferInstanceAs (Decidable (∃ _ ∈ Except.toOption _, _))

/-- A file that is written over before its watch is started, one that is removed before and made
again after, and a link that is renamed over after: in each case the load has read another content,
and nothing is noticed. -/
theorem changes_missed :
    let certificate (body : String) : Bytes := Text.Utf8.encode
      ("-----BEGIN CERTIFICATE-----\n" ++ body ++ "\n-----END CERTIFICATE-----\n")
    let files : FileSystem := ⟨[(["a.pem"], .file (certificate "AA==")),
      (["b.pem"], .file (certificate "AQ==")), (["l"], .link "a.pem"),
      (["m"], .link "b.pem")], [], []⟩
    let before : Surroundings := ⟨files, Service.ofDebounce ⟨200⟩, []⟩
    let overwrite : Disturbance := .operation (.write "/a.pem" (certificate "AQ=="))
    let loader : Loader := ⟨⟨1000⟩⟩
    loader.Misses "/a.pem" "PEM" [overwrite] [] before ∧
      loader.Misses "/a.pem" "PEM" [.operation (.remove "/a.pem")] [overwrite] before ∧
      loader.Misses "/l" "PEM" [] [.operation (.rename "/m" "/l")] before := by
  decide +kernel

end CredentialWatch
