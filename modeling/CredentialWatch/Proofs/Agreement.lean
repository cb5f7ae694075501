import CredentialWatch.Proofs.FileUris
import CredentialWatch.Proofs.Loading
import CredentialWatch.Proofs.PathSpelling

/-!
# Equal configurations

Equality of configurations is decided by text: roles, components of paths, types and the addresses
of providers. What a store holds and where it is watched is decided by the files. Of two
configurations that are equal and that were loaded from the same files, both walks got somewhere, so
they got to the same file, and the same provider gave the same password; so both hold the same
credentials, and their handles are on the same watch.
-/
namespace CredentialWatch

namespace StoreConfiguration

theorem same_iff {left right : StoreConfiguration} :
    left.same right ↔ left.identity = right.identity :=
  beq_iff_eq

theorem equivalence_same : Equivalence fun left right : StoreConfiguration => left.same right where
  refl _ := same_iff.2 rfl
  symm h := same_iff.2 (same_iff.1 h).symm
  trans h h' := same_iff.2 ((same_iff.1 h).trans (same_iff.1 h'))

theorem hashed_eq_of_same {left right : StoreConfiguration} (h : left.same right) :
    left.hashed = right.hashed := by
  obtain ⟨hrole, hsource, htype, hprovider⟩ := Identity.mk.inj (same_iff.1 h)
  have hpath : left.source?.map (fun source => Path.hashed source.path) =
      right.source?.map fun source => Path.hashed source.path := by
    cases hleft : left.source? <;> cases hright : right.source? <;>
      simp [hleft, hright] at hsource ⊢
    exact Path.hashed_eq_of_components_eq hsource
  simp only [hashed, hrole, htype, hprovider]
  cases hleft : left.source? <;> cases hright : right.source? <;> simp_all

end StoreConfiguration

namespace Location

/-- A URI of the local machine names the path that its percent-encoded text stands for. -/
theorem resolve_uri {authority text path : String}
    (hauthority : authority = "" ∨ authority = "localhost") (habsolute : Path.isAbsolute text)
    (hdecoded : percentDecode text.toList = Text.Utf8.encode path) :
    resolve ("file://" ++ authority ++ text) = .ok ⟨path⟩ := by
  have hlocal : authority = "" ∨ Text.AsciiCase.same authority "localhost" :=
    hauthority.imp_right (congrArg Text.AsciiCase.fold · |> Text.AsciiCase.same_iff.2)
  have hnonempty : text ≠ "" := by
    rintro rfl
    simp [Path.isAbsolute] at habsolute
  have hlocation : "file://" ++ authority ++ text =
      "file" ++ ":" ++ ("//" ++ authority ++ text) := by
    apply String.toList_inj.1
    simp
  rw [hlocation, resolve_file_eq_ok_iff (Text.AsciiCase.same_iff.2 rfl)]
  exact ⟨text, .hierarchical hlocal (.inr habsolute), hnonempty, spells_iff.2 hdecoded⟩

end Location

section Loads

variable {world : World} {files : FileSystem} {password : Secret} {storeType : String}

/-- Two reads from sources whose paths have the same components give the same store, if both give
one. -/
theorem CredentialStore.read_unique {limit limit' : Duration} {location? location?' : Option String}
    {store store' : CredentialStore} {source? source?' : Option Source}
    (h : read files limit location? password storeType = .ok (store, source?))
    (h' : read files limit' location?' password storeType = .ok (store', source?'))
    (hsame : source?.map (fun source => Path.components source.path) =
      source?'.map fun source => Path.components source.path) : store = store' := by
  obtain ⟨hsource, ⟨rfl, rfl⟩ | ⟨source, format, place, content, credentials, rfl, hformat, hfind,
    hdecode, rfl⟩⟩ := read_cases h
  · obtain ⟨hsource', ⟨rfl, rfl⟩ | ⟨source', _, _, _, _, rfl, _⟩⟩ := read_cases h'
    · rfl
    · simp [hsource] at hsame
  · obtain ⟨hsource', ⟨rfl, rfl⟩ | ⟨source', format', place', content', credentials', rfl, hformat',
      hfind', hdecode', rfl⟩⟩ := read_cases h'
    · simp [hsource'] at hsame
    · obtain ⟨-, hcontent⟩ := FileSystem.find_unique (Option.some.inj hsame) hfind hfind'
      obtain rfl := Node.file.inj hcontent
      obtain rfl := Except.ok.inj (hformat.symm.trans hformat')
      obtain rfl := Except.ok.inj (hdecode.symm.trans hdecode')
      rfl

/-- A handle that a load gives out is on the file that the source leads to. -/
theorem Loader.startWatch_place {platform : Watch.Platform} {now : Nat} {source? : Option Source}
    {service? after? : Option Watch.Service} {handle : Watch.Handle}
    (h : startWatch platform files now source? service? = (some handle, after?)) :
    ∃ source node, source? = some source ∧ files.find source.path = .ok (handle.place, node) := by
  unfold startWatch at h
  split at h
  · rename_i source service
    split at h
    · rename_i handle' after hwatch
      cases h
      refine ⟨source, ?_⟩
      unfold Watch.Service.watchOn at hwatch
      split at hwatch
      · cases hwatch
      · rename_i place node hfind
        dsimp only at hwatch
        split at hwatch
        · cases hwatch
          exact ⟨node, rfl, hfind⟩
        · split at hwatch
          · cases hwatch
          · cases hwatch
            exact ⟨node, rfl, hfind⟩
    · cases h
  · cases h

/-- What a configuration is made from: the password that its provider gave, the store that was read
with it, and the watch that was started on the file of its source. -/
theorem StoreConfiguration.loadOn_eq_ok {platform : Watch.Platform} {now : Nat} {loader : Loader}
    {role : StoreRole} {location? storeType? : Option String} {provider : PasswordProvider}
    {service? after? : Option Watch.Service} {configuration : StoreConfiguration}
    (h : loadOn platform world now loader role location? provider storeType? service? =
      (.ok configuration, after?)) :
    configuration.provider = provider ∧
      configuration.storeType = storeType?.getD StoreFormat.defaultName ∧
      ∃ password, provider.source.password world = .ok password ∧
        CredentialStore.read world.files loader.limit location? password configuration.storeType =
          .ok (configuration.store, configuration.source?) ∧
        Loader.startWatch platform world.files now configuration.source? service? =
          (configuration.watch?, after?) := by
  unfold loadOn at h
  dsimp only at h
  split at h
  · cases h
  rename_i password hpassword
  split at h
  · cases h
  rename_i loaded later? hload
  cases h
  refine ⟨rfl, rfl, password, hpassword, ?_⟩
  unfold Loader.loadOn at hload
  split at hload
  · cases hload
  rename_i store source? hread
  obtain ⟨rfl, -⟩ := CredentialStore.read_cases hread
  cases hload
  exact ⟨hread, rfl⟩

end Loads

/-- A request for a store: what it is for, where and as what it is, by the number of the provider
that knows its password, and how it is to be loaded. -/
structure StoreRequest where
  role : StoreRole
  location? : Option String
  storeType? : Option String
  provider : Nat
  loader : Loader
  platform : Watch.Platform
  now : Nat

/-- Load what is requested, with the providers that are at the numbers. -/
def StoreRequest.load (request : StoreRequest) (providers : Nat → PasswordSource) (world : World)
    (service? : Option Watch.Service) :
      Except LoadError StoreConfiguration × Option Watch.Service :=
  StoreConfiguration.loadOn request.platform world request.now request.loader request.role
    request.location? ⟨request.provider, providers request.provider⟩ request.storeType? service?

section Agreement

variable {providers : Nat → PasswordSource} {world : World} {request request' : StoreRequest}
  {service? service?' after? after?' : Option Watch.Service} {left right : StoreConfiguration}

/-- Equal configurations hold the same store. -/
theorem store_eq_of_same (hleft : request.load providers world service? = (.ok left, after?))
    (hright : request'.load providers world service?' = (.ok right, after?'))
    (hsame : left.same right) : left.store = right.store := by
  obtain ⟨hrole, hsource, htype, hprovider⟩ :=
    StoreConfiguration.Identity.mk.inj (StoreConfiguration.same_iff.1 hsame)
  obtain ⟨hleftProvider, -, password, hpassword, hread, -⟩ := StoreConfiguration.loadOn_eq_ok hleft
  obtain ⟨hrightProvider, -, password', hpassword', hread', -⟩ :=
    StoreConfiguration.loadOn_eq_ok hright
  have hnumber : request.provider = request'.provider := by
    rw [hleftProvider, hrightProvider] at hprovider
    exact hprovider
  rw [hnumber] at hpassword
  obtain rfl := Except.ok.inj (hpassword.symm.trans hpassword')
  rw [← htype] at hread'
  exact CredentialStore.read_unique hread hread' hsource

/-- Equal configurations that are watched are watched on the same file. -/
theorem place_eq_of_same (hleft : request.load providers world service? = (.ok left, after?))
    (hright : request'.load providers world service?' = (.ok right, after?'))
    (hsame : left.same right) {handle handle' : Watch.Handle} (hhandle : left.watch? = some handle)
    (hhandle' : right.watch? = some handle') : handle.place = handle'.place := by
  obtain ⟨-, hsource, -⟩ := StoreConfiguration.Identity.mk.inj (StoreConfiguration.same_iff.1 hsame)
  obtain ⟨-, -, _, -, -, hwatch⟩ := StoreConfiguration.loadOn_eq_ok hleft
  obtain ⟨-, -, _, -, -, hwatch'⟩ := StoreConfiguration.loadOn_eq_ok hright
  rw [hhandle] at hwatch
  rw [hhandle'] at hwatch'
  obtain ⟨source, node, hleftSource, hfind⟩ := Loader.startWatch_place hwatch
  obtain ⟨source', node', hrightSource, hfind'⟩ := Loader.startWatch_place hwatch'
  rw [hleftSource, hrightSource] at hsource
  exact (FileSystem.find_unique (Option.some.inj hsource) hfind hfind').1

/-- A store whose file has an open handle is watched through the watch of that handle. -/
theorem joins_watch {service : Watch.Service} {handles : List Watch.Handle}
    {handle handle' : Watch.Handle} (balanced : service.Balanced handles)
    (hright : request'.load providers world (some service) = (.ok right, after?'))
    (hhandle' : right.watch? = some handle') (hmem : handle ∈ handles)
    (hopen : handle.released = false) (hplace : handle.place = handle'.place) :
    ∃ after, after?' = some after ∧ handle'.id = handle.id ∧
      after.registry.watchId? handle.place = some handle.id := by
  have hspec := configuration_spec
    (startWatch_spec balanced request'.platform world.files request'.now) request'.loader
    request'.role request'.location? ⟨request'.provider, providers request'.provider⟩
    request'.storeType?
  simp only [StoreRequest.load] at hright
  rw [hright] at hspec
  obtain ⟨after, rfl, hgained, -⟩ := hspec
  rw [hhandle'] at hgained
  have hheld := hgained.balanced.held handle (List.mem_append_left _ hmem) hopen
  have hheld' := hgained.balanced.held handle' (by simp) (hgained.opened handle' (by simp))
  rw [← hplace, hheld] at hheld'
  exact ⟨after, rfl, (Option.some.inj hheld').symm, hheld⟩

end Agreement

/-- Equality of configurations is an equivalence relation, and equal configurations feed the same
data to a hasher. Spellings of a path that differ in repeated slashes, in dots behind a slash or in
a slash at the end are the same, and a file URI names the path that it spells in whatever way it is
encoded. Two configurations that are loaded from one state of files and environment and that are
equal hold the same store; if both are watched, then at the same path. If they are loaded with one
service and the first handle is still open when the second one is loaded, then both handles are on
one watch. -/
theorem equal_configurations_agree :
    (Equivalence fun left right : StoreConfiguration => left.same right) ∧
    (∀ left right : StoreConfiguration, left.same right → left.hashed = right.hashed) ∧
    (∀ front rest,
      Path.same (front ++ "/" ++ ("/" ++ rest)) (front ++ "/" ++ rest) ∧
      Path.same (front ++ "/" ++ ("./" ++ rest)) (front ++ "/" ++ rest) ∧
      (front ≠ "" → Path.same (front ++ "/") front ∧ Path.same (front ++ "/.") front)) ∧
    (∀ authority text path, authority = "" ∨ authority = "localhost" → Path.isAbsolute text →
      Location.percentDecode text.toList = Text.Utf8.encode path →
      Location.resolve ("file://" ++ authority ++ text) = .ok ⟨path⟩) ∧
    (∀ (providers : Nat → PasswordSource) (world : World) (request request' : StoreRequest)
      (service? service?' after? after?' : Option Watch.Service) (left right : StoreConfiguration),
      request.load providers world service? = (.ok left, after?) →
      request'.load providers world service?' = (.ok right, after?') → left.same right →
      left.store = right.store ∧
        ∀ path path', left.watchedPath? = some path → right.watchedPath? = some path' →
          path = path') ∧
    ∀ (providers : Nat → PasswordSource) (world : World) (request request' : StoreRequest)
      (debounce : Duration) (moves moves' : List Watch.Move) (service : Watch.Service)
      (after?' : Option Watch.Service) (left right : StoreConfiguration)
      (handle handle' : Watch.Handle),
      let before := (Watch.Usage.start debounce).run moves
      request.load providers world (some before.service) = (.ok left, some service) →
      left.watch? = some handle →
      let between := (Watch.Usage.mk service (before.handles ++ [handle])).run moves'
      handle ∈ between.handles →
      request'.load providers world (some between.service) = (.ok right, after?') →
      right.watch? = some handle' → left.same right →
      ∃ after, after?' = some after ∧ handle'.place = handle.place ∧ handle'.id = handle.id ∧
        after.registry.watchId? handle.place = some handle.id := by
  refine ⟨StoreConfiguration.equivalence_same, fun _ _ => StoreConfiguration.hashed_eq_of_same,
    fun front rest => ⟨(Path.same_repeated front rest).1, (Path.same_repeated front rest).2,
      Path.same_trailing⟩, fun _ _ _ => Location.resolve_uri, ?_, ?_⟩
  · intro providers world request request' service? service?' after? after?' left right hleft hright
      hsame
    refine ⟨store_eq_of_same hleft hright hsame, fun path path' hpath hpath' => ?_⟩
    obtain ⟨handle, hhandle, rfl⟩ := Option.map_eq_some_iff.1 hpath
    obtain ⟨handle', hhandle', rfl⟩ := Option.map_eq_some_iff.1 hpath'
    rw [place_eq_of_same hleft hright hsame hhandle hhandle']
  · intro providers world request request' debounce moves moves' service after?' left right handle
      handle' before hleft hhandle between hmem hright hhandle' hsame
    have hstart : (Watch.Usage.start debounce).Balanced := Watch.Service.balanced_start debounce
    have hbefore : before.Balanced := hstart.run moves
    have hspec := configuration_spec
      (startWatch_spec hbefore request.platform world.files request.now) request.loader
      request.role request.location? ⟨request.provider, providers request.provider⟩
      request.storeType?
    simp only [StoreRequest.load] at hleft
    rw [hleft] at hspec
    obtain ⟨_, hafter, hgained, -⟩ := hspec
    obtain rfl := Option.some.inj hafter
    rw [hhandle] at hgained
    have hbalanced : (Watch.Usage.mk service (before.handles ++ [handle])).Balanced :=
      hgained.balanced
    have hplace := place_eq_of_same hleft hright hsame hhandle hhandle'
    obtain ⟨after, hafter', hid, hwatch⟩ := joins_watch (hbalanced.run moves') hright hhandle' hmem
      (hgained.opened handle (by simp)) hplace
    exact ⟨after, hafter', hplace.symm, hid, hwatch⟩

/-- What a load gives out: the configuration, its handle and the service, if the store is
watched. -/
def watchedLoad? :
    Except LoadError StoreConfiguration × Option Watch.Service →
      Option (StoreConfiguration × Watch.Handle × Watch.Service)
  | (.ok configuration, some service) => configuration.watch?.map (configuration, ·, service)
  | _ => none

theorem watchedLoad?_eq_some {result : Except LoadError StoreConfiguration × Option Watch.Service}
    {configuration : StoreConfiguration} {handle : Watch.Handle} {service : Watch.Service}
    (h : watchedLoad? result = some (configuration, handle, service)) :
    result = (.ok configuration, some service) ∧ configuration.watch? = some handle := by
  unfold watchedLoad? at h
  split at h
  · obtain ⟨found, hfound, h⟩ := Option.map_eq_some_iff.1 h
    cases h
    exact ⟨rfl, hfound⟩
  · cases h

/-- A URI in which a letter is encoded, with a dot and a second slash in its path, joins the watch
of the plain path. -/
theorem encoded_uri_joins_watch :
    let pem := "-----BEGIN CERTIFICATE-----\nAA==\n-----END CERTIFICATE-----\n"
    let world : World := ⟨⟨[(["a.pem"], .file (Text.Utf8.encode pem))], [], []⟩, []⟩
    let request (location : String) : StoreRequest :=
      ⟨.trustStore, some location, some "PEM", 0, ⟨⟨1000⟩⟩, .willing, 0⟩
    let providers : Nat → PasswordSource := fun _ => .memory .empty
    ∃ left right service after handle handle',
      (request "/a.pem").load providers world (some (Watch.Service.ofDebounce ⟨200⟩)) =
        (.ok left, some service) ∧
      (request "file:////./%61.pem").load providers world (some service) =
        (.ok right, some after) ∧
      left.watch? = some handle ∧ right.watch? = some handle' ∧ left.same right ∧
      handle'.id = handle.id := by
  intro pem world request providers
  let first := watchedLoad? ((request "/a.pem").load providers world
    (some (Watch.Service.ofDebounce ⟨200⟩)))
  let second (service : Watch.Service) :=
    watchedLoad? ((request "file:////./%61.pem").load providers world (some service))
  have hloads : (first.bind fun (left, _, service) => (second service).bind fun (right, _) =>
      if left.same right then some () else none) = some () := by decide +kernel
  obtain ⟨⟨left, handle, service⟩, hfirst, hloads⟩ := Option.bind_eq_some_iff.1 hloads
  obtain ⟨⟨right, handle', after⟩, hsecond, hloads⟩ := Option.bind_eq_some_iff.1 hloads
  have hsame : left.same right := by
    by_contra h
    simp [h] at hloads
  obtain ⟨hleft, hhandle⟩ := watchedLoad?_eq_some hfirst
  obtain ⟨hright, hhandle'⟩ := watchedLoad?_eq_some hsecond
  obtain ⟨_, -, -, hid, -⟩ := equal_configurations_agree.2.2.2.2.2 providers world _ _ ⟨200⟩ [] []
    service (some after) left right handle handle' hleft hhandle (by simp [Watch.Usage.run])
    hright hhandle' hsame
  exact ⟨left, right, service, after, handle, handle', hleft, hright, hhandle, hhandle', hsame, hid⟩

end CredentialWatch
