import SkyAutoPlayer.Desktop.CatalogSearch

/-!
# A search through the cache is a search

What is published is the membership as of the last revision: the liked songs and the playlists from
before a change, until the change has bumped its revision. Every cached order of the current
generation is the one that the published memberships give, and whoever captured the current revision
captured what is published. So an order that is found under a key is the one the search computes.
-/

namespace SkyAutoPlayer.Desktop

open Foundation AppCore NativeAdapters

/-- The memberships as of their last revisions. -/
structure Published where
  likedSongs : LikedSongs
  manifest : LibraryManifestV1

variable {tables : CatalogTables} {published republished : Published} {runtime after : SearchRuntime}
  {choice : SearchChoice} {request : CatalogSearchRequest} {capture : SearchCapture}
  {window : SearchWindow} {call next : SearchCall}

/-- What the published memberships allow in a scope. -/
def ScopeAllows (published : Published) (catalog : CatalogState) (allowed : Option (Finset String)) :
    CatalogSearchScope → Prop
  | .all => allowed =
      if catalog.libraryMembership.card ≠ catalog.index.entries.length then
        some catalog.libraryMembership
      else none
  | .builtin => allowed = some catalog.builtinMembership
  | .liked => allowed = some published.likedSongs.ids
  | .playlist id =>
    ∃ songs, playlistSongs id published.manifest = some songs ∧ allowed = some songs.toFinset

/-- A scope allows one set. -/
theorem ScopeAllows.unique {catalog : CatalogState} {scope : CatalogSearchScope}
    {allowed other : Option (Finset String)} (h : ScopeAllows published catalog allowed scope)
    (hother : ScopeAllows published catalog other scope) : allowed = other := by
  cases scope with
  | all | liked | builtin => exact h.trans hother.symm
  | playlist id =>
    obtain ⟨songs, hsongs, rfl⟩ := h
    obtain ⟨others, hothers, rfl⟩ := hother
    rw [hsongs] at hothers
    rw [Option.some.inj hothers]

/-- The revision of a scope's membership. -/
def CatalogSearchCache.IsCurrent (cache : CatalogSearchCache) (revision : ℕ) :
    CatalogSearchScope → Prop
  | .liked => revision = cache.likedMembershipRevision
  | .playlist _ => revision = cache.playlistMembershipRevision
  | .all | .builtin => True

/-- A cached order of the current generation is what the published memberships give. -/
structure OrderFresh (tables : CatalogTables) (published : Published) (runtime : SearchRuntime)
    (entry : CacheEntry CatalogSearchKey CatalogSearchOrder) : Prop where
  generation_le : entry.key.generation ≤ runtime.catalog.index.generation
  current : runtime.cache.IsCurrent entry.key.membershipRevision entry.key.scope
  order : entry.key.generation = runtime.catalog.index.generation →
    ∃ allowed, ScopeAllows published runtime.catalog allowed entry.key.scope ∧
      runtime.catalog.index.searchOrderWithAllowedIds tables entry.key.query none allowed =
        .ok entry.value

/-- Liked songs captured with the current revision are the published ones. -/
structure LikedFresh (published : Published) (runtime : SearchRuntime) (likedSongs : LikedSongs)
    (revision : ℕ) : Prop where
  revision_le : revision ≤ runtime.cache.likedMembershipRevision
  liked : revision = runtime.cache.likedMembershipRevision → likedSongs = published.likedSongs

/-- A playlist captured with the current revision is the published one. -/
structure PlaylistFresh (published : Published) (runtime : SearchRuntime) (id : String)
    (allowed : Finset String) (revision : ℕ) : Prop where
  revision_le : revision ≤ runtime.cache.playlistMembershipRevision
  songs : revision = runtime.cache.playlistMembershipRevision →
    ∃ songs, playlistSongs id published.manifest = some songs ∧ allowed = songs.toFinset

/-- What a search captured is published if its revisions are current. -/
structure CaptureFresh (published : Published) (runtime : SearchRuntime)
    (request : CatalogSearchRequest) (capture : SearchCapture) : Prop where
  liked : LikedFresh published runtime capture.likedSongs capture.likedRevision
  playlist : ∀ id, request.source = .playlist id → ∃ allowed revision,
    capture.playlist = some (allowed, revision) ∧ PlaylistFresh published runtime id allowed revision

/-- A search at the cache has captured the catalog of its generation. -/
structure WindowFresh (published : Published) (runtime : SearchRuntime) (window : SearchWindow) :
    Prop where
  capture : CaptureFresh published runtime window.request window.capture
  allowed : allowedIds window.request window.capture window.catalog = .ok window.allowed
  generation : window.catalog.index.checkGeneration window.request.generation = .ok ()
  generation_le : window.catalog.index.generation ≤ runtime.catalog.index.generation
  catalog : window.catalog.index.generation = runtime.catalog.index.generation →
    window.catalog = runtime.catalog

/-- What a call has captured is fresh, and a page is the one that its search computes. -/
def CallFresh (tables : CatalogTables) (published : Published) (runtime : SearchRuntime) :
    SearchCall → Prop
  | .playlist _ likedSongs revision => LikedFresh published runtime likedSongs revision
  | .lookup request capture => CaptureFresh published runtime request capture
  | .store window => WindowFresh published runtime window
  | .searched window page => page = window.directPage tables
  | _ => True

/-- What changes between two states leaves the revision, and what keeps the revision keeps what is
published under it. -/
structure Later (published : Published) (runtime : SearchRuntime) (republished : Published)
    (after : SearchRuntime) : Prop where
  liked_le : runtime.cache.likedMembershipRevision ≤ after.cache.likedMembershipRevision
  liked : runtime.cache.likedMembershipRevision = after.cache.likedMembershipRevision →
    published.likedSongs = republished.likedSongs
  playlists_le : runtime.cache.playlistMembershipRevision ≤ after.cache.playlistMembershipRevision
  playlists : runtime.cache.playlistMembershipRevision = after.cache.playlistMembershipRevision →
    ∀ id songs, playlistSongs id published.manifest = some songs →
      playlistSongs id republished.manifest = some songs
  generation_le : runtime.catalog.index.generation ≤ after.catalog.index.generation
  catalog : runtime.catalog.index.generation = after.catalog.index.generation →
    runtime.catalog = after.catalog

/-- Captured liked songs stay fresh. -/
theorem LikedFresh.later {likedSongs : LikedSongs} {revision : ℕ}
    (h : LikedFresh published runtime likedSongs revision)
    (hlater : Later published runtime republished after) : LikedFresh republished after likedSongs revision where
  revision_le := h.revision_le.trans hlater.liked_le
  liked hcurrent := by
    have hsame : runtime.cache.likedMembershipRevision = after.cache.likedMembershipRevision :=
      Nat.le_antisymm hlater.liked_le (hcurrent ▸ h.revision_le)
    rw [h.liked (hcurrent.trans hsame.symm), hlater.liked hsame]

/-- A captured playlist stays fresh. -/
theorem PlaylistFresh.later {id : String} {allowed : Finset String} {revision : ℕ}
    (h : PlaylistFresh published runtime id allowed revision)
    (hlater : Later published runtime republished after) :
    PlaylistFresh republished after id allowed revision where
  revision_le := h.revision_le.trans hlater.playlists_le
  songs hcurrent := by
    have hsame : runtime.cache.playlistMembershipRevision = after.cache.playlistMembershipRevision :=
      Nat.le_antisymm hlater.playlists_le (hcurrent ▸ h.revision_le)
    obtain ⟨songs, hsongs, hallowed⟩ := h.songs (hcurrent.trans hsame.symm)
    exact ⟨songs, hlater.playlists hsame id songs hsongs, hallowed⟩

/-- What was captured stays fresh. -/
theorem CaptureFresh.later (h : CaptureFresh published runtime request capture)
    (hlater : Later published runtime republished after) : CaptureFresh republished after request capture where
  liked := h.liked.later hlater
  playlist id hsource := by
    obtain ⟨allowed, revision, hcapture, hfresh⟩ := h.playlist id hsource
    exact ⟨allowed, revision, hcapture, hfresh.later hlater⟩

/-- A search at the cache stays fresh. -/
theorem WindowFresh.later (h : WindowFresh published runtime window)
    (hlater : Later published runtime republished after) : WindowFresh republished after window where
  capture := h.capture.later hlater
  allowed := h.allowed
  generation := h.generation
  generation_le := h.generation_le.trans hlater.generation_le
  catalog hcurrent := by
    have hsame : runtime.catalog.index.generation = after.catalog.index.generation :=
      Nat.le_antisymm hlater.generation_le (hcurrent ▸ h.generation_le)
    rw [h.catalog (hcurrent.trans hsame.symm), hlater.catalog hsame]

/-- Every call stays fresh. -/
theorem CallFresh.later (h : CallFresh tables published runtime call)
    (hlater : Later published runtime republished after) : CallFresh tables republished after call := by
  cases call with
  | playlist request likedSongs revision => exact LikedFresh.later h hlater
  | lookup request capture => exact CaptureFresh.later h hlater
  | store window => exact WindowFresh.later h hlater
  | searched window page => exact h
  | snapshot | likedCheck | likedSet | likedInvalidate | likedCount | reloadSettings
  | reloadInvalidate | mutatePlaylists | invalidatePlaylists | applyComposition | invalidateAll
  | returned => trivial

/-- A cached order that outlives a change stays fresh. -/
theorem OrderFresh.later {entry : CacheEntry CatalogSearchKey CatalogSearchOrder}
    (h : OrderFresh tables published runtime entry) (hlater : Later published runtime republished after)
    (hliked : entry.key.scope.isLiked = true →
      runtime.cache.likedMembershipRevision = after.cache.likedMembershipRevision)
    (hplaylists : entry.key.scope.isPlaylist = true →
      runtime.cache.playlistMembershipRevision = after.cache.playlistMembershipRevision) :
    OrderFresh tables republished after entry where
  generation_le := h.generation_le.trans hlater.generation_le
  current := by
    have hcurrent := h.current
    cases hscope : entry.key.scope with
    | liked =>
      rw [hscope] at hcurrent hliked
      exact hcurrent.trans (hliked rfl)
    | playlist id =>
      rw [hscope] at hcurrent hplaylists
      exact hcurrent.trans (hplaylists rfl)
    | all | builtin => trivial
  order hcurrent := by
    have hsame : runtime.catalog.index.generation = after.catalog.index.generation :=
      Nat.le_antisymm hlater.generation_le (hcurrent ▸ h.generation_le)
    obtain ⟨allowed, hallows, horder⟩ := h.order (hcurrent.trans hsame.symm)
    rw [hlater.catalog hsame] at hallows horder
    refine ⟨allowed, ?_, horder⟩
    cases hscope : entry.key.scope with
    | liked =>
      rw [hscope] at hallows hliked
      exact hallows.trans (by rw [hlater.liked (hliked rfl)])
    | playlist id =>
      rw [hscope] at hallows hplaylists
      obtain ⟨songs, hsongs, hallowed⟩ := hallows
      exact ⟨songs, hlater.playlists (hplaylists rfl) id songs hsongs, hallowed⟩
    | all | builtin =>
      rw [hscope] at hallows
      exact hallows

/-- A step that keeps every revision honest: no `set_song_liked` leaves changed liked songs behind its
failure, and no revision wraps around. -/
def keepsRevisions (choice : SearchChoice) (runtime : SearchRuntime) : SearchCall → Bool
  | .likedSet songId liked _ =>
    match choice.reloaded with
    | .error _ => true
    | .ok reloaded =>
      reloaded = runtime.likedSongs ||
        (setSongLiked choice.saveFailure songId liked reloaded).isOk
  | .likedInvalidate _ _ | .reloadInvalidate =>
    runtime.cache.likedMembershipRevision + 1 < 2 ^ 64
  | .invalidatePlaylists => runtime.cache.playlistMembershipRevision + 1 < 2 ^ 64
  | _ => true

/-- What is published is what the runtime has, unless a change has not bumped its revision yet, and
every cached order is fresh. -/
structure RuntimeFresh (tables : CatalogTables) (published : Published) (runtime : SearchRuntime) :
    Prop where
  liked : runtime.settingsLocked = false → published.likedSongs = runtime.likedSongs
  manifest : runtime.manifestLocked = false → published.manifest = runtime.libraryManifest.current
  orders : ∀ entry ∈ runtime.cache.orders.entries, OrderFresh tables published runtime entry

/-- What a step does to what is published: every captured membership, every cached order and what the
call has captured stay fresh. -/
def StepFresh (tables : CatalogTables) (published : Published) (runtime after : SearchRuntime)
    (next : SearchCall) : Prop :=
  ∃ republished, Later published runtime republished after ∧ RuntimeFresh tables republished after ∧
    CallFresh tables republished after next

/-- Nothing changes. -/
theorem Later.refl : Later published runtime published runtime where
  liked_le := Nat.le_refl _
  liked _ := rfl
  playlists_le := Nat.le_refl _
  playlists _ _ _ h := h
  generation_le := Nat.le_refl _
  catalog _ := rfl

/-- A step that leaves the runtime publishes nothing. -/
theorem StepFresh.of_same (h : RuntimeFresh tables published runtime)
    (hnext : CallFresh tables published runtime next) :
    StepFresh tables published runtime runtime next :=
  ⟨published, .refl, h, hnext⟩

/-- A checked generation is no further restriction. -/
theorem searchOrder_of_generation {index : CatalogIndex} {query : String} {generation : Option ℕ}
    {allowed : Option (Finset String)} (h : index.checkGeneration generation = .ok ()) :
    index.searchOrderWithAllowedIds tables query generation allowed =
      index.searchOrderWithAllowedIds tables query none allowed := by
  have hnone : index.checkGeneration none = .ok () := failIf_of_not _ (by simp)
  rw [CatalogIndex.searchOrderWithAllowedIds, CatalogIndex.searchOrderWithAllowedIds, h, hnone]

/-- What a search has when its checks pass. -/
theorem enter_eq_ok {catalog : CatalogState} {isFuzzy : Bool}
    (h : SearchWindow.enter tables request capture catalog = .ok (window, isFuzzy)) :
    window.request = request ∧ window.capture = capture ∧ window.catalog = catalog ∧
      allowedIds request capture catalog = .ok window.allowed ∧
      catalog.index.checkGeneration request.generation = .ok () := by
  simp only [SearchWindow.enter, Except.bind_eq_ok, Except.mapError_eq_ok, Except.pure_eq_ok] at h
  obtain ⟨allowed, hallowed, total, -, ⟨⟩, hwindow, fuzzy, -, hpair⟩ := h
  obtain ⟨rfl, rfl⟩ := Prod.mk.inj hpair
  simp only [CatalogIndex.validateSearchWindow, Except.bind_eq_ok] at hwindow
  obtain ⟨⟨⟩, hgeneration, -⟩ := hwindow
  exact ⟨rfl, rfl, rfl, hallowed, hgeneration⟩

/-- Replaced entries are those of the next generation. -/
theorem generation_replaceEntries {index replaced : CatalogIndex} {sources : List CatalogSourceEntry}
    (h : index.replaceEntries tables sources = .ok replaced) :
    replaced.generation = index.generation + 1 := by
  simp only [CatalogIndex.replaceEntries, Except.bind_eq_ok, okOr_eq_ok, checkedAdd_eq_some,
    Except.pure_eq_ok] at h
  obtain ⟨_, -, generation, ⟨-, hgeneration⟩, rfl⟩ := h
  exact hgeneration.symm

/-- The revision that a search captured is current when the cache says so. -/
theorem isCurrent_of_membershipIsCurrent (h : window.membershipIsCurrent runtime.cache = true) :
    runtime.cache.IsCurrent window.key.membershipRevision window.key.scope := by
  rw [SearchWindow.membershipIsCurrent] at h
  change runtime.cache.IsCurrent window.key.membershipRevision window.request.source.scope
  split at h
  · rename_i hscope
    rw [hscope]
    exact (of_decide_eq_true h).symm
  · rename_i hscope
    rw [hscope]
    exact (of_decide_eq_true h).symm
  all_goals
    rename_i hscope
    rw [hscope]
    trivial

/-- What a search of the current generation and revision is allowed is what is published. -/
theorem WindowFresh.allows (h : WindowFresh published runtime window)
    (hgeneration : window.catalog.index.generation = runtime.catalog.index.generation)
    (hcurrent : runtime.cache.IsCurrent window.key.membershipRevision window.key.scope) :
    ScopeAllows published runtime.catalog window.allowed window.key.scope := by
  have hallowed := h.allowed
  have hcatalog := h.catalog hgeneration
  change runtime.cache.IsCurrent (membershipRevision window.request window.capture)
    window.request.source.scope at hcurrent
  change ScopeAllows published runtime.catalog window.allowed window.request.source.scope
  rw [allowedIds] at hallowed
  rw [membershipRevision] at hcurrent
  cases hsource : window.request.source with
  | smart id =>
    rw [hsource] at hallowed hcurrent
    cases id with
    | all =>
      rw [hcatalog] at hallowed
      exact (Except.ok.inj hallowed).symm
    | liked =>
      rw [← Except.ok.inj hallowed, h.capture.liked.liked hcurrent]
      rfl
    | builtin =>
      simp only at hallowed
      split at hallowed
      · rw [hcatalog] at hallowed
        exact (Except.ok.inj hallowed).symm
      · cases hallowed
  | playlist id =>
    obtain ⟨allowed, revision, hcapture, hfresh⟩ := h.capture.playlist id hsource
    rw [hsource, hcapture] at hallowed hcurrent
    obtain ⟨songs, hsongs, hset⟩ := hfresh.songs hcurrent
    exact ⟨songs, hsongs, by rw [← Except.ok.inj hallowed, ← hset]; rfl⟩

/-- An order that is found under a search's key is the one the search computes. -/
theorem WindowFresh.order_of_hit (h : WindowFresh published runtime window)
    (hgeneration : window.catalog.index.generation = runtime.catalog.index.generation)
    {order : CatalogSearchOrder} (hentry : OrderFresh tables published runtime ⟨window.key, order⟩) :
    window.order tables = .ok order := by
  obtain ⟨allowed, hallows, horder⟩ := hentry.order hgeneration
  have hwindow := h.allows hgeneration hentry.current
  rw [SearchWindow.order, searchOrder_of_generation h.generation, h.catalog hgeneration,
    hwindow.unique hallows]
  exact horder

/-- The entry that a search stores is fresh. -/
theorem WindowFresh.entry (h : WindowFresh published runtime window)
    (hgeneration : window.catalog.index.generation = runtime.catalog.index.generation)
    (hcurrent : window.membershipIsCurrent runtime.cache = true) {order : CatalogSearchOrder}
    (horder : window.order tables = .ok order) :
    OrderFresh tables published runtime ⟨window.key, order⟩ where
  generation_le := h.generation_le
  current := isCurrent_of_membershipIsCurrent hcurrent
  order _ := by
    refine ⟨window.allowed, h.allows hgeneration (isCurrent_of_membershipIsCurrent hcurrent), ?_⟩
    rw [← h.catalog hgeneration, ← searchOrder_of_generation h.generation]
    exact horder

section Playlists

variable {failure : SaveFailure} {service changed : LibraryManifestService} {α : Type}

/-- What a mapped transaction makes of the service. -/
theorem run_map_transact {plan : LibraryManifestV1 → Except LibraryError (Option LibraryManifestV1 × α)}
    {f : α → Bool} {result : EStateM.Result LibraryError LibraryManifestService Bool}
    (h : ((do return f (← transact failure plan) : LibraryM Bool)).run service = result) :
    (∃ error, result = .error error service) ∨
      ∃ candidate reply, plan service.current = .ok (candidate, reply) ∧
        result = .ok (f reply) ((candidate.map fun next => ⟨next, next⟩).getD service) := by
  subst h
  rcases transact_cases failure plan service with ⟨error, hrun⟩ |
    ⟨candidate, reply, hplanned, ⟨rfl, hrun⟩ | ⟨next, rfl, -, hrun⟩⟩
  · left
    exact ⟨error, by rw [EStateM.run_bind_of_error hrun]⟩
  · right
    refine ⟨none, reply, hplanned, ?_⟩
    rw [EStateM.run_bind_of_ok hrun]
    rfl
  · right
    refine ⟨some next, reply, hplanned, ?_⟩
    rw [EStateM.run_bind_of_ok hrun]
    rfl

/-- Replacing a collection by one with its id and songs keeps the songs of every playlist. -/
theorem playlistSongs_set {collections : List Collection} {index : ℕ} {old new : Collection}
    (hold : collections[index]? = some old) (hid : new.id = old.id)
    (hsongs : new.songIds = old.songIds) (id : String) :
    ((collections.set index new).find? fun collection => collection.id = id).map (·.songIds) =
      (collections.find? fun collection => collection.id = id).map (·.songIds) := by
  induction collections generalizing index with
  | nil => cases hold
  | cons head rest ih =>
    cases index with
    | zero =>
      obtain rfl : head = old := by simpa using hold
      rw [List.set_cons_zero, List.find?_cons, List.find?_cons, hid]
      by_cases hhead : head.id = id
      · simp [hhead, hsongs]
      · simp [hhead]
    | succ index =>
      have hrest := ih (by simpa using hold)
      rw [List.set_cons_succ, List.find?_cons, List.find?_cons]
      by_cases hhead : head.id = id
      · simp [hhead]
      · simpa [hhead] using hrest

/-- A change that drops no order keeps the songs of every playlist there was. -/
theorem playlistSongs_of_kept {op : PlaylistOp}
    (h : (op.run failure).run service = .ok false changed) {id : String} {songs : List String}
    (hsongs : playlistSongs id service.current = some songs) :
    playlistSongs id changed.current = some songs := by
  cases op with
  | create newId name =>
    rcases run_map_transact h with ⟨error, herror⟩ | ⟨candidate, reply, hplan, hdone⟩
    · cases herror
    · obtain ⟨-, rfl⟩ := EStateM.Result.ok.inj hdone
      simp only [planCreate, Except.bind_eq_ok, Except.pure_eq_ok] at hplan
      obtain ⟨_, -, _, -, _, -, _, -, hpair⟩ := hplan
      obtain ⟨rfl, -⟩ := Prod.mk.inj hpair
      obtain ⟨collection, hfound, hsame⟩ := Option.map_eq_some_iff.mp hsongs
      change ((service.current.collections ++ [_]).find? _).map _ = _
      rw [List.find?_append, hfound]
      exact congrArg some hsame
  | rename oldId name =>
    rcases run_map_transact h with ⟨error, herror⟩ | ⟨candidate, reply, hplan, hdone⟩
    · cases herror
    · obtain ⟨-, rfl⟩ := EStateM.Result.ok.inj hdone
      simp only [planRename, Except.bind_eq_ok, Except.pure_eq_ok] at hplan
      obtain ⟨_, -, name, -, ⟨index, collection⟩, hfound, hpair⟩ := hplan
      obtain ⟨rfl, -⟩ := Prod.mk.inj hpair
      obtain ⟨hcollection, -⟩ := findCollection_eq_ok hfound
      rw [← hsongs]
      exact @playlistSongs_set _ index collection { collection with name } hcollection rfl rfl id
  | delete oldId =>
    rcases run_map_transact h with ⟨error, herror⟩ | ⟨candidate, reply, hplan, hdone⟩
    · cases herror
    · obtain ⟨hreply, rfl⟩ := EStateM.Result.ok.inj hdone
      simp only [planDelete, Except.bind_eq_ok] at hplan
      obtain ⟨_, -, hplan⟩ := hplan
      split at hplan
      · obtain ⟨rfl, -⟩ := Prod.mk.inj (Except.ok.inj hplan)
        exact hsongs
      · obtain ⟨-, rfl⟩ := Prod.mk.inj (Except.ok.inj hplan)
        cases hreply
  | addSongs | removeSongs | importAndAddSongs =>
    rcases run_map_transact h with ⟨error, herror⟩ | ⟨candidate, reply, -, hdone⟩
    · cases herror
    · cases (EStateM.Result.ok.inj hdone).1

/-- A change that fails keeps the service. -/
theorem service_of_failed {op : PlaylistOp} {error : LibraryError}
    (h : (op.run failure).run service = .error error changed) : changed = service := by
  cases op with
  | create | rename | delete | addSongs | removeSongs | importAndAddSongs =>
    rcases run_map_transact h with ⟨failed, herror⟩ | ⟨candidate, reply, -, hdone⟩
    · exact (EStateM.Result.error.inj herror).2
    · cases hdone

end Playlists

/-- A change that keeps the revisions and the catalog keeps what is published. -/
theorem Later.of_same (hcatalog : after.catalog = runtime.catalog)
    (hliked : after.cache.likedMembershipRevision = runtime.cache.likedMembershipRevision)
    (hplaylists : after.cache.playlistMembershipRevision = runtime.cache.playlistMembershipRevision) :
    Later published runtime published after where
  liked_le := hliked.ge
  liked _ := rfl
  playlists_le := hplaylists.ge
  playlists _ _ _ h := h
  generation_le := by rw [hcatalog]
  catalog _ := hcatalog.symm

/-- Cached orders that outlive a change stay fresh. -/
theorem orders_later (h : RuntimeFresh tables published runtime)
    (hlater : Later published runtime republished after)
    (hkept : ∀ entry ∈ after.cache.orders.entries, entry ∈ runtime.cache.orders.entries ∧
      (entry.key.scope.isLiked = true →
        runtime.cache.likedMembershipRevision = after.cache.likedMembershipRevision) ∧
      (entry.key.scope.isPlaylist = true →
        runtime.cache.playlistMembershipRevision = after.cache.playlistMembershipRevision)) :
    ∀ entry ∈ after.cache.orders.entries, OrderFresh tables republished after entry := by
  intro entry hentry
  obtain ⟨hold, hliked, hplaylists⟩ := hkept entry hentry
  exact (h.orders entry hold).later hlater hliked hplaylists

/-- Capturing a playlist is fresh. -/
theorem playlistStep_fresh {likedSongs : LikedSongs} {revision : ℕ}
    (h : RuntimeFresh tables published runtime)
    (hliked : LikedFresh published runtime likedSongs revision)
    (hstep : playlistStep request likedSongs revision runtime = some next) :
    CallFresh tables published runtime next := by
  rw [playlistStep] at hstep
  split at hstep
  · rename_i id hsource
    cases hstep
    refine ⟨hliked, fun other hother => ?_⟩
    rw [hsource] at hother
    cases hother
  · rename_i id hsource
    split_ifs at hstep with hinvalid hlocked
    · cases hstep
      trivial
    · have hmanifest := h.manifest (by simpa using hlocked)
      split at hstep
      · cases hstep
        trivial
      · rename_i songs hsongs
        cases hstep
        refine ⟨hliked, fun other hother => ?_⟩
        obtain rfl : id = other := LibrarySource.playlist.inj (hsource.symm.trans hother)
        refine ⟨_, _, rfl, Nat.le_refl _, fun _ => ⟨songs, ?_, rfl⟩⟩
        rw [hmanifest]
        exact hsongs

/-- Looking an order up is fresh. -/
theorem lookupStep_fresh (h : RuntimeFresh tables published runtime)
    (hcapture : CaptureFresh published runtime request capture) :
    StepFresh tables published runtime (lookupStep tables request capture runtime).1
      (lookupStep tables request capture runtime).2 := by
  unfold lookupStep
  split
  · exact .of_same h trivial
  · exact .of_same h trivial
  · rename_i window henter
    obtain ⟨hrequest, hwindowCapture, hcatalog, hallowed, hgeneration⟩ := enter_eq_ok henter
    have hwindow : WindowFresh published runtime window := by
      refine ⟨?_, ?_, ?_, ?_, fun _ => hcatalog⟩
      · rw [hrequest, hwindowCapture]
        exact hcapture
      · rw [hrequest, hwindowCapture, hcatalog]
        exact hallowed
      · rw [hrequest, hcatalog]
        exact hgeneration
      · rw [hcatalog]
    have horders : ∀ entry ∈ (runtime.cache.get window.key).2.orders.entries,
        entry ∈ runtime.cache.orders.entries := fun entry hentry =>
      WeightedCache.perm_get.mem_iff.mp hentry
    split
    · rename_i order hhit
      have hlater : Later published runtime published
          { runtime with cache := (runtime.cache.get window.key).2 } := .of_same rfl rfl rfl
      refine ⟨published, hlater, ⟨h.liked, h.manifest, ?_⟩, ?_⟩
      · exact orders_later h hlater fun entry hentry => ⟨horders entry hentry, fun _ => rfl, fun _ => rfl⟩
      · have horder := hwindow.order_of_hit (by rw [hcatalog])
          (h.orders _ (WeightedCache.mem_of_get hhit))
        change window.pageOf tables order = window.directPage tables
        rw [SearchWindow.directPage, horder]
        rfl
    · have hlater : Later published runtime published
          { runtime with cache := (runtime.cache.get window.key).2, catalogLocked := true } :=
        .of_same rfl rfl rfl
      refine ⟨published, hlater, ⟨h.liked, h.manifest, ?_⟩, hwindow.later hlater⟩
      exact orders_later h hlater fun entry hentry => ⟨horders entry hentry, fun _ => rfl, fun _ => rfl⟩

/-- Computing and storing an order is fresh. -/
theorem storeStep_fresh (h : RuntimeFresh tables published runtime)
    (hweight : runtime.cache.orders.weight =
      WeightedCache.totalSize indexCount runtime.cache.orders.entries)
    (hwindow : WindowFresh published runtime window) :
    StepFresh tables published runtime (storeStep tables window runtime).1
      (storeStep tables window runtime).2 := by
  have hunlocked : Later published runtime published { runtime with catalogLocked := false } :=
    .of_same rfl rfl rfl
  have hruntime : RuntimeFresh tables published { runtime with catalogLocked := false } :=
    ⟨h.liked, h.manifest, orders_later h hunlocked fun entry hentry =>
      ⟨hentry, fun _ => rfl, fun _ => rfl⟩⟩
  unfold storeStep
  split
  · rename_i error horder
    refine ⟨published, hunlocked, hruntime, ?_⟩
    change .error error = window.directPage tables
    rw [SearchWindow.directPage, horder]
    rfl
  · rename_i order horder
    have hdirect : window.directPage tables = window.pageOf tables order := by
      rw [SearchWindow.directPage, horder]
      rfl
    split
    · rename_i error hpage
      exact ⟨published, hunlocked, hruntime, hpage.symm.trans hdirect.symm⟩
    · rename_i page hpage
      split
      · rename_i hcurrent
        have hlater : Later published runtime published
            { runtime with
              catalogLocked := false, cache := runtime.cache.insert window.key order } :=
          .of_same rfl rfl rfl
        refine ⟨published, hlater, ⟨h.liked, h.manifest, ?_⟩, hpage.symm.trans hdirect.symm⟩
        intro entry hentry
        rcases WeightedCache.mem_insert hentry hweight with rfl | hold
        · exact (hwindow.entry hcurrent.1.symm hcurrent.2 horder).later hlater (fun _ => rfl) fun _ => rfl
        · exact (h.orders entry hold).later hlater (fun _ => rfl) fun _ => rfl
      · exact ⟨published, hunlocked, hruntime, hpage.symm.trans hdirect.symm⟩

/-- A step that keeps the cache and the catalog publishes nothing, as long as it keeps the lock of
what it changes. -/
theorem StepFresh.of_kept (h : RuntimeFresh tables published runtime)
    (hcache : after.cache = runtime.cache) (hcatalog : after.catalog = runtime.catalog)
    (hliked : after.settingsLocked = false → published.likedSongs = after.likedSongs)
    (hmanifest : after.manifestLocked = false →
      published.manifest = after.libraryManifest.current)
    (hnext : ∀ republished, CallFresh tables republished after next) :
    StepFresh tables published runtime after next := by
  have hlater : Later published runtime published after :=
    .of_same hcatalog (by rw [hcache]) (by rw [hcache])
  refine ⟨published, hlater, ⟨hliked, hmanifest, ?_⟩, hnext published⟩
  refine orders_later h hlater fun entry hentry => ?_
  rw [hcache] at hentry ⊢
  exact ⟨hentry, fun _ => rfl, fun _ => rfl⟩

/-- The liked songs are published when they bump their revision. -/
theorem invalidateLiked_fresh (h : RuntimeFresh tables published runtime)
    (hwraps : runtime.cache.likedMembershipRevision + 1 < 2 ^ 64)
    (hnext : ∀ republished after, CallFresh tables republished after next) :
    StepFresh tables published runtime
      { runtime with cache := runtime.cache.invalidateLiked, settingsLocked := false } next := by
  have hrevision : (runtime.cache.likedMembershipRevision + 1) % 2 ^ 64 =
      runtime.cache.likedMembershipRevision + 1 := Nat.mod_eq_of_lt hwraps
  have hlater : Later published runtime ⟨runtime.likedSongs, published.manifest⟩
      { runtime with cache := runtime.cache.invalidateLiked, settingsLocked := false } := by
    refine ⟨?_, ?_, Nat.le_refl _, fun _ _ _ hsongs => hsongs, Nat.le_refl _, fun _ => rfl⟩
    · change _ ≤ (runtime.cache.likedMembershipRevision + 1) % 2 ^ 64
      omega
    · intro hsame
      change _ = (runtime.cache.likedMembershipRevision + 1) % 2 ^ 64 at hsame
      omega
  refine ⟨_, hlater, ⟨fun _ => rfl, h.manifest, ?_⟩, hnext _ _⟩
  refine orders_later h hlater fun entry hentry => ?_
  obtain ⟨hold, hscope⟩ := List.mem_filter.mp hentry
  refine ⟨hold, fun hliked => ?_, fun _ => rfl⟩
  simp [hliked] at hscope

/-- The playlists are published when they bump their revision. -/
theorem invalidatePlaylists_fresh (h : RuntimeFresh tables published runtime)
    (hwraps : runtime.cache.playlistMembershipRevision + 1 < 2 ^ 64)
    (hnext : ∀ republished after, CallFresh tables republished after next) :
    StepFresh tables published runtime
      { runtime with cache := runtime.cache.invalidatePlaylists, manifestLocked := false } next := by
  have hrevision : (runtime.cache.playlistMembershipRevision + 1) % 2 ^ 64 =
      runtime.cache.playlistMembershipRevision + 1 := Nat.mod_eq_of_lt hwraps
  have hlater : Later published runtime ⟨published.likedSongs, runtime.libraryManifest.current⟩
      { runtime with cache := runtime.cache.invalidatePlaylists, manifestLocked := false } := by
    refine ⟨Nat.le_refl _, fun _ => rfl, ?_, ?_, Nat.le_refl _, fun _ => rfl⟩
    · change _ ≤ (runtime.cache.playlistMembershipRevision + 1) % 2 ^ 64
      omega
    · intro hsame
      change _ = (runtime.cache.playlistMembershipRevision + 1) % 2 ^ 64 at hsame
      omega
  refine ⟨_, hlater, ⟨h.liked, fun _ => rfl, ?_⟩, hnext _ _⟩
  refine orders_later h hlater fun entry hentry => ?_
  obtain ⟨hold, hscope⟩ := List.mem_filter.mp hentry
  refine ⟨hold, fun _ => rfl, fun hplaylist => ?_⟩
  simp [hplaylist] at hscope

/-- Setting a liked song waits for its revision, or changes nothing. -/
theorem likedSetStep_fresh {songId : String} {liked : Bool} {generation : Option ℕ}
    (h : RuntimeFresh tables published runtime) (hopen : runtime.settingsLocked = false)
    (hkeeps : keepsRevisions choice runtime (.likedSet songId liked generation) = true) :
    StepFresh tables published runtime (likedSetStep choice songId liked generation runtime).1
      (likedSetStep choice songId liked generation runtime).2 := by
  have hpublished := h.liked hopen
  rw [keepsRevisions] at hkeeps
  unfold likedSetStep
  cases hreloaded : choice.reloaded with
  | error error => exact .of_same h trivial
  | ok reloaded =>
    simp only [hreloaded] at hkeeps ⊢
    cases hset : setSongLiked choice.saveFailure songId liked reloaded with
    | error error =>
      have hsame : reloaded = runtime.likedSongs := by simpa [hset, Except.isOk, Except.toBool] using hkeeps
      exact .of_kept h rfl rfl (fun _ => hpublished.trans hsame.symm) h.manifest fun _ => trivial
    | ok updated =>
      simp only
      split
      · exact .of_kept h rfl rfl (fun hlocked => by cases hlocked) h.manifest fun _ => trivial
      · rename_i hsame
        exact .of_kept h rfl rfl (fun _ => hpublished.trans (not_not.mp hsame)) h.manifest
          fun _ => trivial

/-- A reload of the settings waits for its revision, or changes nothing. -/
theorem reloadStep_fresh (h : RuntimeFresh tables published runtime)
    (hopen : runtime.settingsLocked = false) :
    StepFresh tables published runtime (reloadStep choice runtime).1 (reloadStep choice runtime).2 := by
  have hpublished := h.liked hopen
  unfold reloadStep
  cases choice.reloaded with
  | error error => exact .of_same h trivial
  | ok reloaded =>
    simp only
    split
    · exact .of_kept h rfl rfl (fun hlocked => by cases hlocked) h.manifest fun _ => trivial
    · rename_i hsame
      exact .of_kept h rfl rfl (fun _ => hpublished.trans (not_not.mp hsame)) h.manifest
        fun _ => trivial

/-- A change of the playlists waits for its revision, or keeps the songs of every playlist. -/
theorem mutateStep_fresh {op : PlaylistOp} (h : RuntimeFresh tables published runtime)
    (hopen : runtime.manifestLocked = false) :
    StepFresh tables published runtime (mutateStep choice op runtime).1
      (mutateStep choice op runtime).2 := by
  have hpublished := h.manifest hopen
  unfold mutateStep
  cases hrun : (op.run choice.saveFailure).run runtime.libraryManifest with
  | error error service =>
    obtain rfl := service_of_failed hrun
    exact .of_kept h rfl rfl h.liked h.manifest fun _ => trivial
  | ok drops service =>
    cases drops with
    | true => exact .of_kept h rfl rfl h.liked (fun hlocked => by cases hlocked) fun _ => trivial
    | false =>
      have hlater : Later published runtime ⟨published.likedSongs, service.current⟩
          { runtime with libraryManifest := service } := by
        refine ⟨Nat.le_refl _, fun _ => rfl, Nat.le_refl _, fun _ id songs hsongs => ?_,
          Nat.le_refl _, fun _ => rfl⟩
        rw [hpublished] at hsongs
        exact playlistSongs_of_kept hrun hsongs
      exact ⟨_, hlater, ⟨h.liked, fun _ => rfl, orders_later h hlater fun entry hentry =>
        ⟨hentry, fun _ => rfl, fun _ => rfl⟩⟩, trivial⟩

/-- The next generation leaves every cached order behind. -/
theorem applyStep_fresh {invalidate : Bool} (h : RuntimeFresh tables published runtime) :
    StepFresh tables published runtime (applyStep tables choice invalidate runtime).1
      (applyStep tables choice invalidate runtime).2 := by
  unfold applyStep
  cases hreplaced : runtime.catalog.index.replaceEntries tables choice.composition.entries with
  | error error => exact .of_same h trivial
  | ok index =>
    have hgeneration := generation_replaceEntries hreplaced
    have hlater : Later published runtime published
        { runtime with
          catalog := ⟨index, choice.composition.libraryMembership,
            choice.composition.builtinMembership, choice.composition.builtinStatus⟩ } := by
      refine ⟨Nat.le_refl _, fun _ => rfl, Nat.le_refl _, fun _ _ _ hsongs => hsongs, ?_, ?_⟩
      · change runtime.catalog.index.generation ≤ index.generation
        omega
      · intro hsame
        change runtime.catalog.index.generation = index.generation at hsame
        omega
    refine ⟨published, hlater, ⟨h.liked, h.manifest, ?_⟩, ?_⟩
    · exact orders_later h hlater fun entry hentry => ⟨hentry, fun _ => rfl, fun _ => rfl⟩
    · cases invalidate <;> trivial

/-- Every step that keeps the revisions honest is fresh. -/
theorem searchStep_fresh (h : RuntimeFresh tables published runtime)
    (hweight : runtime.cache.orders.weight =
      WeightedCache.totalSize indexCount runtime.cache.orders.entries)
    (hcall : CallFresh tables published runtime call)
    (hkeeps : keepsRevisions choice runtime call = true)
    (hstep : searchStep tables choice runtime call = some (after, next)) :
    StepFresh tables published runtime after next := by
  cases call with
  | snapshot request =>
    obtain ⟨hopen, hnext⟩ := Option.ite_none_left_eq_some.mp hstep
    obtain ⟨rfl, rfl⟩ := Prod.mk.inj (Option.some.inj hnext)
    exact .of_same h ⟨Nat.le_refl _, fun _ => (h.liked (by simpa using hopen)).symm⟩
  | playlist request likedSongs revision =>
    obtain ⟨captured, hcaptured, hnext⟩ := Option.map_eq_some_iff.mp hstep
    obtain ⟨rfl, rfl⟩ := Prod.mk.inj hnext
    exact .of_same h (playlistStep_fresh h hcall hcaptured)
  | lookup request capture =>
    obtain ⟨-, hnext⟩ := Option.ite_none_left_eq_some.mp hstep
    obtain ⟨rfl, rfl⟩ := Prod.mk.inj (Option.some.inj hnext)
    exact lookupStep_fresh h hcall
  | store window =>
    obtain ⟨rfl, rfl⟩ := Prod.mk.inj (Option.some.inj hstep)
    exact storeStep_fresh h hweight hcall
  | searched | returned => cases hstep
  | likedCheck songId liked generation =>
    obtain ⟨-, hnext⟩ := Option.ite_none_left_eq_some.mp hstep
    split at hnext <;> obtain ⟨rfl, rfl⟩ := Prod.mk.inj (Option.some.inj hnext)
    · exact .of_same h trivial
    · exact .of_same h trivial
  | likedSet songId liked generation =>
    obtain ⟨hopen, hnext⟩ := Option.ite_none_left_eq_some.mp hstep
    obtain ⟨rfl, rfl⟩ := Prod.mk.inj (Option.some.inj hnext)
    exact likedSetStep_fresh h (by simpa using hopen) hkeeps
  | likedInvalidate likedSongs generation =>
    obtain ⟨rfl, rfl⟩ := Prod.mk.inj (Option.some.inj hstep)
    exact invalidateLiked_fresh h (of_decide_eq_true hkeeps) fun _ _ => trivial
  | likedCount likedSongs generation =>
    obtain ⟨-, hnext⟩ := Option.ite_none_left_eq_some.mp hstep
    obtain ⟨rfl, rfl⟩ := Prod.mk.inj (Option.some.inj hnext)
    exact .of_same h trivial
  | reloadSettings =>
    obtain ⟨hopen, hnext⟩ := Option.ite_none_left_eq_some.mp hstep
    obtain ⟨rfl, rfl⟩ := Prod.mk.inj (Option.some.inj hnext)
    exact reloadStep_fresh h (by simpa using hopen)
  | reloadInvalidate =>
    obtain ⟨rfl, rfl⟩ := Prod.mk.inj (Option.some.inj hstep)
    exact invalidateLiked_fresh h (of_decide_eq_true hkeeps) fun _ _ => trivial
  | mutatePlaylists op =>
    obtain ⟨hopen, hnext⟩ := Option.ite_none_left_eq_some.mp hstep
    obtain ⟨rfl, rfl⟩ := Prod.mk.inj (Option.some.inj hnext)
    exact mutateStep_fresh h (by simpa using hopen)
  | invalidatePlaylists =>
    obtain ⟨rfl, rfl⟩ := Prod.mk.inj (Option.some.inj hstep)
    exact invalidatePlaylists_fresh h (of_decide_eq_true hkeeps) fun _ _ => trivial
  | applyComposition invalidate =>
    obtain ⟨-, hnext⟩ := Option.ite_none_left_eq_some.mp hstep
    obtain ⟨rfl, rfl⟩ := Prod.mk.inj (Option.some.inj hnext)
    exact applyStep_fresh h
  | invalidateAll =>
    obtain ⟨rfl, rfl⟩ := Prod.mk.inj (Option.some.inj hstep)
    have hlater : Later published runtime published
        { runtime with cache := runtime.cache.invalidateAll } := .of_same rfl rfl rfl
    refine ⟨published, hlater, ⟨h.liked, h.manifest, fun entry hentry => ?_⟩, trivial⟩
    exact absurd hentry List.not_mem_nil

/-- The cached orders have distinct keys, their exact number of places and both bounds. -/
def CatalogSearchCache.Sound (cache : CatalogSearchCache) : Prop :=
  WeightedCache.Sound indexCount maxCachedCatalogSearchOrders maxCachedCatalogSearchIndices
    cache.orders

/-- A look-up keeps the cache sound. -/
theorem lookupStep_sound (h : runtime.cache.Sound) :
    (lookupStep tables request capture runtime).1.cache.Sound := by
  unfold lookupStep
  split
  · exact h
  · exact h
  · split <;> exact WeightedCache.Sound.get h

/-- Storing an order keeps the cache sound. -/
theorem storeStep_sound (h : runtime.cache.Sound) :
    (storeStep tables window runtime).1.cache.Sound := by
  unfold storeStep
  split
  · exact h
  · split
    · exact h
    · split
      · exact WeightedCache.Sound.insert h (by decide)
      · exact h

/-- Setting a liked song does not touch the cache yet. -/
theorem likedSetStep_cache {songId : String} {liked : Bool} {generation : Option ℕ} :
    (likedSetStep choice songId liked generation runtime).1.cache = runtime.cache := by
  unfold likedSetStep
  split
  · rfl
  · split
    · rfl
    · split <;> rfl

/-- A reload of the settings does not touch the cache yet. -/
theorem reloadStep_cache : (reloadStep choice runtime).1.cache = runtime.cache := by
  unfold reloadStep
  split
  · rfl
  · split <;> rfl

/-- A change of the playlists does not touch the cache yet. -/
theorem mutateStep_cache {op : PlaylistOp} :
    (mutateStep choice op runtime).1.cache = runtime.cache := by
  unfold mutateStep
  split <;> rfl

/-- A replaced catalog does not touch the cache yet. -/
theorem applyStep_cache {invalidate : Bool} :
    (applyStep tables choice invalidate runtime).1.cache = runtime.cache := by
  unfold applyStep
  split <;> rfl

/-- Every step keeps the cache sound. -/
theorem searchStep_sound (h : runtime.cache.Sound)
    (hstep : searchStep tables choice runtime call = some (after, next)) : after.cache.Sound := by
  cases call with
  | snapshot | likedCount =>
    obtain ⟨-, hnext⟩ := Option.ite_none_left_eq_some.mp hstep
    obtain ⟨rfl, -⟩ := Prod.mk.inj (Option.some.inj hnext)
    exact h
  | playlist =>
    obtain ⟨captured, -, hnext⟩ := Option.map_eq_some_iff.mp hstep
    obtain ⟨rfl, -⟩ := Prod.mk.inj hnext
    exact h
  | lookup request capture =>
    obtain ⟨-, hnext⟩ := Option.ite_none_left_eq_some.mp hstep
    have hafter : (lookupStep tables request capture runtime).1 = after :=
      congrArg Prod.fst (Option.some.inj hnext)
    exact hafter ▸ lookupStep_sound h
  | store window =>
    have hafter : (storeStep tables window runtime).1 = after :=
      congrArg Prod.fst (Option.some.inj hstep)
    exact hafter ▸ storeStep_sound h
  | searched | returned => cases hstep
  | likedCheck =>
    obtain ⟨-, hnext⟩ := Option.ite_none_left_eq_some.mp hstep
    split at hnext <;> obtain ⟨rfl, -⟩ := Prod.mk.inj (Option.some.inj hnext) <;> exact h
  | likedSet songId liked generation =>
    obtain ⟨-, hnext⟩ := Option.ite_none_left_eq_some.mp hstep
    have hafter : (likedSetStep choice songId liked generation runtime).1 = after :=
      congrArg Prod.fst (Option.some.inj hnext)
    rw [← hafter, likedSetStep_cache]
    exact h
  | likedInvalidate | reloadInvalidate =>
    obtain ⟨rfl, -⟩ := Prod.mk.inj (Option.some.inj hstep)
    exact WeightedCache.Sound.retain h fun key => !key.scope.isLiked
  | invalidatePlaylists =>
    obtain ⟨rfl, -⟩ := Prod.mk.inj (Option.some.inj hstep)
    exact WeightedCache.Sound.retain h fun key => !key.scope.isPlaylist
  | reloadSettings =>
    obtain ⟨-, hnext⟩ := Option.ite_none_left_eq_some.mp hstep
    have hafter : (reloadStep choice runtime).1 = after :=
      congrArg Prod.fst (Option.some.inj hnext)
    rw [← hafter, reloadStep_cache]
    exact h
  | mutatePlaylists op =>
    obtain ⟨-, hnext⟩ := Option.ite_none_left_eq_some.mp hstep
    have hafter : (mutateStep choice op runtime).1 = after :=
      congrArg Prod.fst (Option.some.inj hnext)
    rw [← hafter, mutateStep_cache]
    exact h
  | applyComposition invalidate =>
    obtain ⟨-, hnext⟩ := Option.ite_none_left_eq_some.mp hstep
    have hafter : (applyStep tables choice invalidate runtime).1 = after :=
      congrArg Prod.fst (Option.some.inj hnext)
    rw [← hafter, applyStep_cache]
    exact h
  | invalidateAll =>
    obtain ⟨rfl, -⟩ := Prod.mk.inj (Option.some.inj hstep)
    exact WeightedCache.Sound.empty

section Runs

variable {likedSongs : LikedSongs} {service : LibraryManifestService} {catalog : CatalogState}
  {actions : List (PoolAction SearchOp SearchChoice)} {pool : CallPool SearchRuntime SearchCall}

/-- Every step of a run keeps the revisions honest. -/
def KeepsRevisions (tables : CatalogTables) (likedSongs : LikedSongs)
    (service : LibraryManifestService) (catalog : CatalogState)
    (actions : List (PoolAction SearchOp SearchChoice)) : Prop :=
  (searchMachine tables likedSongs service catalog).Meets
    (CallPool.StepMeets fun choice call runtime => keepsRevisions choice runtime call = true)
    (searchMachine tables likedSongs service catalog).initial actions

/-- The cache is sound in every reachable state. -/
theorem searchCache_sound (h : (searchMachine tables likedSongs service catalog).Reachable pool) :
    pool.shared.cache.Sound := by
  have hinvariant : (searchMachine tables likedSongs service catalog).Invariant fun pool =>
      pool.shared.cache.Sound := by
    refine @CallProgram.invariant_of_steps _ _ _ _ (searchProgram tables)
      (.new likedSongs service catalog) (fun runtime _ => runtime.cache.Sound)
      WeightedCache.Sound.empty (fun _ _ _ h => h) ?_
    intro runtime calls index choice call after next h _ hstep
    exact searchStep_sound h hstep
  exact hinvariant.holds h

/-- In a run of honest steps every call has captured and computed what is published. -/
theorem searches_fresh
    (hrun : (searchMachine tables likedSongs service catalog).run
      (searchMachine tables likedSongs service catalog).initial actions = some pool)
    (hkeeps : KeepsRevisions tables likedSongs service catalog actions) :
    ∃ published, RuntimeFresh tables published pool.shared ∧
      ∀ call ∈ pool.calls, CallFresh tables published pool.shared call := by
  have hfresh : pool.shared.cache.Sound ∧ ∃ published, RuntimeFresh tables published pool.shared ∧
      ∀ call ∈ pool.calls, CallFresh tables published pool.shared call := by
    refine CallProgram.run_preserves_of_steps (P := fun runtime calls => runtime.cache.Sound ∧
      ∃ published, RuntimeFresh tables published runtime ∧
        ∀ call ∈ calls, CallFresh tables published runtime call) ?_ ?_ hrun hkeeps ?_
    · rintro runtime calls op ⟨hsound, published, hruntime, hcalls⟩
      refine ⟨hsound, published, hruntime, fun call hmem => ?_⟩
      rcases List.mem_append.mp hmem with hold | hnew
      · exact hcalls call hold
      · rw [List.mem_singleton.mp hnew]
        cases op <;> trivial
    · rintro runtime calls index choice call after next ⟨hsound, published, hruntime, hcalls⟩ hcall
        hstepKeeps hstep
      obtain ⟨republished, hlater, hafter, hnext⟩ := searchStep_fresh hruntime hsound.weight_eq
        (hcalls call (List.mem_of_getElem? hcall)) hstepKeeps hstep
      exact ⟨searchStep_sound hsound hstep, republished, hafter,
        forall_mem_set (fun other hother => (hcalls other hother).later hlater) hnext⟩
    · refine ⟨WeightedCache.Sound.empty, ⟨likedSongs, service.current⟩, ⟨fun _ => rfl, fun _ => rfl,
        fun _ hentry => absurd hentry List.not_mem_nil⟩, fun _ hcall => absurd hcall List.not_mem_nil⟩
  exact hfresh.2

/-- The cache is sound in every reachable state, and in a run of honest steps the page of every
ranked search is the one it would compute from what it captured. -/
theorem catalog_search_cache_invisible
    (hrun : (searchMachine tables likedSongs service catalog).run
      (searchMachine tables likedSongs service catalog).initial actions = some pool) :
    pool.shared.cache.Sound ∧
      (KeepsRevisions tables likedSongs service catalog actions →
        ∀ window page, .searched window page ∈ pool.calls → page = window.directPage tables) := by
  refine ⟨searchCache_sound ⟨actions, hrun⟩, fun hkeeps window page hsearched => ?_⟩
  obtain ⟨published, -, hcalls⟩ := searches_fresh hrun hkeeps
  exact hcalls _ hsearched

end Runs

/-- The tables of the scenario, for ASCII texts that a query equals. -/
def asciiTables : CatalogTables where
  nfkd := String.toList
  isCombiningMark _ := false
  caseFold text := String.ofList (asciiFolded text)
  toLowercase text := String.ofList (asciiFolded text)
  sha256 _ := Vector.replicate 32 0
  rank _ keys := List.range keys.length

/-- The song of the scenario. -/
def scenarioSong : String := "0123456789abcdef0123456789abcdef"

/-- A catalog with one song. -/
def scenarioCatalog : CatalogState where
  index := ⟨1, [⟨⟨scenarioSong, "Etude"⟩, "C:\\Music\\etude.txt", "etude"⟩]⟩
  libraryMembership := {scenarioSong}
  builtinMembership := ∅
  builtinStatus := .unavailable .resourceUnavailable

/-- A settings file in which the song is liked, and a store that fails or not. -/
def scenarioSettings (saveFailure : SaveFailure) : SearchChoice where
  reloaded := .ok ⟨{scenarioSong}⟩
  saveFailure := saveFailure
  composition := ⟨[], ∅, ∅, ∅, [], [], .unavailable .resourceUnavailable⟩

/-- The liked songs are searched, the song is liked or not in some steps, and the liked songs are
searched again in some steps. -/
def searchTwice (saveFailure : SaveFailure) (liked : Bool) (likedSteps searchSteps : ℕ) :
    List (PoolAction SearchOp SearchChoice) :=
  let choice := scenarioSettings saveFailure
  let request : CatalogSearchRequest := ⟨"etude", 0, 10, some 1, .smart .liked⟩
  [@PoolAction.begin SearchOp SearchChoice (.search request)] ++ List.replicate 4 (@PoolAction.advance SearchOp SearchChoice 0 choice) ++
    [@PoolAction.begin SearchOp SearchChoice (.setSongLiked scenarioSong liked (some 1))] ++
    List.replicate likedSteps (@PoolAction.advance SearchOp SearchChoice 1 choice) ++
    [@PoolAction.begin SearchOp SearchChoice (.search request)] ++ List.replicate searchSteps (@PoolAction.advance SearchOp SearchChoice 2 choice)

/-- A search that is over has the page of its order, as far as both succeed. -/
def hasDirectPage (tables : CatalogTables) : SearchCall → Bool
  | .searched window page => page.toOption = (window.directPage tables).toOption
  | _ => true

/-- A like is taken back whose settings file has it. Where the save fails after the reload, the second
search returns the page of the order that was cached before the reload. -/
theorem failed_unlike_serves_stale :
    ¬∀ (tables : CatalogTables) (likedSongs : LikedSongs) (service : LibraryManifestService)
      (catalog : CatalogState) (pool : CallPool SearchRuntime SearchCall),
      (searchMachine tables likedSongs service catalog).Reachable pool →
        ∀ window page, .searched window page ∈ pool.calls → page = window.directPage tables := by
  intro h
  have hcheck : ((searchMachine asciiTables ⟨∅⟩ ⟨⟨1, [], []⟩, ⟨1, [], []⟩⟩ scenarioCatalog).run
      (searchMachine asciiTables ⟨∅⟩ ⟨⟨1, [], []⟩, ⟨1, [], []⟩⟩ scenarioCatalog).initial
      (searchTwice (some "disk full") false 2 3)).any (fun pool =>
        pool.calls.any fun call => !hasDirectPage asciiTables call) = true := by decide +kernel
  obtain ⟨pool, hrun, hpool⟩ := (Option.any_eq_true _ _).mp hcheck
  obtain ⟨call, hmem, hstale⟩ := List.any_eq_true.mp hpool
  cases call with
  | searched window page =>
    have hpage := h _ _ _ _ pool ⟨_, hrun⟩ window page hmem
    simp [hasDirectPage, hpage] at hstale
  | snapshot | playlist | lookup | store | likedCheck | likedSet | likedInvalidate | likedCount
  | reloadSettings | reloadInvalidate | mutatePlaylists | invalidatePlaylists | applyComposition
  | invalidateAll | returned => cases hstale

/-- The page that a search has returned. -/
def SearchCall.found : SearchCall → Option CatalogPage
  | .searched _ (.ok page) => some page
  | _ => none

/-- A search that has returned a page is over. -/
theorem SearchCall.searched_of_found {call : SearchCall} {page : CatalogPage}
    (h : call.found = some page) : ∃ window, call = .searched window (.ok page) := by
  unfold SearchCall.found at h
  split at h
  · rename_i window other
    rw [Option.some.inj h]
    exact ⟨window, rfl⟩
  · cases h

/-- A like that is saved drops the order, and the second search finds the song. -/
theorem catalog_search_cache_invisible_scenario :
    ∃ pool : CallPool SearchRuntime SearchCall,
      (∃ window page, .searched window (.ok page) ∈ pool.calls ∧ page.items = [⟨scenarioSong, "Etude"⟩]) ∧
      pool.shared.cache.Sound ∧
        ∀ window page, .searched window page ∈ pool.calls → page = window.directPage asciiTables := by
  have hcheck : ((searchMachine asciiTables ⟨∅⟩ ⟨⟨1, [], []⟩, ⟨1, [], []⟩⟩ scenarioCatalog).run
      (searchMachine asciiTables ⟨∅⟩ ⟨⟨1, [], []⟩, ⟨1, [], []⟩⟩ scenarioCatalog).initial
      (searchTwice none true 3 4)).any (fun pool => pool.calls.any fun call =>
        call.found.any fun page => page.items = [⟨scenarioSong, "Etude"⟩]) = true := by
    decide +kernel
  have hkeeps : KeepsRevisions asciiTables ⟨∅⟩ ⟨⟨1, [], []⟩, ⟨1, [], []⟩⟩ scenarioCatalog
      (searchTwice none true 3 4) := by
    unfold KeepsRevisions
    decide +kernel
  obtain ⟨pool, hrun, hpool⟩ := (Option.any_eq_true _ _).mp hcheck
  obtain ⟨hsound, hpages⟩ := catalog_search_cache_invisible hrun
  obtain ⟨call, hmem, hany⟩ := List.any_eq_true.mp hpool
  obtain ⟨page, hpage, hitems⟩ := (Option.any_eq_true _ _).mp hany
  obtain ⟨window, rfl⟩ := SearchCall.searched_of_found hpage
  exact ⟨pool, ⟨window, page, hmem, of_decide_eq_true hitems⟩, hsound, hpages hkeeps⟩

end SkyAutoPlayer.Desktop
