import SkyAutoPlayer.Desktop.CatalogSearchFresh
import SkyAutoPlayer.Desktop.ViewportShift
import SkyAutoPlayer.Foundation.RunHistory

/-!
# A viewport is answered by its rows

The published likes are those of the last revision: the likes from before a change, until the change
has bumped the revision. What a request or the last answer has read is fresh as long as its generation
and its revision of the likes are the current ones, and both only grow. So an answer is accepted only
with the rows of one state that the runtime passed while the request was served.
-/

namespace SkyAutoPlayer.Desktop

open Foundation AppCore NativeAdapters

variable {tables : CatalogTables} {analyze : AnalysisKey → CachedSongAnalysis}
  {published republished : LikedSongs} {desktop changed : SearchRuntime}
  {runtime after : ViewportRuntime} {window : ViewportWindow} {key : ViewportProjectionKey}
  {response : CatalogViewportDto}

section Changes

variable {choice : SearchChoice} {call next : SearchCall}

/-- What changes the likes leaves their revision, and what changes the catalog its generation. -/
structure LikesLater (published : LikedSongs) (desktop : SearchRuntime) (republished : LikedSongs)
    (changed : SearchRuntime) : Prop where
  liked_le : desktop.cache.likedMembershipRevision ≤ changed.cache.likedMembershipRevision
  liked : desktop.cache.likedMembershipRevision = changed.cache.likedMembershipRevision →
    published = republished
  generation_le : desktop.catalog.index.generation ≤ changed.catalog.index.generation
  catalog : desktop.catalog.index.generation = changed.catalog.index.generation →
    desktop.catalog = changed.catalog

/-- The likes are the published ones, unless a change has not bumped their revision yet. -/
def LikesPublished (published : LikedSongs) (desktop : SearchRuntime) : Prop :=
  desktop.settingsLocked = false → published = desktop.likedSongs

/-- A change leaves the likes and the catalog. -/
structure SameLikes (desktop changed : SearchRuntime) : Prop where
  likedSongs : changed.likedSongs = desktop.likedSongs
  settingsLocked : changed.settingsLocked = desktop.settingsLocked
  revision : changed.cache.likedMembershipRevision = desktop.cache.likedMembershipRevision
  catalog : changed.catalog = desktop.catalog

/-- Nothing is published under another revision when the revision and the catalog stay. -/
theorem LikesLater.of_same
    (hrevision : changed.cache.likedMembershipRevision = desktop.cache.likedMembershipRevision)
    (hcatalog : changed.catalog = desktop.catalog) :
    LikesLater published desktop published changed where
  liked_le := Nat.le_of_eq hrevision.symm
  liked _ := rfl
  generation_le := by rw [hcatalog]
  catalog _ := hcatalog.symm

/-- A lookup only reorders the cache. -/
theorem lookupStep_keeps {request : CatalogSearchRequest} {capture : SearchCapture} :
    SameLikes desktop (lookupStep tables request capture desktop).1 := by
  unfold lookupStep
  split
  · exact ⟨rfl, rfl, rfl, rfl⟩
  · exact ⟨rfl, rfl, rfl, rfl⟩
  · simp only
    split
    · exact ⟨rfl, rfl, rfl, rfl⟩
    · exact ⟨rfl, rfl, rfl, rfl⟩

/-- A computed order only goes into the cache. -/
theorem storeStep_keeps {window : SearchWindow} :
    SameLikes desktop (storeStep tables window desktop).1 := by
  unfold storeStep
  simp only
  split
  · exact ⟨rfl, rfl, rfl, rfl⟩
  · split
    · exact ⟨rfl, rfl, rfl, rfl⟩
    · split
      · exact ⟨rfl, rfl, rfl, rfl⟩
      · exact ⟨rfl, rfl, rfl, rfl⟩

/-- A change of the playlists leaves everything else. -/
theorem mutateStep_keeps {op : PlaylistOp} : SameLikes desktop (mutateStep choice op desktop).1 := by
  unfold mutateStep
  split
  · exact ⟨rfl, rfl, rfl, rfl⟩
  · exact ⟨rfl, rfl, rfl, rfl⟩
  · exact ⟨rfl, rfl, rfl, rfl⟩

/-- What leaves the likes and the catalog publishes nothing. -/
theorem SameLikes.later (h : SameLikes desktop changed) (hpublished : LikesPublished published desktop) :
    ∃ republished, LikesLater published desktop republished changed ∧
      LikesPublished republished changed := by
  refine ⟨published, .of_same h.revision h.catalog, fun hopen => ?_⟩
  rw [h.settingsLocked] at hopen
  rw [h.likedSongs]
  exact hpublished hopen

/-- Setting a liked song waits for its revision, or changes nothing. -/
theorem likedSetStep_later {songId : String} {liked : Bool} {generation : Option ℕ}
    (hpublished : LikesPublished published desktop) (hopen : desktop.settingsLocked = false)
    (hkeeps : keepsRevisions choice desktop (.likedSet songId liked generation) = true) :
    ∃ republished, LikesLater published desktop republished
        (likedSetStep choice songId liked generation desktop).1 ∧
      LikesPublished republished (likedSetStep choice songId liked generation desktop).1 := by
  rw [keepsRevisions] at hkeeps
  have hlikes := hpublished hopen
  refine ⟨published, ?_⟩
  unfold likedSetStep
  cases hreloaded : choice.reloaded with
  | error error => exact ⟨.of_same rfl rfl, hpublished⟩
  | ok reloaded =>
    simp only [hreloaded] at hkeeps ⊢
    cases hset : setSongLiked choice.saveFailure songId liked reloaded with
    | error error =>
      have hsame : reloaded = desktop.likedSongs := by
        simpa [hset, Except.isOk, Except.toBool] using hkeeps
      exact ⟨.of_same rfl rfl, fun _ => hlikes.trans hsame.symm⟩
    | ok updated =>
      simp only
      split
      · exact ⟨.of_same rfl rfl, fun hlocked => by cases hlocked⟩
      · rename_i hsame
        exact ⟨.of_same rfl rfl, fun _ => hlikes.trans (not_not.mp hsame)⟩

/-- A reload of the settings waits for its revision, or changes nothing. -/
theorem reloadStep_later (hpublished : LikesPublished published desktop)
    (hopen : desktop.settingsLocked = false) :
    ∃ republished, LikesLater published desktop republished (reloadStep choice desktop).1 ∧
      LikesPublished republished (reloadStep choice desktop).1 := by
  have hlikes := hpublished hopen
  refine ⟨published, ?_⟩
  unfold reloadStep
  cases choice.reloaded with
  | error error => exact ⟨.of_same rfl rfl, hpublished⟩
  | ok reloaded =>
    simp only
    split
    · exact ⟨.of_same rfl rfl, fun hlocked => by cases hlocked⟩
    · rename_i hsame
      exact ⟨.of_same rfl rfl, fun _ => hlikes.trans (not_not.mp hsame)⟩

/-- The likes are published when they bump their revision. -/
theorem invalidateLiked_later (hwraps : desktop.cache.likedMembershipRevision + 1 < 2 ^ 64) :
    ∃ republished, LikesLater published desktop republished
        { desktop with cache := desktop.cache.invalidateLiked, settingsLocked := false } ∧
      LikesPublished republished
        { desktop with cache := desktop.cache.invalidateLiked, settingsLocked := false } := by
  have hrevision : (desktop.cache.likedMembershipRevision + 1) % 2 ^ 64 =
      desktop.cache.likedMembershipRevision + 1 := Nat.mod_eq_of_lt hwraps
  refine ⟨desktop.likedSongs, ⟨?_, ?_, Nat.le_refl _, fun _ => rfl⟩, fun _ => rfl⟩
  · change _ ≤ (desktop.cache.likedMembershipRevision + 1) % 2 ^ 64
    omega
  · intro hsame
    change _ = (desktop.cache.likedMembershipRevision + 1) % 2 ^ 64 at hsame
    omega

/-- The next catalog is of another generation. -/
theorem applyStep_later {invalidate : Bool} (hpublished : LikesPublished published desktop) :
    ∃ republished, LikesLater published desktop republished
        (applyStep tables choice invalidate desktop).1 ∧
      LikesPublished republished (applyStep tables choice invalidate desktop).1 := by
  refine ⟨published, ?_⟩
  unfold applyStep
  cases hreplaced : desktop.catalog.index.replaceEntries tables choice.composition.entries with
  | error error => exact ⟨.of_same rfl rfl, hpublished⟩
  | ok index =>
    have hgeneration := generation_replaceEntries hreplaced
    refine ⟨⟨Nat.le_refl _, fun _ => rfl, ?_, ?_⟩, hpublished⟩
    · change desktop.catalog.index.generation ≤ index.generation
      omega
    · intro hsame
      change desktop.catalog.index.generation = index.generation at hsame
      omega

/-- A step of a change keeps the likes published. A playlist has no likes. -/
theorem searchStep_later (hpublished : LikesPublished published desktop)
    (hkeeps : call = .invalidatePlaylists ∨ keepsRevisions choice desktop call = true)
    (hstep : searchStep tables choice desktop call = some (changed, next)) :
    ∃ republished, LikesLater published desktop republished changed ∧
      LikesPublished republished changed := by
  have hsame : SameLikes desktop desktop := ⟨rfl, rfl, rfl, rfl⟩
  cases call with
  | snapshot request =>
    obtain ⟨-, hnext⟩ := Option.ite_none_left_eq_some.mp hstep
    obtain ⟨rfl, -⟩ := Prod.mk.inj (Option.some.inj hnext)
    exact hsame.later hpublished
  | playlist request likedSongs revision =>
    obtain ⟨captured, -, hnext⟩ := Option.map_eq_some_iff.mp hstep
    obtain ⟨rfl, -⟩ := Prod.mk.inj hnext
    exact hsame.later hpublished
  | lookup request capture =>
    obtain ⟨-, hnext⟩ := Option.ite_none_left_eq_some.mp hstep
    have hafter : (lookupStep tables request capture desktop).1 = changed :=
      congrArg Prod.fst (Option.some.inj hnext)
    rw [← hafter]
    exact lookupStep_keeps.later hpublished
  | store window =>
    have hafter : (storeStep tables window desktop).1 = changed :=
      congrArg Prod.fst (Option.some.inj hstep)
    rw [← hafter]
    exact storeStep_keeps.later hpublished
  | searched window page => cases hstep
  | likedCheck songId liked generation =>
    obtain ⟨-, hnext⟩ := Option.ite_none_left_eq_some.mp hstep
    split at hnext
    · obtain ⟨rfl, -⟩ := Prod.mk.inj (Option.some.inj hnext)
      exact hsame.later hpublished
    · obtain ⟨rfl, -⟩ := Prod.mk.inj (Option.some.inj hnext)
      exact hsame.later hpublished
  | likedSet songId liked generation =>
    obtain ⟨hopen, hnext⟩ := Option.ite_none_left_eq_some.mp hstep
    have hafter : (likedSetStep choice songId liked generation desktop).1 = changed :=
      congrArg Prod.fst (Option.some.inj hnext)
    rw [← hafter]
    exact likedSetStep_later hpublished (by simpa using hopen) (by simpa using hkeeps)
  | likedInvalidate likedSongs generation =>
    obtain ⟨rfl, -⟩ := Prod.mk.inj (Option.some.inj hstep)
    exact invalidateLiked_later (by simpa [keepsRevisions] using hkeeps)
  | likedCount likedSongs generation =>
    obtain ⟨-, hnext⟩ := Option.ite_none_left_eq_some.mp hstep
    obtain ⟨rfl, -⟩ := Prod.mk.inj (Option.some.inj hnext)
    exact hsame.later hpublished
  | reloadSettings =>
    obtain ⟨hopen, hnext⟩ := Option.ite_none_left_eq_some.mp hstep
    have hafter : (reloadStep choice desktop).1 = changed :=
      congrArg Prod.fst (Option.some.inj hnext)
    rw [← hafter]
    exact reloadStep_later hpublished (by simpa using hopen)
  | reloadInvalidate =>
    obtain ⟨rfl, -⟩ := Prod.mk.inj (Option.some.inj hstep)
    exact invalidateLiked_later (by simpa [keepsRevisions] using hkeeps)
  | mutatePlaylists op =>
    obtain ⟨-, hnext⟩ := Option.ite_none_left_eq_some.mp hstep
    have hafter : (mutateStep choice op desktop).1 = changed :=
      congrArg Prod.fst (Option.some.inj hnext)
    rw [← hafter]
    exact mutateStep_keeps.later hpublished
  | invalidatePlaylists =>
    obtain ⟨rfl, -⟩ := Prod.mk.inj (Option.some.inj hstep)
    exact SameLikes.later ⟨rfl, rfl, rfl, rfl⟩ hpublished
  | applyComposition invalidate =>
    obtain ⟨-, hnext⟩ := Option.ite_none_left_eq_some.mp hstep
    have hafter : (applyStep tables choice invalidate desktop).1 = changed :=
      congrArg Prod.fst (Option.some.inj hnext)
    rw [← hafter]
    exact applyStep_later hpublished
  | invalidateAll =>
    obtain ⟨rfl, -⟩ := Prod.mk.inj (Option.some.inj hstep)
    exact SameLikes.later ⟨rfl, rfl, rfl, rfl⟩ hpublished
  | returned reply => cases hstep

end Changes

section Fresh

/-- The key is of the current generation and the current likes. -/
def ViewportProjectionKey.IsCurrent (key : ViewportProjectionKey) (desktop : SearchRuntime) : Prop :=
  key.generation = desktop.catalog.index.generation ∧
    key.likedMembershipRevision = desktop.cache.likedMembershipRevision

/-- What was read under a key holds of the published likes and the index as long as the key is
current. -/
structure UnderKey (published : LikedSongs) (desktop : SearchRuntime) (key : ViewportProjectionKey)
    (P : LikedSongs → CatalogIndex → Prop) : Prop where
  generation_le : key.generation ≤ desktop.catalog.index.generation
  liked_le : key.likedMembershipRevision ≤ desktop.cache.likedMembershipRevision
  holds : key.IsCurrent desktop → P published desktop.catalog.index

/-- The rows are the fresh ones of their key. -/
def ItemsFresh (analyze : AnalysisKey → CachedSongAnalysis) (published : LikedSongs)
    (desktop : SearchRuntime) (key : ViewportProjectionKey) (items : List CatalogRowDto) : Prop :=
  UnderKey published desktop key fun likedSongs index =>
    items = key.orderedSongIds.map (freshRow analyze likedSongs index key.settingsRevision)

/-- The rows that a window takes over are the fresh ones of all its songs but the entering one. -/
def RowsFresh (analyze : AnalysisKey → CachedSongAnalysis) (published : LikedSongs)
    (desktop : SearchRuntime) (window : ViewportWindow) (rows : ShiftedViewportRows) : Prop :=
  window.key.orderedSongIds[rows.insertionIndex]? = some rows.enteringSongId ∧
    UnderKey published desktop window.key fun likedSongs index =>
      rows.reusableRows = (window.key.orderedSongIds.eraseIdx rows.insertionIndex).map
        (freshRow analyze likedSongs index window.settings.analysisRevision)

/-- The answer is an accepted one to the request, with fresh rows. -/
def ResponseFresh (analyze : AnalysisKey → CachedSongAnalysis) (published : LikedSongs)
    (desktop : SearchRuntime) (window : ViewportWindow) (response : CatalogViewportDto) : Prop :=
  response = window.request.respond true response.items ∧
    ItemsFresh analyze published desktop window.key response.items

/-- The last answer is an accepted one for its key, with fresh rows. -/
structure ProjectionFresh (analyze : AnalysisKey → CachedSongAnalysis) (published : LikedSongs)
    (desktop : SearchRuntime) (projection : ViewportResponseProjection) : Prop where
  response : projection.response = ⟨true, projection.key.generation, projection.key.firstIndex,
    projection.key.lastIndex, projection.key.selectedSongId, projection.response.items⟩
  items : ItemsFresh analyze published desktop projection.key projection.response.items

/-- The rows of a request are those of its generation. -/
structure EntriesFresh (desktop : SearchRuntime) (request : CatalogViewportRequest)
    (entries : List CatalogRow) (selected : Option CatalogRow) : Prop where
  bounded : request.songIds.length ≤ maxViewportSongs
  generation_le : request.generation ≤ desktop.catalog.index.generation
  entries : request.generation = desktop.catalog.index.generation →
    viewportEntries request desktop.catalog.index = .ok (entries, selected)

/-- A window has the rows of its generation and a revision of the past. -/
structure ViewportWindow.Fresh (desktop : SearchRuntime) (window : ViewportWindow) : Prop where
  entries : EntriesFresh desktop window.request window.entries window.selected
  liked_le : window.settings.likedRevision ≤ desktop.cache.likedMembershipRevision

/-- The likes that were read with the current revision are the published ones. -/
structure LatestFresh (published : LikedSongs) (desktop : SearchRuntime) (latest : CatalogSettings) :
    Prop where
  liked_le : latest.likedRevision ≤ desktop.cache.likedMembershipRevision
  liked : latest.likedRevision = desktop.cache.likedMembershipRevision →
    latest.likedSongs = published

/-- The answer to a request has been served, and has the rows of its generation. -/
def AnswerFresh (analyze : AnalysisKey → CachedSongAnalysis)
    (served : CatalogViewportRequest → CatalogViewportDto → Prop) (desktop : SearchRuntime)
    (window : ViewportWindow) (analyzed : ViewportAnalyses) (latest : CatalogSettings) : Prop :=
  ∃ items, window.items analyzed.shifted analyzed.analyses latest.likedSongs = some items ∧
    served window.request (window.request.respond true items) ∧
    (window.request.generation = desktop.catalog.index.generation →
      items = window.key.orderedSongIds.map
        (freshRow analyze latest.likedSongs desktop.catalog.index window.settings.analysisRevision))

/-- What a check of the key is for is fresh. A cached answer is served at the read of the
revisions, if the generation turns out to be the current one. -/
def CurrentUse.Fresh (analyze : AnalysisKey → CachedSongAnalysis)
    (served : CatalogViewportRequest → CatalogViewportDto → Prop) (published : LikedSongs)
    (desktop : SearchRuntime) (window : ViewportWindow) : CurrentPoint → CurrentUse → Prop
  | .viewport, .cached response | .revisions, .cached response =>
    ResponseFresh analyze published desktop window response
  | .generation, .cached response =>
    window.request.generation = desktop.catalog.index.generation → served window.request response
  | .last, .cached response => served window.request response
  | _, .shift rows => RowsFresh analyze published desktop window rows
  | _, .publish response =>
    ResponseFresh analyze published desktop window response ∧ served window.request response

/-- What a call has read is fresh, and an accepted answer has been served. -/
def ViewportCall.Fresh (analyze : AnalysisKey → CachedSongAnalysis)
    (served : CatalogViewportRequest → CatalogViewportDto → Prop) (published : LikedSongs)
    (desktop : SearchRuntime) : ViewportCall → Prop
  | .entries request _ => request.songIds.length ≤ maxViewportSongs
  | .settings request _ found selected => EntriesFresh desktop request found selected
  | .cached window | .superseded window | .shift window => window.Fresh desktop
  | .current point window use =>
    window.Fresh desktop ∧ use.Fresh analyze served published desktop window point
  | .policy window shifted =>
    window.Fresh desktop ∧ ∀ rows ∈ shifted, RowsFresh analyze published desktop window rows
  | .analyze window shifted pending analyses =>
    window.Fresh desktop ∧ (∀ rows ∈ shifted, RowsFresh analyze published desktop window rows) ∧
      AnalysesFresh analyze window shifted pending analyses
  | .latest window analyzed =>
    window.Fresh desktop ∧
      (∀ rows ∈ analyzed.shifted, RowsFresh analyze published desktop window rows) ∧
      (analyzed.incomplete = false →
        AnalysesFresh analyze window analyzed.shifted [] analyzed.analyses)
  | .generation window analyzed read =>
    window.Fresh desktop ∧ LatestFresh published desktop read ∧
      (analyzed.incomplete = false → window.settingsAreCurrent read = true →
        window.request.generation = desktop.catalog.index.generation →
          AnswerFresh analyze served desktop window analyzed read)
  | .accept window analyzed read generationIsCurrent =>
    window.Fresh desktop ∧ LatestFresh published desktop read ∧
      (analyzed.incomplete = false → window.settingsAreCurrent read = true →
        generationIsCurrent = true → AnswerFresh analyze served desktop window analyzed read)
  | .store window response =>
    ResponseFresh analyze published desktop window response ∧ served window.request response
  | .returned request reply =>
    ∀ response, reply = .ok response → response.accepted = true → served request response
  | .panicked => False
  | .desktop _ | .patch _ | .effects _ _ | .requested _ => True

variable {served : CatalogViewportRequest → CatalogViewportDto → Prop}
  {request : CatalogViewportRequest} {projection : ViewportResponseProjection}
  {analyzed : ViewportAnalyses} {latest : CatalogSettings} {call next : ViewportCall}
  {rows : ShiftedViewportRows}

/-- What holds under a key holds later, as long as the key is current. -/
theorem UnderKey.later {P : LikedSongs → CatalogIndex → Prop}
    (h : UnderKey published desktop key P)
    (hlater : LikesLater published desktop republished changed) :
    UnderKey republished changed key P where
  generation_le := h.generation_le.trans hlater.generation_le
  liked_le := h.liked_le.trans hlater.liked_le
  holds hcurrent := by
    obtain ⟨hgeneration, hliked⟩ := hcurrent
    have hsameGeneration := Nat.le_antisymm hlater.generation_le (hgeneration ▸ h.generation_le)
    have hsameLiked := Nat.le_antisymm hlater.liked_le (hliked ▸ h.liked_le)
    have hholds := h.holds ⟨hgeneration.trans hsameGeneration.symm, hliked.trans hsameLiked.symm⟩
    rwa [hlater.liked hsameLiked, hlater.catalog hsameGeneration] at hholds

/-- The last answer stays fresh. -/
theorem ProjectionFresh.later (h : ProjectionFresh analyze published desktop projection)
    (hlater : LikesLater published desktop republished changed) :
    ProjectionFresh analyze republished changed projection :=
  ⟨h.response, UnderKey.later h.items hlater⟩

/-- The rows of a request stay those of its generation. -/
theorem EntriesFresh.later {entries : List CatalogRow} {selected : Option CatalogRow}
    (h : EntriesFresh desktop request entries selected)
    (hlater : LikesLater published desktop republished changed) :
    EntriesFresh changed request entries selected where
  bounded := h.bounded
  generation_le := h.generation_le.trans hlater.generation_le
  entries hgeneration := by
    have hsame := Nat.le_antisymm hlater.generation_le (hgeneration ▸ h.generation_le)
    rw [← hlater.catalog hsame]
    exact h.entries (hgeneration.trans hsame.symm)

/-- A window stays fresh. -/
theorem ViewportWindow.Fresh.later (h : window.Fresh desktop)
    (hlater : LikesLater published desktop republished changed) : window.Fresh changed :=
  ⟨h.entries.later hlater, h.liked_le.trans hlater.liked_le⟩

/-- The rows that a window takes over stay fresh. -/
theorem RowsFresh.later (h : RowsFresh analyze published desktop window rows)
    (hlater : LikesLater published desktop republished changed) :
    RowsFresh analyze republished changed window rows :=
  ⟨h.1, h.2.later hlater⟩

/-- An answer stays fresh. -/
theorem ResponseFresh.later (h : ResponseFresh analyze published desktop window response)
    (hlater : LikesLater published desktop republished changed) :
    ResponseFresh analyze republished changed window response :=
  ⟨h.1, UnderKey.later h.2 hlater⟩

/-- The likes that were read stay fresh. -/
theorem LatestFresh.later (h : LatestFresh published desktop latest)
    (hlater : LikesLater published desktop republished changed) :
    LatestFresh republished changed latest where
  liked_le := h.liked_le.trans hlater.liked_le
  liked hrevision := by
    have hsame := Nat.le_antisymm hlater.liked_le (hrevision ▸ h.liked_le)
    rw [h.liked (hrevision.trans hsame.symm), hlater.liked hsame]

/-- A generation of the past that is current now was current then, with the same catalog. -/
theorem LikesLater.catalog_of_current {generation : ℕ}
    (hlater : LikesLater published desktop republished changed)
    (hle : generation ≤ desktop.catalog.index.generation)
    (hcurrent : generation = changed.catalog.index.generation) :
    generation = desktop.catalog.index.generation ∧ desktop.catalog = changed.catalog := by
  have hsame := Nat.le_antisymm hlater.generation_le (hcurrent ▸ hle)
  exact ⟨hcurrent.trans hsame.symm, hlater.catalog hsame⟩

/-- A served answer stays one. -/
theorem AnswerFresh.later (h : AnswerFresh analyze served desktop window analyzed latest)
    (hwindow : window.Fresh desktop)
    (hlater : LikesLater published desktop republished changed) :
    AnswerFresh analyze served changed window analyzed latest := by
  obtain ⟨items, hitems, hserved, hrows⟩ := h
  refine ⟨items, hitems, hserved, fun hcurrent => ?_⟩
  obtain ⟨hgeneration, hcatalog⟩ :=
    hlater.catalog_of_current hwindow.entries.generation_le hcurrent
  rw [← hcatalog]
  exact hrows hgeneration

/-- What a check is for stays fresh. -/
theorem CurrentUse.Fresh.later {point : CurrentPoint} {use : CurrentUse}
    (h : use.Fresh analyze served published desktop window point) (hwindow : window.Fresh desktop)
    (hlater : LikesLater published desktop republished changed) :
    use.Fresh analyze served republished changed window point := by
  cases use with
  | cached response =>
    cases point with
    | viewport | revisions => exact ResponseFresh.later h hlater
    | generation =>
      intro hcurrent
      exact h (hlater.catalog_of_current hwindow.entries.generation_le hcurrent).1
    | last => exact h
  | shift rows =>
    have hrows : RowsFresh analyze published desktop window rows := by cases point <;> exact h
    cases point <;> exact hrows.later hlater
  | publish response =>
    have hboth : ResponseFresh analyze published desktop window response ∧
        served window.request response := by cases point <;> exact h
    cases point <;> exact ⟨hboth.1.later hlater, hboth.2⟩

/-- Every call stays fresh. -/
theorem ViewportCall.Fresh.later (h : call.Fresh analyze served published desktop)
    (hlater : LikesLater published desktop republished changed) :
    call.Fresh analyze served republished changed := by
  cases call with
  | desktop | patch | effects | requested => trivial
  | panicked => exact h
  | entries request revision => exact h
  | settings request revision entries selected => exact EntriesFresh.later h hlater
  | cached window | superseded window | shift window => exact ViewportWindow.Fresh.later h hlater
  | current point window use => exact ⟨h.1.later hlater, h.2.later h.1 hlater⟩
  | policy window shifted =>
    exact ⟨h.1.later hlater, fun rows hrows => (h.2 rows hrows).later hlater⟩
  | analyze window shifted pending analyses =>
    exact ⟨h.1.later hlater, fun rows hrows => (h.2.1 rows hrows).later hlater, h.2.2⟩
  | latest window analyzed =>
    exact ⟨h.1.later hlater, fun rows hrows => (h.2.1 rows hrows).later hlater, h.2.2⟩
  | generation window analyzed latest =>
    refine ⟨h.1.later hlater, h.2.1.later hlater, fun hcomplete hsettings hcurrent => ?_⟩
    have hgeneration := (hlater.catalog_of_current h.1.entries.generation_le hcurrent).1
    exact (h.2.2 hcomplete hsettings hgeneration).later h.1 hlater
  | accept window analyzed latest generationIsCurrent =>
    refine ⟨h.1.later hlater, h.2.1.later hlater, fun hcomplete hsettings hcurrent => ?_⟩
    exact (h.2.2 hcomplete hsettings hcurrent).later h.1 hlater
  | store window response => exact ⟨h.1.later hlater, h.2⟩
  | returned request reply => exact h

end Fresh

section Steps

variable {served : CatalogViewportRequest → CatalogViewportDto → Prop} {choice : ViewportChoice}
  {projection : ViewportResponseProjection} {rows : ShiftedViewportRows} {call next : ViewportCall}
  {analyzed : ViewportAnalyses} {latest : CatalogSettings}

/-- The request that a call serves, until it has returned. -/
def ViewportCall.serves : ViewportCall → Option CatalogViewportRequest
  | .requested request | .entries request _ | .settings request _ _ _ => some request
  | .cached window | .current _ window _ | .superseded window | .shift window | .policy window _
  | .analyze window _ _ _ | .latest window _ | .generation window _ _ | .accept window _ _ _
  | .store window _ => some window.request
  | .desktop _ | .patch _ | .effects _ _ | .returned _ _ | .panicked => none

/-- A step that keeps the revision of the likes honest: no `set_song_liked` leaves changed likes behind
its failure, and the revision does not wrap around. The revision of the playlists may. -/
def keepsLikes (choice : ViewportChoice) (runtime : ViewportRuntime) : ViewportCall → Bool
  | .desktop .invalidatePlaylists => true
  | .desktop call => keepsRevisions choice.search runtime.desktop call
  | _ => true

/-- The published likes are those of the runtime, and the last answer is fresh. -/
structure ViewportRuntime.Fresh (analyze : AnalysisKey → CachedSongAnalysis) (published : LikedSongs)
    (runtime : ViewportRuntime) : Prop where
  likes : LikesPublished published runtime.desktop
  projection : ∀ projection ∈ runtime.projection,
    ProjectionFresh analyze published runtime.desktop projection

/-- What a step does to what is published: what was read stays fresh, and so does what the call has
read. -/
def ViewportStepFresh (analyze : AnalysisKey → CachedSongAnalysis)
    (served : CatalogViewportRequest → CatalogViewportDto → Prop) (published : LikedSongs)
    (runtime after : ViewportRuntime) (next : ViewportCall) : Prop :=
  ∃ republished, LikesLater published runtime.desktop republished after.desktop ∧
    after.Fresh analyze republished ∧ next.Fresh analyze served republished after.desktop

/-- A step beside the likes and the catalog publishes nothing. -/
theorem ViewportStepFresh.of_desktop (h : runtime.Fresh analyze published)
    (hdesktop : after.desktop = runtime.desktop)
    (hprojection : ∀ projection ∈ after.projection,
      ProjectionFresh analyze published runtime.desktop projection)
    (hnext : next.Fresh analyze served published runtime.desktop) :
    ViewportStepFresh analyze served published runtime after next := by
  rw [ViewportStepFresh, hdesktop]
  refine ⟨published, .of_same rfl rfl, ⟨?_, ?_⟩, hnext⟩
  · rw [hdesktop]
    exact h.likes
  · rw [hdesktop]
    exact hprojection

/-- A step that leaves the runtime publishes nothing. -/
theorem ViewportStepFresh.of_runtime (h : runtime.Fresh analyze published)
    (hnext : next.Fresh analyze served published runtime.desktop) :
    ViewportStepFresh analyze served published runtime runtime next :=
  .of_desktop h rfl h.projection hnext

/-- When the settings and the generation of a window are current, its key is, and the current state
alone gives the fresh rows of its songs. -/
theorem scratch_of_current (hpublished : published = runtime.desktop.likedSongs)
    (hwindow : window.Fresh runtime.desktop)
    (hsettings : window.settingsAreCurrent runtime.catalogSettings = true)
    (hgeneration : window.request.generation = runtime.desktop.catalog.index.generation) :
    window.key.IsCurrent runtime.desktop ∧
      scratchViewport analyze window.request runtime =
        .ok (window.request.respond true (window.key.orderedSongIds.map
          (freshRow analyze published runtime.desktop.catalog.index
            window.settings.analysisRevision))) := by
  obtain ⟨hliked, -, hanalysis⟩ := of_decide_eq_true hsettings
  have hkey : window.key.IsCurrent runtime.desktop := ⟨hgeneration, hliked.symm⟩
  have hrevision : runtime.analysisRevision = window.settings.analysisRevision := hanalysis
  refine ⟨hkey, ?_⟩
  rw [scratchViewport_eq hwindow.entries.bounded (hwindow.entries.entries hgeneration), hpublished,
    hrevision]
  rfl

/-- The key that a request finds is its own, and the answer under it is fresh. -/
theorem cachedResponse_fresh (h : runtime.Fresh analyze published)
    (hcached : cachedResponse window.key runtime.projection = some response) :
    ResponseFresh analyze published runtime.desktop window response := by
  rw [cachedResponse] at hcached
  obtain ⟨projection, hfound, hresponse⟩ := Option.bind_eq_some_iff.mp hcached
  obtain ⟨hprojection, hkey⟩ := Option.filter_eq_some_iff.mp hfound
  obtain ⟨-, hresponse⟩ := Option.ite_none_left_eq_some.mp hresponse
  have hfresh := h.projection projection hprojection
  have hsame : projection.key = window.key := of_decide_eq_true hkey
  have hanswer := hfresh.response
  have hitems := hfresh.items
  obtain rfl := Option.some.inj hresponse
  rw [hsame] at hanswer hitems
  exact ⟨hanswer, hitems⟩

/-- The rows that a request takes over from the last answer are fresh. -/
theorem shiftedRows_fresh (h : runtime.Fresh analyze published) (hwindow : window.Fresh runtime.desktop)
    (hshifted : (runtime.projection.bind fun projection => projection.shiftedRows window.key) =
      some rows) :
    RowsFresh analyze published runtime.desktop window rows := by
  obtain ⟨projection, hprojection, hrows⟩ := Option.bind_eq_some_iff.mp hshifted
  obtain ⟨hreusable, hentering, hkept⟩ := shiftedRows_spec hrows
  obtain ⟨-, -, hgeneration, hsettings, hliked⟩ := isReusable_spec hreusable
  have hitems := (h.projection projection hprojection).items
  refine ⟨hentering, hwindow.entries.generation_le, hwindow.liked_le, fun hcurrent => ?_⟩
  apply hkept
  have hprevious : projection.key.IsCurrent runtime.desktop :=
    ⟨hgeneration.trans hcurrent.1, hliked.trans hcurrent.2⟩
  have hshown := hitems.holds hprevious
  rwa [hsettings] at hshown

/-- A step of the check that a key is current: a cached answer is served where the revisions are
read. -/
theorem currentStep_fresh {point : CurrentPoint} {use : CurrentUse} {outcome : CurrentPoint ⊕ Bool}
    (h : runtime.Fresh analyze published) (hwindow : window.Fresh runtime.desktop)
    (huse : use.Fresh analyze served published runtime.desktop window point)
    (hserved : ∀ answer, scratchViewport analyze window.request runtime = .ok answer →
      served window.request answer)
    (hstep : currentStep window runtime point = some outcome) :
    (use.proceed window outcome).Fresh analyze served published runtime.desktop := by
  cases use with
  | shift rows =>
    have hrows : RowsFresh analyze published runtime.desktop window rows := by cases point <;> exact huse
    cases outcome with
    | inl next => exact ⟨hwindow, by cases next <;> exact hrows⟩
    | inr isCurrent =>
      refine ⟨hwindow, fun other hother => ?_⟩
      cases isCurrent with
      | false => cases hother
      | true =>
        obtain rfl := Option.some.inj hother
        exact hrows
  | publish response =>
    have hboth : ResponseFresh analyze published runtime.desktop window response ∧
        served window.request response := by cases point <;> exact huse
    cases outcome with
    | inl next => exact ⟨hwindow, by cases next <;> exact hboth⟩
    | inr isCurrent =>
      cases isCurrent with
      | false =>
        intro returned hreturned _
        obtain rfl := Except.ok.inj hreturned
        exact hboth.2
      | true => exact hboth
  | cached response =>
    cases point with
    | viewport =>
      obtain rfl := Option.some.inj hstep
      by_cases hrevision : runtime.viewportRevision = window.revision
      · rw [if_pos hrevision]
        exact ⟨hwindow, huse⟩
      · rw [if_neg hrevision]
        exact hwindow
    | revisions =>
      obtain ⟨hopen, hnext⟩ := Option.ite_none_left_eq_some.mp hstep
      obtain rfl := Option.some.inj hnext
      by_cases hsettings : window.settingsAreCurrent runtime.catalogSettings = true
      · rw [if_pos hsettings]
        refine ⟨hwindow, fun hgeneration => ?_⟩
        obtain ⟨hanswer, hitems⟩ := huse
        obtain ⟨hkey, hscratch⟩ := scratch_of_current (h.likes (by simpa using hopen)) hwindow
          hsettings hgeneration
        have hrows := hitems.holds hkey
        rw [hanswer, hrows]
        exact hserved _ hscratch
      · rw [if_neg hsettings]
        exact hwindow
    | generation =>
      obtain ⟨-, hnext⟩ := Option.ite_none_left_eq_some.mp hstep
      obtain rfl := Option.some.inj hnext
      by_cases hgeneration : runtime.desktop.catalog.index.generation = window.key.generation
      · rw [if_pos hgeneration]
        exact ⟨hwindow, huse hgeneration.symm⟩
      · rw [if_neg hgeneration]
        exact hwindow
    | last =>
      obtain rfl := Option.some.inj hstep
      by_cases hrevision : runtime.viewportRevision = window.revision
      · rw [decide_eq_true hrevision]
        intro returned hreturned _
        obtain rfl := Except.ok.inj hreturned
        exact huse
      · rw [decide_eq_false hrevision]
        exact hwindow

/-- The rows of a complete answer are those of the state whose settings it has read last, if the
generation turns out to be the current one. -/
theorem latest_fresh (h : runtime.Fresh analyze published)
    (hopen : runtime.desktop.settingsLocked = false) (hwindow : window.Fresh runtime.desktop)
    (hrows : ∀ rows ∈ analyzed.shifted, RowsFresh analyze published runtime.desktop window rows)
    (hanalyses : AnalysesFresh analyze window analyzed.shifted [] analyzed.analyses)
    (hserved : ∀ answer, scratchViewport analyze window.request runtime = .ok answer →
      served window.request answer)
    (hsettings : window.settingsAreCurrent runtime.catalogSettings = true)
    (hgeneration : window.request.generation = runtime.desktop.catalog.index.generation) :
    AnswerFresh analyze served runtime.desktop window analyzed runtime.catalogSettings := by
  have hpublished := h.likes hopen
  obtain ⟨hkey, hscratch⟩ := scratch_of_current hpublished hwindow hsettings hgeneration
  obtain ⟨-, hlists⟩ := lists_of_viewportEntries (hwindow.entries.entries hgeneration)
  have hitems : window.items analyzed.shifted analyzed.analyses published =
      some (window.key.orderedSongIds.map (freshRow analyze published
        runtime.desktop.catalog.index window.settings.analysisRevision)) := by
    apply items_eq hlists hgeneration.symm hanalyses
    intro rows hmem
    exact ⟨(hrows rows hmem).1, (hrows rows hmem).2.holds hkey⟩
  have hlikes : runtime.catalogSettings.likedSongs = published := hpublished.symm
  rw [AnswerFresh, hlikes]
  exact ⟨_, hitems, hserved _ hscratch, fun _ => rfl⟩

/-- An answer that is published or returned has been served. -/
theorem publishCall_fresh (hwindow : window.Fresh runtime.desktop)
    (hresponse : ResponseFresh analyze published runtime.desktop window response)
    (hserved : served window.request response) :
    (publishCall window response).Fresh analyze served published runtime.desktop := by
  rw [publishCall]
  split
  · intro returned hreturned _
    obtain rfl := Except.ok.inj hreturned
    exact hserved
  · exact ⟨hwindow, hresponse, hserved⟩

/-- An accepted answer has been served, and its rows are fresh. -/
theorem acceptStep_fresh {generationIsCurrent : Bool} (hwindow : window.Fresh runtime.desktop)
    (hlatest : LatestFresh published runtime.desktop latest)
    (hanswer : analyzed.incomplete = false → window.settingsAreCurrent latest = true →
      generationIsCurrent = true →
        AnswerFresh analyze served runtime.desktop window analyzed latest) :
    (acceptStep window analyzed latest generationIsCurrent runtime).Fresh analyze served published
      runtime.desktop := by
  rw [acceptStep]
  split
  · rename_i haccepted
    simp only [Bool.and_eq_true, Bool.not_eq_true', decide_eq_true_eq] at haccepted
    obtain ⟨⟨⟨hcomplete, -⟩, hsettings⟩, hgeneration⟩ := haccepted
    obtain ⟨items, hitems, hserved, hrows⟩ := hanswer hcomplete hsettings hgeneration
    have hliked : latest.likedRevision = window.settings.likedRevision :=
      (of_decide_eq_true hsettings).1
    rw [hitems]
    apply publishCall_fresh hwindow _ hserved
    refine ⟨rfl, hwindow.entries.generation_le, hwindow.liked_le, fun hcurrent => ?_⟩
    rw [← hlatest.liked (hliked.trans hcurrent.2)]
    exact hrows hcurrent.1
  · intro returned hreturned haccepted
    obtain rfl := Except.ok.inj hreturned
    cases haccepted

/-- Every step that keeps the revision of the likes honest is fresh. -/
theorem viewportStep_fresh (h : runtime.Fresh analyze published)
    (hcall : call.Fresh analyze served published runtime.desktop)
    (hserved : ∀ request answer, call.serves = some request →
      scratchViewport analyze request runtime = .ok answer → served request answer)
    (hkeeps : keepsLikes choice runtime call = true)
    (hstep : viewportStep tables analyze choice runtime call = some (after, next)) :
    ViewportStepFresh analyze served published runtime after next := by
  cases call with
  | desktop call =>
    obtain ⟨⟨changed, reached⟩, hchanged, hnext⟩ := Option.map_eq_some_iff.mp hstep
    obtain ⟨rfl, rfl⟩ := Prod.mk.inj hnext
    have hhonest : call = .invalidatePlaylists ∨
        keepsRevisions choice.search runtime.desktop call = true := by
      by_cases hplaylists : call = .invalidatePlaylists
      · exact .inl hplaylists
      · rw [keepsLikes] at hkeeps
        · exact .inr hkeeps
        · exact hplaylists
    obtain ⟨republished, hlater, hpublished⟩ := searchStep_later h.likes hhonest hchanged
    exact ⟨republished, hlater, ⟨hpublished, fun projection hprojection =>
      (h.projection projection hprojection).later hlater⟩, trivial⟩
  | patch preparationSafe =>
    obtain ⟨-, hnext⟩ := Option.ite_none_left_eq_some.mp hstep
    obtain ⟨rfl, rfl⟩ := Prod.mk.inj (Option.some.inj hnext)
    exact .of_runtime h trivial
  | effects effects reached =>
    cases effects with
    | nil =>
      obtain ⟨rfl, rfl⟩ := Prod.mk.inj (Option.some.inj hstep)
      exact .of_runtime h trivial
    | cons effect rest =>
      obtain ⟨rfl, rfl⟩ := Prod.mk.inj (Option.some.inj hstep)
      cases effect with
      | invalidateProjection => exact .of_desktop h rfl (fun _ hprojection => by cases hprojection) trivial
      | bumpAnalysisRevision => exact .of_desktop h rfl h.projection trivial
  | requested request =>
    rw [viewportStep] at hstep
    split at hstep
    · obtain ⟨rfl, rfl⟩ := Prod.mk.inj (Option.some.inj hstep)
      exact .of_runtime h fun _ hreply => by cases hreply
    · rename_i hbounded
      obtain ⟨rfl, rfl⟩ := Prod.mk.inj (Option.some.inj hstep)
      exact .of_desktop h rfl h.projection (Nat.le_of_not_lt hbounded)
  | entries request revision =>
    obtain ⟨-, hnext⟩ := Option.ite_none_left_eq_some.mp hstep
    split at hnext
    · obtain ⟨rfl, rfl⟩ := Prod.mk.inj (Option.some.inj hnext)
      exact .of_runtime h fun _ hreply => by cases hreply
    · rename_i entries selected hentries
      obtain ⟨rfl, rfl⟩ := Prod.mk.inj (Option.some.inj hnext)
      have hgeneration := (lists_of_viewportEntries hentries).1
      exact .of_runtime h ⟨hcall, Nat.le_of_eq hgeneration.symm, fun _ => hentries⟩
  | settings request revision entries selected =>
    obtain ⟨-, hnext⟩ := Option.ite_none_left_eq_some.mp hstep
    obtain ⟨rfl, rfl⟩ := Prod.mk.inj (Option.some.inj hnext)
    exact .of_runtime h ⟨hcall, Nat.le_refl _⟩
  | cached window =>
    rw [viewportStep] at hstep
    split at hstep
    · obtain ⟨rfl, rfl⟩ := Prod.mk.inj (Option.some.inj hstep)
      exact .of_runtime h hcall
    · rename_i response hcached
      obtain ⟨rfl, rfl⟩ := Prod.mk.inj (Option.some.inj hstep)
      exact .of_runtime h ⟨hcall, cachedResponse_fresh h hcached⟩
  | current point window use =>
    obtain ⟨outcome, houtcome, hnext⟩ := Option.map_eq_some_iff.mp hstep
    obtain ⟨rfl, rfl⟩ := Prod.mk.inj hnext
    have hserves := fun answer => hserved window.request answer rfl
    exact .of_runtime h (currentStep_fresh h hcall.1 hcall.2 hserves houtcome)
  | superseded window =>
    rw [viewportStep] at hstep
    split at hstep
    · obtain ⟨rfl, rfl⟩ := Prod.mk.inj (Option.some.inj hstep)
      refine .of_runtime h fun returned hreturned haccepted => ?_
      obtain rfl := Except.ok.inj hreturned
      cases haccepted
    · obtain ⟨rfl, rfl⟩ := Prod.mk.inj (Option.some.inj hstep)
      exact .of_runtime h hcall
  | shift window =>
    rw [viewportStep] at hstep
    split at hstep
    · obtain ⟨rfl, rfl⟩ := Prod.mk.inj (Option.some.inj hstep)
      exact .of_runtime h ⟨hcall, fun _ hrows => by cases hrows⟩
    · rename_i rows hrows
      obtain ⟨rfl, rfl⟩ := Prod.mk.inj (Option.some.inj hstep)
      exact .of_runtime h ⟨hcall, shiftedRows_fresh h hcall hrows⟩
  | policy window shifted =>
    rw [viewportStep] at hstep
    split at hstep
    · obtain ⟨rfl, rfl⟩ := Prod.mk.inj (Option.some.inj hstep)
      exact .of_runtime h fun _ hreply => by cases hreply
    · obtain ⟨rfl, rfl⟩ := Prod.mk.inj (Option.some.inj hstep)
      exact .of_runtime h ⟨hcall.1, hcall.2, .nil⟩
  | analyze window shifted pending analyses =>
    cases pending with
    | nil =>
      obtain ⟨rfl, rfl⟩ := Prod.mk.inj (Option.some.inj hstep)
      exact .of_runtime h ⟨hcall.1, hcall.2.1, fun _ => hcall.2.2⟩
    | cons row rest =>
      rw [viewportStep] at hstep
      split at hstep
      · obtain ⟨rfl, rfl⟩ := Prod.mk.inj (Option.some.inj hstep)
        exact .of_runtime h ⟨hcall.1, hcall.2.1, hcall.2.2.cons⟩
      · obtain ⟨rfl, rfl⟩ := Prod.mk.inj (Option.some.inj hstep)
        exact .of_runtime h ⟨hcall.1, hcall.2.1, fun hincomplete => by cases hincomplete⟩
  | latest window analyzed =>
    obtain ⟨hopen, hnext⟩ := Option.ite_none_left_eq_some.mp hstep
    obtain ⟨rfl, rfl⟩ := Prod.mk.inj (Option.some.inj hnext)
    have hsettingsOpen : runtime.desktop.settingsLocked = false := by simpa using hopen
    refine .of_runtime h ⟨hcall.1, ⟨Nat.le_refl _, fun _ => (h.likes hsettingsOpen).symm⟩, ?_⟩
    intro hcomplete
    exact latest_fresh h hsettingsOpen hcall.1 hcall.2.1 (hcall.2.2 hcomplete)
      fun answer => hserved window.request answer rfl
  | generation window analyzed latest =>
    obtain ⟨-, hnext⟩ := Option.ite_none_left_eq_some.mp hstep
    obtain ⟨rfl, rfl⟩ := Prod.mk.inj (Option.some.inj hnext)
    refine .of_runtime h ⟨hcall.1, hcall.2.1, fun hcomplete hsettings hcurrent => ?_⟩
    exact hcall.2.2 hcomplete hsettings (of_decide_eq_true hcurrent).symm
  | accept window analyzed latest generationIsCurrent =>
    obtain ⟨rfl, rfl⟩ := Prod.mk.inj (Option.some.inj hstep)
    exact .of_runtime h (acceptStep_fresh hcall.1 hcall.2.1 hcall.2.2)
  | store window response =>
    obtain ⟨rfl, rfl⟩ := Prod.mk.inj (Option.some.inj hstep)
    have hreturned : (ViewportCall.returned window.request (.ok response)).Fresh analyze served
        published runtime.desktop := by
      intro returned hreturned _
      obtain rfl := Except.ok.inj hreturned
      exact hcall.2
    split
    · refine .of_desktop h rfl (fun projection hprojection => ?_) hreturned
      obtain rfl := Option.some.inj hprojection
      exact ⟨hcall.1.1, hcall.1.2⟩
    · exact .of_runtime h hreturned
  | returned request reply => cases hstep
  | panicked => cases hstep

end Steps

section Runs

variable {likedSongs : LikedSongs} {service : LibraryManifestService} {catalog : CatalogState}
  {actions : List (PoolAction ViewportOp ViewportChoice)}
  {pool : CallPool ViewportRuntime ViewportCall} {index : ℕ} {request : CatalogViewportRequest}

/-- Every step of a run keeps the revision of the likes honest. -/
def KeepsLikes (tables : CatalogTables) (analyze : AnalysisKey → CachedSongAnalysis)
    (likedSongs : LikedSongs) (service : LibraryManifestService) (catalog : CatalogState)
    (actions : List (PoolAction ViewportOp ViewportChoice)) : Prop :=
  (viewportMachine tables analyze likedSongs service catalog).Meets
    (CallPool.StepMeets fun choice call runtime => keepsLikes choice runtime call = true)
    (viewportMachine tables analyze likedSongs service catalog).initial actions

/-- The run has passed a state, while the call served the request, from which the answer follows by
itself: with every row analysed, and with the likes of the settings in that state. -/
def ServedFromScratch (tables : CatalogTables) (analyze : AnalysisKey → CachedSongAnalysis)
    (likedSongs : LikedSongs) (service : LibraryManifestService) (catalog : CatalogState)
    (actions : List (PoolAction ViewportOp ViewportChoice)) (index : ℕ)
    (request : CatalogViewportRequest) (response : CatalogViewportDto) : Prop :=
  ∃ passed call, (viewportMachine tables analyze likedSongs service catalog).Passes
      (viewportMachine tables analyze likedSongs service catalog).initial actions passed ∧
    passed.calls[index]? = some call ∧ call.serves = some request ∧
    scratchViewport analyze request passed.shared = .ok response

/-- What every call has read is fresh, and its accepted answer has been served from scratch. -/
def CallsFresh (tables : CatalogTables) (analyze : AnalysisKey → CachedSongAnalysis)
    (likedSongs : LikedSongs) (service : LibraryManifestService) (catalog : CatalogState)
    (actions : List (PoolAction ViewportOp ViewportChoice)) (published : LikedSongs)
    (desktop : SearchRuntime) (calls : List ViewportCall) : Prop :=
  ∀ (index : ℕ) (call : ViewportCall), calls[index]? = some call →
    call.Fresh analyze (ServedFromScratch tables analyze likedSongs service catalog actions index)
      published desktop

/-- A call that begins has read nothing. -/
theorem CallsFresh.begin {calls : List ViewportCall} (op : ViewportOp)
    (h : CallsFresh tables analyze likedSongs service catalog actions published desktop calls) :
    CallsFresh tables analyze likedSongs service catalog actions published desktop
      (calls ++ [(viewportProgram tables analyze).start op]) := by
  intro index call hcall
  rw [List.getElem?_append] at hcall
  split at hcall
  · exact h index call hcall
  · have hbegun := List.mem_singleton.mp (List.mem_of_getElem? hcall)
    rw [hbegun]
    cases op <;> trivial

/-- A step of one call keeps what the others have read fresh. -/
theorem CallsFresh.set {calls : List ViewportCall} {next : ViewportCall}
    (h : CallsFresh tables analyze likedSongs service catalog actions published desktop calls)
    (hlater : LikesLater published desktop republished changed)
    (hnext : next.Fresh analyze
      (ServedFromScratch tables analyze likedSongs service catalog actions index) republished changed) :
    CallsFresh tables analyze likedSongs service catalog actions republished changed
      (calls.set index next) := by
  intro other found hfound
  rw [List.getElem?_set] at hfound
  split at hfound
  · rename_i hsame
    split at hfound
    · obtain rfl := Option.some.inj hfound
      rw [← hsame]
      exact hnext
    · cases hfound
  · exact (h other found hfound).later hlater

/-- In a run of honest steps every call is fresh. -/
theorem viewports_fresh
    (hrun : (viewportMachine tables analyze likedSongs service catalog).run
      (viewportMachine tables analyze likedSongs service catalog).initial actions = some pool)
    (hkeeps : KeepsLikes tables analyze likedSongs service catalog actions) :
    ∃ published, pool.shared.Fresh analyze published ∧
      CallsFresh tables analyze likedSongs service catalog actions published pool.shared.desktop
        pool.calls := by
  refine CallProgram.run_preserves_of_passed_steps (P := fun runtime calls =>
    ∃ published, runtime.Fresh analyze published ∧
      CallsFresh tables analyze likedSongs service catalog actions published runtime.desktop calls)
    ?_ ?_ hrun hkeeps ?_
  · rintro runtime calls op ⟨published, hruntime, hcalls⟩
    exact ⟨published, hruntime, hcalls.begin op⟩
  · rintro runtime calls index choice call after next hpassed ⟨published, hruntime, hcalls⟩ hcall
      hhonest hstep
    have hserved : ∀ request answer, call.serves = some request →
        scratchViewport analyze request runtime = .ok answer →
          ServedFromScratch tables analyze likedSongs service catalog actions index request answer := by
      intro request answer hserves hscratch
      exact ⟨_, call, hpassed, hcall, hserves, hscratch⟩
    obtain ⟨republished, hlater, hafter, hnext⟩ :=
      viewportStep_fresh hruntime (hcalls index call hcall) hserved hhonest hstep
    exact ⟨republished, hafter, hcalls.set hlater hnext⟩
  · refine ⟨likedSongs, ⟨fun _ => rfl, fun _ hprojection => ?_⟩, fun _ _ hcall => ?_⟩
    · cases hprojection
    · cases hcall

/-- In a run of honest steps every accepted answer is the one that is computed from scratch, in a state
passed while the request was served. -/
theorem viewport_shift_invisible {response : CatalogViewportDto}
    (hrun : (viewportMachine tables analyze likedSongs service catalog).run
      (viewportMachine tables analyze likedSongs service catalog).initial actions = some pool)
    (hkeeps : KeepsLikes tables analyze likedSongs service catalog actions)
    (hreturned : pool.calls[index]? = some (.returned request (.ok response)))
    (haccepted : response.accepted = true) :
    ServedFromScratch tables analyze likedSongs service catalog actions index request response := by
  obtain ⟨published, -, hcalls⟩ := viewports_fresh hrun hkeeps
  exact hcalls index _ hreturned response rfl haccepted

/-- In a run of honest steps no request panics: the entering row is one of the window, and has been
analysed. -/
theorem viewport_never_panics
    (hrun : (viewportMachine tables analyze likedSongs service catalog).run
      (viewportMachine tables analyze likedSongs service catalog).initial actions = some pool)
    (hkeeps : KeepsLikes tables analyze likedSongs service catalog actions) :
    .panicked ∉ pool.calls := by
  intro hpanicked
  obtain ⟨place, hplace⟩ := List.getElem?_of_mem hpanicked
  obtain ⟨published, -, hcalls⟩ := viewports_fresh hrun hkeeps
  exact hcalls place _ hplace

end Runs

/-- The second song of the scenario. -/
def waltzSong : String := "11111111111111111111111111111111"

/-- The third song of the scenario. -/
def reverieSong : String := "22222222222222222222222222222222"

/-- A catalog with three songs. -/
def viewportCatalog : CatalogState where
  index := ⟨1, [⟨⟨scenarioSong, "Etude"⟩, "C:\\Music\\etude.txt", "etude"⟩,
    ⟨⟨reverieSong, "Reverie"⟩, "C:\\Music\\reverie.txt", "reverie"⟩,
    ⟨⟨waltzSong, "Waltz"⟩, "C:\\Music\\waltz.txt", "waltz"⟩]⟩
  libraryMembership := {scenarioSong, reverieSong, waltzSong}
  builtinMembership := ∅
  builtinStatus := .unavailable .resourceUnavailable

/-- The analyses of the scenario. -/
def scenarioAnalysis (key : AnalysisKey) : CachedSongAnalysis :=
  ⟨⟨"TXT", none, some (key.generation + key.settingsRevision), "low", "ready"⟩, none⟩

/-- The settings file likes the first song, and a store fails or not. -/
def viewportChoice (saveFailure : SaveFailure) : ViewportChoice :=
  ⟨scenarioSettings saveFailure, false, false, .ok (), true⟩

/-- A request for two songs of the catalog. -/
def twoSongs (firstIndex : ℕ) : CatalogViewportRequest := ⟨1, firstIndex, firstIndex + 1, none, []⟩

/-- A viewport is requested in some steps, a like is set or taken back in some steps, and a viewport is
requested again in some steps. -/
def viewportTwice (saveFailure : SaveFailure) (liked : Bool) (second : CatalogViewportRequest)
    (likedSteps secondSteps : ℕ) : List (PoolAction ViewportOp ViewportChoice) :=
  let choice := viewportChoice saveFailure
  [[.begin (.setViewport (twoSongs 0))], List.replicate 18 (.advance 0 choice),
    [.begin (.desktop (.setSongLiked scenarioSong liked (some 1)))],
    List.replicate likedSteps (.advance 1 choice),
    [.begin (.setViewport second)], List.replicate secondSteps (.advance 2 choice)].flatten

/-- The accepted answer that a call has returned, and its request. -/
def ViewportCall.answered : ViewportCall → Option (CatalogViewportRequest × CatalogViewportDto)
  | .returned request (.ok response) => if response.accepted then some (request, response) else none
  | _ => none

/-- A call that has returned an accepted answer is over. -/
theorem ViewportCall.returned_of_answered {call : ViewportCall} {request : CatalogViewportRequest}
    (h : call.answered = some (request, response)) :
    call = .returned request (.ok response) ∧ response.accepted = true := by
  unfold ViewportCall.answered at h
  split at h
  · obtain ⟨haccepted, hanswer⟩ := Option.ite_none_right_eq_some.mp h
    obtain ⟨rfl, rfl⟩ := Prod.mk.inj (Option.some.inj hanswer)
    exact ⟨rfl, haccepted⟩
  · cases h

/-- The machine of the scenario. -/
def scenarioViewports : Machine (CallPool ViewportRuntime ViewportCall)
    (PoolAction ViewportOp ViewportChoice) :=
  viewportMachine asciiTables scenarioAnalysis ⟨∅⟩ ⟨⟨1, [], []⟩, ⟨1, [], []⟩⟩ viewportCatalog

/-- No state that a run has passed while the call served its request gives the answer. -/
def neverFromScratch (actions : List (PoolAction ViewportOp ViewportChoice)) (index : ℕ)
    (response : CatalogViewportDto) : Bool :=
  actions.inits.all fun taken =>
    (scenarioViewports.run scenarioViewports.initial taken).all fun passed =>
      (passed.calls[index]?.bind ViewportCall.serves).all fun request =>
        (scratchViewport scenarioAnalysis request passed.shared).toOption ≠ some response

/-- A like is taken back whose settings file has it, and the save fails after the reload. The second
request is answered by the last answer, which does not show the like. -/
theorem failed_unlike_shows_stale_viewport :
    ¬∀ (tables : CatalogTables) (analyze : AnalysisKey → CachedSongAnalysis) (likedSongs : LikedSongs)
      (service : LibraryManifestService) (catalog : CatalogState)
      (actions : List (PoolAction ViewportOp ViewportChoice))
      (pool : CallPool ViewportRuntime ViewportCall) (index : ℕ) (request : CatalogViewportRequest)
      (response : CatalogViewportDto),
      (viewportMachine tables analyze likedSongs service catalog).run
          (viewportMachine tables analyze likedSongs service catalog).initial actions = some pool →
        pool.calls[index]? = some (.returned request (.ok response)) → response.accepted = true →
          ServedFromScratch tables analyze likedSongs service catalog actions index request
            response := by
  intro h
  have hcheck : (scenarioViewports.run scenarioViewports.initial
      (viewportTwice (some "disk full") false (twoSongs 0) 4 8)).any (fun pool =>
        (pool.calls[2]?.bind ViewportCall.answered).any fun answer =>
          neverFromScratch (viewportTwice (some "disk full") false (twoSongs 0) 4 8) 2 answer.2) =
      true := by
    decide +kernel
  obtain ⟨pool, hrun, hpool⟩ := (Option.any_eq_true _ _).mp hcheck
  obtain ⟨⟨request, response⟩, hanswered, hnever⟩ := (Option.any_eq_true _ _).mp hpool
  obtain ⟨call, hcall, hanswer⟩ := Option.bind_eq_some_iff.mp hanswered
  obtain ⟨rfl, haccepted⟩ := ViewportCall.returned_of_answered hanswer
  obtain ⟨passed, served, ⟨taken, htaken, hpassed⟩, hserved, hserves, hscratch⟩ :=
    h _ _ _ _ _ _ pool 2 request response hrun hcall haccepted
  have hinits := List.all_eq_true.mp hnever taken ((List.mem_inits taken _).mpr htaken)
  have hstate := (Option.all_eq_true _ _).mp hinits passed hpassed
  have hrequest := (Option.all_eq_true _ _).mp hstate request (by rw [hserved]; exact hserves)
  rw [hscratch] at hrequest
  exact absurd rfl (of_decide_eq_true hrequest)

/-- The window moves on by one song: the second answer takes over a row of the first one, and is the
one that is computed from scratch. -/
theorem viewport_shift_invisible_scenario :
    ∃ pool request response,
      scenarioViewports.run scenarioViewports.initial (viewportTwice none true (twoSongs 1) 0 21) =
          some pool ∧
        response.items.map CatalogRowDto.songId = [reverieSong, waltzSong] ∧
        ServedFromScratch asciiTables scenarioAnalysis ⟨∅⟩ ⟨⟨1, [], []⟩, ⟨1, [], []⟩⟩ viewportCatalog
          (viewportTwice none true (twoSongs 1) 0 21) 2 request response := by
  have hcheck : (scenarioViewports.run scenarioViewports.initial
      (viewportTwice none true (twoSongs 1) 0 21)).any (fun pool =>
        (pool.calls[2]?.bind ViewportCall.answered).any fun answer =>
          answer.2.items.map CatalogRowDto.songId = [reverieSong, waltzSong]) = true := by
    decide +kernel
  have hkeeps : KeepsLikes asciiTables scenarioAnalysis ⟨∅⟩ ⟨⟨1, [], []⟩, ⟨1, [], []⟩⟩ viewportCatalog
      (viewportTwice none true (twoSongs 1) 0 21) := by
    unfold KeepsLikes
    decide +kernel
  obtain ⟨pool, hrun, hpool⟩ := (Option.any_eq_true _ _).mp hcheck
  obtain ⟨⟨request, response⟩, hanswered, hitems⟩ := (Option.any_eq_true _ _).mp hpool
  obtain ⟨call, hcall, hanswer⟩ := Option.bind_eq_some_iff.mp hanswered
  obtain ⟨rfl, haccepted⟩ := ViewportCall.returned_of_answered hanswer
  exact ⟨pool, request, response, hrun, of_decide_eq_true hitems,
    viewport_shift_invisible hrun hkeeps hcall haccepted⟩

end SkyAutoPlayer.Desktop
