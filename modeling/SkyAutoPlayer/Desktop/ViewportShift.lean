import SkyAutoPlayer.Desktop.ViewportProjection
import SkyAutoPlayer.Foundation.CheckSequence
import SkyAutoPlayer.Foundation.Slices

/-!
# A moved window of rows

Every row of an answer depends on its song alone, given the likes, the index and the settings'
revision. So the rows of a window that has moved by one place are those of the window before it, with
one row left out at one end, and the row of the entering song inserted at the other.
-/

namespace SkyAutoPlayer.Desktop

open Foundation AppCore NativeAdapters

variable {analyze : AnalysisKey → CachedSongAnalysis} {likedSongs : LikedSongs} {index : CatalogIndex}
  {request : CatalogViewportRequest} {window : ViewportWindow} {key : ViewportProjectionKey}
  {projection : ViewportResponseProjection} {rows : ShiftedViewportRows}
  {shifted : Option ShiftedViewportRows} {analyses : List (String × CachedSongAnalysis)}
  {entries : List CatalogRow} {selected : Option CatalogRow} {row : CatalogRow}

/-- The row of a song in an index, from the likes and the settings' revision. -/
def freshRow (analyze : AnalysisKey → CachedSongAnalysis) (likedSongs : LikedSongs)
    (index : CatalogIndex) (settingsRevision : ℕ) (songId : String) : CatalogRowDto :=
  rowDto likedSongs ⟨songId, ((index.entryOf? songId).map fun entry => entry.row.title).getD ""⟩
    (analyze ⟨songId, index.generation, settingsRevision⟩)

/-- The index lists the row under its song. -/
def Lists (index : CatalogIndex) (row : CatalogRow) : Prop :=
  (index.entryOf? row.songId).map CatalogEntry.row = some row

/-- A row that is found for a song is listed, under that song. -/
theorem lists_of_entryForSongId {songId : String} {generation : Option ℕ}
    (h : index.entryForSongId songId generation = .ok row) : row.songId = songId ∧ Lists index row := by
  simp only [CatalogIndex.entryForSongId, Except.bind_eq_ok, okOr_eq_ok] at h
  obtain ⟨-, -, -, -, hrow⟩ := h
  obtain ⟨entry, hentry, rfl⟩ := Option.map_eq_some_iff.mp hrow
  have hid : entry.row.songId = songId := by simpa using List.find?_some hentry
  exact ⟨hid, by rw [Lists, hid, hentry, Option.map_some]⟩

/-- The shown row of a listed row is the fresh one. -/
theorem rowDto_eq_freshRow {settingsRevision : ℕ} (h : Lists index row) :
    rowDto likedSongs row (analyze ⟨row.songId, index.generation, settingsRevision⟩) =
      freshRow analyze likedSongs index settingsRevision row.songId := by
  obtain ⟨entry, hentry, hrow⟩ := Option.map_eq_some_iff.mp h
  have htitle : ((index.entryOf? row.songId).map fun entry => entry.row.title).getD "" = row.title := by
    rw [hentry, ← hrow]
    rfl
  rw [freshRow, htitle]

/-- The rows of a request are listed by the index of its generation. -/
theorem lists_of_viewportEntries (h : viewportEntries request index = .ok (entries, selected)) :
    index.generation = request.generation ∧ ∀ row ∈ entries, Lists index row := by
  simp only [viewportEntries, Except.bind_eq_ok, Except.pure_eq_ok, failIf_eq_ok, not_not,
    exists_const] at h
  obtain ⟨hgeneration, songIds, -, found, -, rows, hrows, hpair⟩ := h
  obtain ⟨rfl, -⟩ := Prod.mk.inj hpair
  refine ⟨hgeneration, fun row hrow => ?_⟩
  obtain ⟨place, hlt, rfl⟩ := List.getElem_of_mem hrow
  obtain ⟨songId, -, hfound⟩ := exists_of_forall₂ (forall₂_of_mapM hrows) (List.getElem?_eq_getElem hlt)
  exact (lists_of_entryForSongId (Except.mapError_eq_ok.mp hfound)).2

/-- The answer from the current state is made of the fresh rows of the request's songs. -/
theorem scratchViewport_eq {runtime : ViewportRuntime}
    (hbounded : request.songIds.length ≤ maxViewportSongs)
    (h : viewportEntries request runtime.desktop.catalog.index = .ok (entries, selected)) :
    scratchViewport analyze request runtime =
      .ok (request.respond true ((entries.map CatalogRow.songId).map
        (freshRow analyze runtime.desktop.likedSongs runtime.desktop.catalog.index
          runtime.analysisRevision))) := by
  obtain ⟨hgeneration, hlists⟩ := lists_of_viewportEntries h
  have hitems : (entries.map fun row => rowDto runtime.desktop.likedSongs row
      (analyze ⟨row.songId, request.generation, runtime.analysisRevision⟩)) =
      (entries.map CatalogRow.songId).map (freshRow analyze runtime.desktop.likedSongs
        runtime.desktop.catalog.index runtime.analysisRevision) := by
    rw [List.map_map, ← hgeneration]
    apply List.map_congr_left
    intro row hrow
    exact rowDto_eq_freshRow (hlists row hrow)
  rw [scratchViewport, failIf_of_not _ (Nat.not_lt.mpr hbounded), h, ← hitems]
  rfl

section Shift

/-- What holds of an answer that can be reused. -/
theorem isReusable_spec (h : projection.isReusable key = true) :
    2 ≤ key.orderedSongIds.length ∧
      projection.key.orderedSongIds.length = key.orderedSongIds.length ∧
      projection.key.generation = key.generation ∧
      projection.key.settingsRevision = key.settingsRevision ∧
      projection.key.likedMembershipRevision = key.likedMembershipRevision := by
  simp only [ViewportResponseProjection.isReusable, Bool.and_eq_true, decide_eq_true_eq] at h
  tauto

/-- A list without its last place. -/
theorem eraseIdx_last {α : Type} (list : List α) :
    list.eraseIdx (list.length - 1) = list.take (list.length - 1) := by
  rw [List.eraseIdx_eq_take_drop_succ, List.drop_of_length_le (by omega), List.append_nil]

/-- The rows that are taken over are those of the other songs, when the last answer had the rows of its
own songs. -/
theorem shiftedRows_spec (h : projection.shiftedRows key = some rows) :
    projection.isReusable key = true ∧
      key.orderedSongIds[rows.insertionIndex]? = some rows.enteringSongId ∧
      ∀ shown : String → CatalogRowDto,
        projection.response.items = projection.key.orderedSongIds.map shown →
          rows.reusableRows = (key.orderedSongIds.eraseIdx rows.insertionIndex).map shown := by
  rw [ViewportResponseProjection.shiftedRows] at h
  split at h
  · cases h
  · rename_i hreusable
    have hspec := isReusable_spec (by simpa using hreusable)
    refine ⟨by simpa using hreusable, ?_⟩
    split at h
    · rename_i hforward
      obtain ⟨entering, hentering, rfl⟩ := Option.map_eq_some_iff.mp h
      refine ⟨hentering, fun shown hitems => ?_⟩
      simp only [ViewportProjectionKey.follows, decide_eq_true_eq] at hforward
      simp only
      rw [hitems, ← List.map_drop, hforward.2.2, eraseIdx_last]
    · split at h
      · rename_i hbackward
        obtain ⟨entering, hentering, rfl⟩ := Option.map_eq_some_iff.mp h
        refine ⟨hentering, fun shown hitems => ?_⟩
        simp only [ViewportProjectionKey.follows, decide_eq_true_eq, hspec.2.1] at hbackward
        simp only
        rw [hitems, ← List.map_take, ← hbackward.2.2, List.eraseIdx_zero, List.drop_one]
      · cases h

/-- The entering row in its place among the rows that are taken over completes the window. -/
theorem insertIdx_reusable {songIds : List String} {shown : String → CatalogRowDto}
    (hentering : songIds[rows.insertionIndex]? = some rows.enteringSongId)
    (hrows : rows.reusableRows = (songIds.eraseIdx rows.insertionIndex).map shown) :
    rows.reusableRows.insertIdx rows.insertionIndex (shown rows.enteringSongId) =
      songIds.map shown := by
  obtain ⟨hlt, hsong⟩ := List.getElem?_eq_some_iff.mp hentering
  rw [hrows, ← hsong, ← List.eraseIdx_map]
  have hmapped := @List.insertIdx_eraseIdx_getElem _ (songIds.map shown) rows.insertionIndex (by simpa using hlt)
  rwa [List.getElem_map] at hmapped

end Shift

section Analyses

/-- Every analysis is the one of its song, and every row that an answer misses has been analysed or is
pending. -/
structure AnalysesFresh (analyze : AnalysisKey → CachedSongAnalysis) (window : ViewportWindow)
    (shifted : Option ShiftedViewportRows) (pending : List CatalogRow)
    (analyses : List (String × CachedSongAnalysis)) : Prop where
  sound : ∀ songId analysis, analyses.lookup songId = some analysis →
    analysis = analyze (window.analysisKey songId)
  covers : ∀ row ∈ window.missingEntries shifted,
    row.songId ∈ pending.map CatalogRow.songId ∨ (analyses.lookup row.songId).isSome

/-- The selected row takes the place of a row of its song. -/
theorem mem_analysisEntries (hrow : row ∈ window.missingEntries shifted) :
    row.songId ∈ (window.analysisEntries shifted).map CatalogRow.songId := by
  unfold ViewportWindow.analysisEntries
  split
  · exact List.mem_map_of_mem hrow
  · rename_i selected hselected
    rw [List.map_cons, List.mem_cons]
    by_cases hsame : row.songId = selected.songId
    · exact .inl hsame
    · apply Or.inr
      apply List.mem_map_of_mem
      exact (List.mem_eraseP_of_neg (by simpa using hsame)).mpr hrow

/-- Nothing has been analysed at first. -/
theorem AnalysesFresh.nil : AnalysesFresh analyze window shifted (window.analysisEntries shifted) [] where
  sound _ _ h := by cases h
  covers _ hrow := .inl (mem_analysisEntries hrow)

/-- An analysis moves a row from the pending ones to the analysed ones. -/
theorem AnalysesFresh.cons {rest : List CatalogRow}
    (h : AnalysesFresh analyze window shifted (row :: rest) analyses) :
    AnalysesFresh analyze window shifted rest
      ((row.songId, analyze (window.analysisKey row.songId)) :: analyses) where
  sound songId analysis hlookup := by
    rw [List.lookup_cons] at hlookup
    by_cases hsame : songId = row.songId
    · subst hsame
      simpa using hlookup.symm
    · exact h.sound songId analysis (by simpa [beq_eq_false_iff_ne.mpr hsame] using hlookup)
  covers other hother := by
    rw [List.lookup_cons]
    by_cases hsame : other.songId = row.songId
    · apply Or.inr
      simp [hsame]
    · have hcovers := h.covers other hother
      rw [List.map_cons, List.mem_cons] at hcovers
      simpa [beq_eq_false_iff_ne.mpr hsame, hsame] using hcovers

/-- A row whose analysis is not missing any more is shown with it. -/
theorem AnalysesFresh.lookup_eq (h : AnalysesFresh analyze window shifted [] analyses)
    (hrow : row ∈ window.missingEntries shifted) :
    analyses.lookup row.songId = some (analyze (window.analysisKey row.songId)) := by
  rcases h.covers row hrow with hpending | hanalysed
  · cases hpending
  · obtain ⟨analysis, hlookup⟩ := Option.isSome_iff_exists.mp hanalysed
    rw [hlookup, h.sound _ _ hlookup]

/-- The rows of an answer are the fresh ones, in the index of the request's generation, when the rows
that it takes over are. -/
theorem items_eq (hlists : ∀ row ∈ window.entries, Lists index row)
    (hgeneration : index.generation = window.request.generation)
    (hanalyses : AnalysesFresh analyze window shifted [] analyses)
    (hshifted : ∀ rows ∈ shifted,
      window.key.orderedSongIds[rows.insertionIndex]? = some rows.enteringSongId ∧
        rows.reusableRows = (window.key.orderedSongIds.eraseIdx rows.insertionIndex).map
          (freshRow analyze likedSongs index window.settings.analysisRevision)) :
    window.items shifted analyses likedSongs =
      some (window.key.orderedSongIds.map
        (freshRow analyze likedSongs index window.settings.analysisRevision)) := by
  have hshown : ∀ row ∈ window.missingEntries shifted, row ∈ window.entries →
      (analyses.lookup row.songId).map (rowDto likedSongs row) =
        some (freshRow analyze likedSongs index window.settings.analysisRevision row.songId) := by
    intro row hmissing hrow
    rw [hanalyses.lookup_eq hmissing, Option.map_some, ViewportWindow.analysisKey, ← hgeneration,
      rowDto_eq_freshRow (hlists row hrow)]
  cases shifted with
  | none =>
    have hrows : (window.entries.filterMap fun row =>
        (analyses.lookup row.songId).map (rowDto likedSongs row)) =
        window.entries.filterMap (some ∘ fun row => freshRow analyze likedSongs index
          window.settings.analysisRevision row.songId) := by
      apply List.filterMap_congr
      intro row hrow
      exact hshown row hrow hrow
    rw [ViewportWindow.items, ViewportWindow.key, List.map_map, hrows, List.filterMap_eq_map]
    rfl
  | some rows =>
    obtain ⟨hentering, hreusable⟩ := hshifted rows rfl
    obtain ⟨entered, hmem, hsong⟩ := List.mem_map.mp (List.mem_of_getElem? hentering)
    have hfound : (window.entries.find? fun row => row.songId = rows.enteringSongId).isSome := by
      rw [List.find?_isSome]
      exact ⟨entered, hmem, by simpa using hsong⟩
    obtain ⟨row, hrow⟩ := Option.isSome_iff_exists.mp hfound
    have hsame : row.songId = rows.enteringSongId := by simpa using List.find?_some hrow
    have hentry : row ∈ window.entries := List.mem_of_find?_eq_some hrow
    have hmissing : row ∈ window.missingEntries (some rows) :=
      List.mem_filter.mpr ⟨hentry, by simpa using hsame⟩
    obtain ⟨analysis, hanalysis, hdto⟩ := Option.map_eq_some_iff.mp (hshown row hmissing hentry)
    rw [ViewportWindow.items, hrow]
    simp only [Option.bind_eq_bind, Option.bind_some, hanalysis, hdto]
    rw [hsame, insertIdx_reusable hentering hreusable]
    rfl

end Analyses

end SkyAutoPlayer.Desktop
