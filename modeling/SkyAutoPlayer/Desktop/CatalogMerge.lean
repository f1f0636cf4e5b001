import SkyAutoPlayer.Desktop.CatalogReconcile
import SkyAutoPlayer.Desktop.CatalogSearchFresh
import SkyAutoPlayer.NativeAdapters.CatalogScan

/-!
# Which sources the index accepts

The index accepts a composition exactly when every declared song has the path of a song and no two
declare one path with two ids or one id with two paths, and then it has every id of the composition.
The same holds with what the cache knows of the imports that are unavailable, except for an id that
the cache has no imported song for, or one whose path now is the path of a song with another id.
-/

namespace SkyAutoPlayer.Desktop

open Foundation AppCore NativeAdapters

variable {tables : CatalogTables} {fs : FileSystem} {composer : CatalogComposer}
  {imports : List ImportedSourceRef} {composition : CatalogComposition} {cache : CatalogCache}
  {entries : List CatalogSourceEntry} {entry : CatalogSourceEntry} {index after : CatalogIndex}

/-- Every declared entry has the path of a song, and two of them have one id exactly if they have one
path. -/
structure SourcesAgree (tables : CatalogTables) (declared : CatalogSourceEntry → Prop) : Prop where
  songs : ∀ entry, declared entry → entry.IsSong
  agree : ∀ left right, declared left → declared right → left.Agrees tables right

/-- Entries that stand for the declared ones can be indexed exactly if those agree. -/
theorem indexable_iff {declared : CatalogSourceEntry → Prop}
    (hdeclared : ∀ entry ∈ entries, declared entry)
    (hstands : ∀ entry, declared entry → ∃ other ∈ entries,
      other.canonicalPath = entry.canonicalPath ∧ other.songId tables = entry.songId tables) :
    Indexable tables entries ↔ SourcesAgree tables declared := by
  constructor
  · intro h
    refine ⟨fun entry hentry => ?_, fun left right hleft hright => ?_⟩
    · obtain ⟨other, hother, hpath, -⟩ := hstands entry hentry
      have hsong := h.songs other hother
      rwa [CatalogSourceEntry.IsSong, hpath] at hsong
    · obtain ⟨leftEntry, hleftEntry, hleftPath, hleftId⟩ := hstands left hleft
      obtain ⟨rightEntry, hrightEntry, hrightPath, hrightId⟩ := hstands right hright
      have hagrees := h.agree leftEntry hleftEntry rightEntry hrightEntry
      rwa [CatalogSourceEntry.Agrees, hleftPath, hleftId, hrightPath, hrightId] at hagrees
  · intro h
    exact ⟨fun entry hmem => h.songs entry (hdeclared entry hmem),
      fun left hleft right hright => h.agree left right (hdeclared left hleft)
        (hdeclared right hright)⟩

/-- A song that the cache knows of an import that cannot be read, at a path that no source declares a
song at. -/
def CachedSong (fs : FileSystem) (composer : CatalogComposer) (imports : List ImportedSourceRef)
    (cache : CatalogCache) (entry : CatalogSourceEntry) : Prop :=
  ∃ source ∈ imports, importEntries fs source = none ∧
    ∃ cached ∈ cache.sources, cached.kind = .imported ∧ cached.sourceId = source.sourceId ∧
      ∃ song ∈ cache.entries, song.kind = .imported ∧ song.songId ∈ cached.songIds ∧
        entry = cachedEntryToSource song ∧
          ∀ other, Declares fs composer imports other → other.canonicalPath ≠ song.canonicalPath

/-- An id of an import that cannot be read has no song in the cache, or one whose path now is the
path of a song with another id. -/
structure OrphanedId (tables : CatalogTables) (fs : FileSystem) (composer : CatalogComposer)
    (imports : List ImportedSourceRef) (cache : CatalogCache) (songId : String) : Prop where
  cached : ∃ source ∈ imports, importEntries fs source = none ∧
    ∃ cached ∈ cache.sources, cached.kind = .imported ∧ cached.sourceId = source.sourceId ∧
      songId ∈ cached.songIds
  taken : ∀ song ∈ cache.entries, song.kind = .imported → song.songId = songId →
    ∃ other, Declares fs composer imports other ∧ other.canonicalPath = song.canonicalPath ∧
      other.songId tables ≠ songId

section Merge

variable {cachedIds : List String} {songs : List CatalogCacheEntry}

/-- A cached entry adds at most itself, and its path is there afterwards. -/
theorem mem_addCachedEntry {song : CatalogCacheEntry} :
    (entry ∈ addCachedEntry cachedIds entries song ↔ entry ∈ entries ∨
      song.kind = .imported ∧ song.songId ∈ cachedIds ∧
        (∀ current ∈ entries, current.canonicalPath ≠ song.canonicalPath) ∧
          entry = cachedEntryToSource song) ∧
      (song.kind = .imported → song.songId ∈ cachedIds →
        ∃ other ∈ addCachedEntry cachedIds entries song, other.canonicalPath = song.canonicalPath) := by
  unfold addCachedEntry
  split
  case isTrue hadd =>
    obtain ⟨hkind, hid, hnew⟩ := hadd
    refine ⟨?_, fun _ _ => ⟨cachedEntryToSource song,
      List.mem_append_right _ List.mem_cons_self, rfl⟩⟩
    rw [List.mem_append, List.mem_singleton]
    exact or_congr_right ⟨fun h => ⟨hkind, hid, hnew, h⟩, fun ⟨_, _, _, h⟩ => h⟩
  case isFalse hskip =>
    refine ⟨⟨.inl, fun h => h.resolve_right fun ⟨hkind, hid, hnew, _⟩ =>
      hskip ⟨hkind, hid, hnew⟩⟩, fun hkind hid => ?_⟩
    by_contra hnone
    push Not at hnone
    exact hskip ⟨hkind, hid, hnone⟩

/-- Cached entries keep the entries, add imported songs at new paths, and leave no path out. -/
theorem foldl_addCachedEntry :
    (∀ entry ∈ entries, entry ∈ songs.foldl (addCachedEntry cachedIds) entries) ∧
    (∀ entry ∈ songs.foldl (addCachedEntry cachedIds) entries, entry ∈ entries ∨
      ∃ song ∈ songs, song.kind = .imported ∧ song.songId ∈ cachedIds ∧
        entry = cachedEntryToSource song ∧
          ∀ current ∈ entries, current.canonicalPath ≠ song.canonicalPath) ∧
    ∀ song ∈ songs, song.kind = .imported → song.songId ∈ cachedIds →
      ∃ other ∈ songs.foldl (addCachedEntry cachedIds) entries,
        other.canonicalPath = song.canonicalPath := by
  induction songs generalizing entries with
  | nil => exact ⟨fun _ h => h, fun _ h => .inl h, fun _ h => absurd h List.not_mem_nil⟩
  | cons first rest ih =>
    have hfirst : ∀ entry ∈ entries, entry ∈ addCachedEntry cachedIds entries first :=
      fun entry hmem => mem_addCachedEntry.1.mpr (.inl hmem)
    obtain ⟨hkept, hadded, hcovered⟩ := @ih (addCachedEntry cachedIds entries first)
    rw [List.foldl_cons]
    refine ⟨fun entry hmem => hkept entry (hfirst entry hmem), fun entry hmem => ?_,
      fun song hsong hkind hid => ?_⟩
    · rcases hadded entry hmem with hold | ⟨song, hsong, hkind, hid, heq, hnew⟩
      · rcases mem_addCachedEntry.1.mp hold with hentry | ⟨hkind, hid, hnew, heq⟩
        · exact .inl hentry
        · exact .inr ⟨first, List.mem_cons_self, hkind, hid, heq, hnew⟩
      · exact .inr ⟨song, List.mem_cons_of_mem _ hsong, hkind, hid, heq,
          fun current hcurrent => hnew current (hfirst current hcurrent)⟩
    · rcases List.mem_cons.mp hsong with rfl | htail
      · obtain ⟨other, hother, hpath⟩ := (@mem_addCachedEntry entries ⟨"", "", .pathDerived⟩ cachedIds
          song).2 hkind hid
        exact ⟨other, hkept other hother, hpath⟩
      · exact hcovered song htail hkind hid

/-- What the merge of some statuses makes of a composition. -/
structure Merged (cache : CatalogCache) (composition : CatalogComposition)
    (statuses : List ImportedSourceCatalogStatus) (merged : CatalogComposition) : Prop where
  kept : ∀ entry ∈ composition.entries, entry ∈ merged.entries
  added : ∀ entry ∈ merged.entries, entry ∈ composition.entries ∨
    ∃ status ∈ statuses, ∃ source, unavailableSource? cache status = some source ∧
      ∃ song ∈ cache.entries, song.kind = .imported ∧ song.songId ∈ source.songIds ∧
        entry = cachedEntryToSource song ∧
          ∀ current ∈ composition.entries, current.canonicalPath ≠ song.canonicalPath
  covered : ∀ status ∈ statuses, ∀ source, unavailableSource? cache status = some source →
    ∀ song ∈ cache.entries, song.kind = .imported → song.songId ∈ source.songIds →
      ∃ other ∈ merged.entries, other.canonicalPath = song.canonicalPath
  builtinMembership : merged.builtinMembership = composition.builtinMembership
  userMembership : merged.userMembership = composition.userMembership
  libraryMembership : ∀ songId ∈ merged.libraryMembership, songId ∈ composition.libraryMembership ∨
    ∃ status ∈ statuses, ∃ source, unavailableSource? cache status = some source ∧
      songId ∈ source.songIds
  importedMembership : ∀ membership ∈ merged.importedMembership,
    membership ∈ composition.importedMembership ∨
      ∃ status ∈ statuses, ∃ source, unavailableSource? cache status = some source ∧
        membership.2 = source.songIds.toFinset

/-- Nothing is merged before the first status. -/
theorem Merged.nil : Merged cache composition [] { composition with importedStatus := [] } where
  kept _ hmem := hmem
  added _ hmem := .inl hmem
  covered _ hmem := absurd hmem List.not_mem_nil
  builtinMembership := rfl
  userMembership := rfl
  libraryMembership _ hmem := .inl hmem
  importedMembership _ hmem := .inl hmem

/-- A status is merged behind the others. -/
theorem Merged.snoc {statuses : List ImportedSourceCatalogStatus} {merged : CatalogComposition}
    {status : ImportedSourceCatalogStatus} (h : Merged cache composition statuses merged) :
    Merged cache composition (statuses ++ [status]) (preserveImport cache merged status) := by
  have hlast : status ∈ statuses ++ [status] := List.mem_append_right _ List.mem_cons_self
  unfold preserveImport
  cases hsource : unavailableSource? cache status with
  | none =>
    refine ⟨h.kept, fun entry hmem => ?_, fun other hother source hfound => ?_,
      h.builtinMembership, h.userMembership, fun songId hmem => ?_, fun membership hmem => ?_⟩
    · exact (h.added entry hmem).imp_right fun ⟨other, hother, hrest⟩ =>
        ⟨other, List.mem_append_left _ hother, hrest⟩
    · rcases List.mem_append.mp hother with hold | hnew
      · exact h.covered other hold source hfound
      · rw [List.mem_singleton.mp hnew, hsource] at hfound
        cases hfound
    · exact (h.libraryMembership songId hmem).imp_right fun ⟨other, hother, hrest⟩ =>
        ⟨other, List.mem_append_left _ hother, hrest⟩
    · exact (h.importedMembership membership hmem).imp_right fun ⟨other, hother, hrest⟩ =>
        ⟨other, List.mem_append_left _ hother, hrest⟩
  | some source =>
    obtain ⟨hkept, hadded, hcovered⟩ :=
      @foldl_addCachedEntry merged.entries source.songIds cache.entries
    refine ⟨fun entry hmem => hkept entry (h.kept entry hmem), fun entry hmem => ?_,
      fun other hother found hfound song hsong hkind hid => ?_,
      h.builtinMembership, h.userMembership, fun songId hmem => ?_, fun membership hmem => ?_⟩
    · rcases hadded entry hmem with hold | ⟨song, hsong, hkind, hid, heq, hnew⟩
      · exact (h.added entry hold).imp_right fun ⟨other, hother, hrest⟩ =>
          ⟨other, List.mem_append_left _ hother, hrest⟩
      · exact .inr ⟨status, hlast, source, hsource, song, hsong, hkind, hid, heq,
          fun current hcurrent => hnew current (h.kept current hcurrent)⟩
    · rcases List.mem_append.mp hother with hold | hnew
      · obtain ⟨present, hpresent, hpath⟩ := h.covered other hold found hfound song hsong hkind hid
        exact ⟨present, hkept present hpresent, hpath⟩
      · rw [List.mem_singleton.mp hnew, hsource] at hfound
        obtain rfl := Option.some.inj hfound
        exact hcovered song hsong hkind hid
    · rcases Finset.mem_union.mp hmem with hold | hnew
      · exact (h.libraryMembership songId hold).imp_right fun ⟨other, hother, hrest⟩ =>
          ⟨other, List.mem_append_left _ hother, hrest⟩
      · exact .inr ⟨status, hlast, source, hsource, List.mem_toFinset.mp hnew⟩
    · rcases List.mem_cons.mp hmem with rfl | hold
      · exact .inr ⟨status, hlast, source, hsource, rfl⟩
      · exact (h.importedMembership membership (List.mem_of_mem_filter hold)).imp_right
          fun ⟨other, hother, hrest⟩ => ⟨other, List.mem_append_left _ hother, hrest⟩

/-- All statuses are merged. -/
theorem merged_foldl {statuses done : List ImportedSourceCatalogStatus} {merged : CatalogComposition}
    (h : Merged cache composition done merged) :
    Merged cache composition (done ++ statuses) (statuses.foldl (preserveImport cache) merged) := by
  induction statuses generalizing done merged with
  | nil => rwa [List.append_nil]
  | cons status rest ih =>
    have hnext : Merged cache composition (done ++ [status]) (preserveImport cache merged status) :=
      h.snoc
    have hrest := ih hnext
    rwa [List.append_assoc, List.singleton_append] at hrest

end Merge

section Accepted

variable {userEntries : List CatalogSourceEntry} {songId : String}

/-- An import is unavailable exactly when it cannot be read. -/
theorem importStatus_available {source : ImportedSourceRef} :
    (importStatus tables fs source).available = false ↔ importEntries fs source = none := by
  change (importEntries fs source).isSome = false ↔ _
  rw [Option.isSome_eq_false_iff, Option.isNone_iff_eq_none]

/-- The cached source of an import that cannot be read is the one with its id. -/
theorem unavailableSource_iff (hcache : cache.Valid tables) {source : ImportedSourceRef}
    {cached : CatalogCacheSource} :
    unavailableSource? cache (importStatus tables fs source) = some cached ↔
      importEntries fs source = none ∧ cached ∈ cache.sources ∧ cached.kind = .imported ∧
        cached.sourceId = source.sourceId := by
  unfold unavailableSource?
  rw [← @importStatus_available tables]
  cases (importStatus tables fs source).available with
  | true => simp
  | false =>
    simp only [Bool.false_eq_true, if_false, true_and]
    constructor
    · intro hfound
      have hkey := List.find?_some hfound
      simp only [Bool.decide_and, Bool.and_eq_true, decide_eq_true_eq] at hkey
      exact ⟨List.mem_of_find?_eq_some hfound, hkey⟩
    · rintro ⟨hmem, hkind, hid⟩
      have hsome : (cache.sources.find? fun other => other.kind = .imported ∧
          other.sourceId = (importStatus tables fs source).sourceId).isSome = true :=
        List.find?_isSome.mpr ⟨cached, hmem, by simpa using ⟨hkind, hid⟩⟩
      obtain ⟨found, hfound⟩ := Option.isSome_iff_exists.mp hsome
      have hkey := List.find?_some hfound
      simp only [Bool.decide_and, Bool.and_eq_true, decide_eq_true_eq] at hkey
      have hsame : found = cached := by
        apply List.inj_on_of_nodup_map hcache.distinct (List.mem_of_find?_eq_some hfound) hmem
        rw [Prod.mk.injEq]
        exact ⟨hkey.1.trans hkind.symm, hkey.2.trans hid.symm⟩
      rw [hfound, hsame]

/-- A cached song of an import is identified by its path. -/
theorem cachedEntryToSource_songId (hcache : cache.Valid tables) {song : CatalogCacheEntry}
    (hsong : song ∈ cache.entries) (hkind : song.kind = .imported) :
    (cachedEntryToSource song).songId tables = song.songId := by
  have hderived := (hcache.entries song hsong).derived (by rw [hkind]; decide)
  rw [hderived, cachedEntryToSource, CatalogSourceEntry.songId, hkind]

/-- The index accepts a composition exactly when the songs of its sources agree. -/
theorem composed_accepted_iff (h : Composed tables fs composer imports userEntries composition) :
    (∃ after, index.replaceEntries tables composition.entries = .ok after) ↔
      SourcesAgree tables (Declares fs composer imports) ∧ index.generation + 1 < 2 ^ 64 := by
  rw [replaceEntries_ok_iff]
  refine and_congr_left' (indexable_iff (fun entry hmem => h.mem_iff.mp hmem) ?_)
  exact fun entry hdeclares => ⟨entry, h.mem_iff.mpr hdeclares, rfl, rfl⟩

/-- What a composition has merged with a cache. -/
theorem merged_of_composed (cache : CatalogCache)
    (h : Composed tables fs composer imports userEntries composition) :
    ∃ merged, Merged cache composition (imports.map (importStatus tables fs)) merged ∧
      preserveUnavailableCachedImports (some cache) composition = merged.sorted := by
  refine ⟨_, ?_, rfl⟩
  rw [h.importedStatus]
  have hnone : Merged cache composition [] { composition with importedStatus := [] } := .nil
  exact merged_foldl hnone

/-- The index accepts a composition with what the cache knows exactly when the songs of its sources
and the cached songs agree. -/
theorem merged_accepted_iff (hcache : cache.Valid tables)
    (h : Composed tables fs composer imports userEntries composition) :
    (∃ after, index.replaceEntries tables
      (preserveUnavailableCachedImports (some cache) composition).entries = .ok after) ↔
      SourcesAgree tables (fun entry => Declares fs composer imports entry ∨
        CachedSong fs composer imports cache entry) ∧ index.generation + 1 < 2 ^ 64 := by
  obtain ⟨merged, hmerged, heq⟩ := merged_of_composed cache h
  rw [heq, replaceEntries_ok_iff]
  refine and_congr_left' (indexable_iff (fun entry hmem => ?_) fun entry hdeclared => ?_)
  · rcases hmerged.added entry ((List.mem_insertionSort _).mp hmem) with hold |
      ⟨status, hstatus, cached, hcached, song, hsong, hkind, hid, rfl, hnew⟩
    · exact .inl (h.mem_iff.mp hold)
    · obtain ⟨source, hsource, rfl⟩ := List.mem_map.mp hstatus
      obtain ⟨hunreadable, hmemCached, hkindCached, hidCached⟩ :=
        (unavailableSource_iff hcache).mp hcached
      exact .inr ⟨source, hsource, hunreadable, cached, hmemCached, hkindCached, hidCached, song,
        hsong, hkind, hid, rfl, fun other hother => hnew other (h.mem_iff.mpr hother)⟩
  · rcases hdeclared with hdeclares | ⟨source, hsource, hunreadable, cached, hmemCached, hkindCached,
      hidCached, song, hsong, hkind, hid, rfl, hfree⟩
    · exact ⟨entry, (List.mem_insertionSort _).mpr (hmerged.kept entry (h.mem_iff.mpr hdeclares)),
        rfl, rfl⟩
    · obtain ⟨other, hother, hpath⟩ := hmerged.covered _ (List.mem_map_of_mem hsource) cached
        ((unavailableSource_iff hcache).mpr ⟨hunreadable, hmemCached, hkindCached, hidCached⟩)
        song hsong hkind hid
      refine ⟨other, (List.mem_insertionSort _).mpr hother, hpath, ?_⟩
      rcases hmerged.added other hother with hold |
        ⟨-, -, -, -, twin, htwin, htwinKind, -, rfl, -⟩
      · exact absurd hpath (hfree other (h.mem_iff.mp hold))
      · rw [cachedEntryToSource_songId hcache htwin htwinKind,
          cachedEntryToSource_songId hcache hsong hkind,
          (hcache.entries twin htwin).derived (by rw [htwinKind]; decide),
          (hcache.entries song hsong).derived (by rw [hkind]; decide)]
        exact congrArg _ hpath

/-- An id that the cache knows of an import that cannot be read is that of an entry, or orphaned. -/
theorem cached_id_cases (hcache : cache.Valid tables)
    (h : Composed tables fs composer imports userEntries composition)
    {merged : CatalogComposition}
    (hmerged : Merged cache composition (imports.map (importStatus tables fs)) merged)
    {status : ImportedSourceCatalogStatus} (hstatus : status ∈ imports.map (importStatus tables fs))
    {cached : CatalogCacheSource} (hcached : unavailableSource? cache status = some cached)
    (hid : songId ∈ cached.songIds) :
    (∃ entry ∈ merged.entries, entry.songId tables = songId) ∨
      OrphanedId tables fs composer imports cache songId := by
  by_cases hpresent : ∃ entry ∈ merged.entries, entry.songId tables = songId
  · exact .inl hpresent
  · right
    have hcovered := hmerged.covered status hstatus cached hcached
    obtain ⟨source, hsource, rfl⟩ := List.mem_map.mp hstatus
    obtain ⟨hunreadable, hmemCached, hkindCached, hidCached⟩ :=
      (unavailableSource_iff hcache).mp hcached
    refine ⟨⟨source, hsource, hunreadable, cached, hmemCached, hkindCached, hidCached, hid⟩,
      fun song hsong hkind hsongId => ?_⟩
    obtain ⟨other, hother, hpath⟩ := hcovered song hsong hkind (hsongId ▸ hid)
    have hne : other.songId tables ≠ songId := fun heq => hpresent ⟨other, hother, heq⟩
    rcases hmerged.added other hother with hold | ⟨-, -, -, -, twin, htwin, htwinKind, -, rfl, -⟩
    · exact ⟨other, h.mem_iff.mp hold, hpath, hne⟩
    · refine absurd ?_ hne
      rw [cachedEntryToSource_songId hcache htwin htwinKind, ← hsongId,
        (hcache.entries twin htwin).derived (by rw [htwinKind]; decide),
        (hcache.entries song hsong).derived (by rw [hkind]; decide)]
      exact congrArg _ hpath

/-- An id of a composition. -/
def HasId (composition : CatalogComposition) (songId : String) : Prop :=
  songId ∈ composition.libraryMembership ∨ songId ∈ composition.builtinMembership ∨
    songId ∈ composition.userMembership ∨
      ∃ membership ∈ composition.importedMembership, songId ∈ membership.2

/-- An id of a composition with what the cache knows is that of an entry, or orphaned. -/
theorem merged_id_cases (hcache : cache.Valid tables)
    (h : Composed tables fs composer imports userEntries composition)
    (hid : HasId (preserveUnavailableCachedImports (some cache) composition) songId) :
    (∃ entry ∈ (preserveUnavailableCachedImports (some cache) composition).entries,
      entry.songId tables = songId) ∨ OrphanedId tables fs composer imports cache songId := by
  obtain ⟨merged, hmerged, heq⟩ := merged_of_composed cache h
  rw [heq] at hid ⊢
  have hsorted : (∃ entry ∈ merged.sorted.entries, entry.songId tables = songId) ↔
      ∃ entry ∈ merged.entries, entry.songId tables = songId := by
    simp only [CatalogComposition.sorted, List.mem_insertionSort]
  rw [hsorted]
  have hold (hcomposed : HasId composition songId) :
      ∃ entry ∈ merged.entries, entry.songId tables = songId := by
    obtain ⟨entry, hentry, hsong⟩ := h.exists_entry hcomposed
    exact ⟨entry, hmerged.kept entry hentry, hsong⟩
  rcases hid with hlibrary | hbuiltin | huser | ⟨membership, hmembership, hmem⟩
  · rcases hmerged.libraryMembership songId hlibrary with hcomposed |
      ⟨status, hstatus, cached, hcached, hcachedId⟩
    · exact .inl (hold (.inl hcomposed))
    · exact cached_id_cases hcache h hmerged hstatus hcached hcachedId
  · exact .inl (hold (.inr (.inl (hmerged.builtinMembership ▸ hbuiltin))))
  · exact .inl (hold (.inr (.inr (.inl (hmerged.userMembership ▸ huser)))))
  · rcases hmerged.importedMembership membership hmembership with hcomposed |
      ⟨status, hstatus, cached, hcached, hids⟩
    · exact .inl (hold (.inr (.inr (.inr ⟨membership, hcomposed, hmem⟩))))
    · rw [hids, List.mem_toFinset] at hmem
      exact cached_id_cases hcache h hmerged hstatus hcached hmem

/-- The index accepts a composition exactly when the songs that its sources declare agree, and then
every id of the composition is one of the index. The same holds with what a checked cache knows of
the imports that cannot be read, up to orphaned ids. -/
theorem catalog_accepts_agreeing_sources {tables : CatalogTables} {fs : FileSystem}
    {composer : CatalogComposer} {imports : List ImportedSourceRef}
    {composition : CatalogComposition}
    (hcompose : composer.compose tables fs imports = .ok composition) :
    (∀ index : CatalogIndex,
      ((∃ after, index.replaceEntries tables composition.entries = .ok after) ↔
        SourcesAgree tables (Declares fs composer imports) ∧ index.generation + 1 < 2 ^ 64) ∧
      ∀ after, index.replaceEntries tables composition.entries = .ok after →
        ∀ songId, HasId composition songId → ∃ entry ∈ after.entries, entry.row.songId = songId) ∧
    ∀ cache : CatalogCache, cache.validate tables = .ok () → ∀ index : CatalogIndex,
      ((∃ after, index.replaceEntries tables
          (preserveUnavailableCachedImports (some cache) composition).entries = .ok after) ↔
        SourcesAgree tables (fun entry => Declares fs composer imports entry ∨
          CachedSong fs composer imports cache entry) ∧ index.generation + 1 < 2 ^ 64) ∧
      ∀ after, index.replaceEntries tables
          (preserveUnavailableCachedImports (some cache) composition).entries = .ok after →
        ∀ songId, HasId (preserveUnavailableCachedImports (some cache) composition) songId →
          (∃ entry ∈ after.entries, entry.row.songId = songId) ∨
            OrphanedId tables fs composer imports cache songId := by
  obtain ⟨userEntries, h⟩ := composed_of_compose hcompose
  refine ⟨fun index => ⟨composed_accepted_iff h, fun after hafter songId hid => ?_⟩,
    fun cache hvalidate index => ?_⟩
  · exact (mem_replaceEntries_iff hafter).mpr (h.exists_entry hid)
  · have hcache := validate_ok_iff.mp hvalidate
    refine ⟨merged_accepted_iff hcache h, fun after hafter songId hid => ?_⟩
    exact (merged_id_cases hcache h hid).imp_left fun hentry =>
      (mem_replaceEntries_iff hafter).mpr hentry

end Accepted

/-- The file system of the scenario: a built-in song, a song of the user and one to import. -/
def scenarioFiles : FileSystem where
  target path :=
    if path = "C:\\App" ∨ path = "\\\\?\\C:\\App" then some (.folder (.file "etude.txt" .nil))
    else if path = "C:\\User" then some (.folder (.file "waltz.json" .nil))
    else if path = "\\\\?\\C:\\Shared" then some (.folder (.file "aria.skysheet" .nil))
    else if isSupportedPath path then some .file
    else none
  unreadable _ := none
  canonicalize path := .ok (if path.startsWith "\\\\?\\" then path else "\\\\?\\" ++ path)
  metadata _ := none

/-- The manifest of the scenario. -/
def scenarioManifest : BuiltinCatalogManifest where
  schemaVersion := 1
  songs := [⟨scenarioSong, "etude.txt", "Etude",
    "e3b0c44298fc1c149afbf4c8996fb92427ae41e4649b934ca495991b7852b855"⟩]
  retiredSongs := []

/-- The sources of the scenario, besides the imports. -/
def scenarioComposer : CatalogComposer := ⟨⟨"C:\\App", some scenarioManifest⟩, "C:\\User"⟩

/-- An import of a folder. -/
def scenarioImport (path : String) : ImportedSourceRef :=
  ⟨"fedcba9876543210fedcba9876543210", path, .folder⟩

/-- The tables of the scenario, with the digests of the paths. -/
def pathTables : CatalogTables where
  __ := asciiTables
  sha256 bytes :=
    if bytes = "\\\\?\\c:\\app\\etude.txt".toUTF8.data.toList then
      ⟨#[193, 169, 12, 145, 47, 27, 13, 32, 151, 28, 150, 16, 54, 98, 114, 64,
      212, 116, 155, 37, 166, 236, 235, 243, 124, 242, 89, 91, 4, 225, 110, 49], rfl⟩
    else if bytes = "\\\\?\\c:\\user\\waltz.json".toUTF8.data.toList then
      ⟨#[134, 145, 218, 170, 19, 120, 144, 214, 147, 12, 130, 9, 216, 25, 160, 187,
      246, 153, 1, 47, 191, 54, 90, 84, 174, 46, 147, 159, 57, 0, 215, 58], rfl⟩
    else
      ⟨#[163, 5, 228, 254, 103, 4, 17, 57, 19, 248, 127, 175, 185, 45, 125, 21,
      182, 235, 95, 33, 219, 86, 255, 30, 77, 209, 74, 149, 52, 211, 212, 79], rfl⟩

/-- A user imports the folder of the built-in songs: a song has two ids at one path, and the index
rejects the composition. -/
theorem overlapping_import_rejected :
    ¬∀ (tables : CatalogTables) (fs : FileSystem) (composer : CatalogComposer)
      (manifest : BuiltinCatalogManifest) (canonicalRoot : String) (imports : List ImportedSourceRef)
      (composition : CatalogComposition),
      composer.builtin.Available fs manifest canonicalRoot →
      (manifest.songs.map fun item => BuiltinCatalogSource.canonicalSong fs composer.builtin.root
        canonicalRoot item.path).Nodup →
      composer.compose tables fs imports = .ok composition →
        ∃ after, (⟨0, []⟩ : CatalogIndex).replaceEntries tables composition.entries = .ok after := by
  intro h
  have hcheck : (scenarioComposer.compose pathTables scenarioFiles
      [scenarioImport "\\\\?\\C:\\App"]).toOption.any (fun composition =>
        ((⟨0, []⟩ : CatalogIndex).replaceEntries pathTables composition.entries).toOption.isNone) =
      true := by decide +kernel
  obtain ⟨composition, hcomposed, hrejected⟩ := (Option.any_eq_true _ _).mp hcheck
  have hcompose := Except.eq_ok_of_toOption hcomposed
  have havailable : scenarioComposer.builtin.Available scenarioFiles scenarioManifest
      "\\\\?\\C:\\App" := by
    refine ⟨?_, rfl, ?_, ?_, ?_⟩ <;> decide +kernel
  obtain ⟨after, hafter⟩ := h _ _ _ _ _ _ composition havailable (List.nodup_singleton _) hcompose
  rw [hafter] at hrejected
  cases hrejected

/-- A user imports another folder: the index accepts the composition exactly when its songs agree. -/
theorem catalog_accepts_agreeing_sources_scenario :
    ∃ composition : CatalogComposition, composition.entries.length = 3 ∧
      ∀ index : CatalogIndex,
        (∃ after, index.replaceEntries pathTables composition.entries = .ok after) ↔
          SourcesAgree pathTables (Declares scenarioFiles scenarioComposer
            [scenarioImport "\\\\?\\C:\\Shared"]) ∧ index.generation + 1 < 2 ^ 64 := by
  have hcheck : (scenarioComposer.compose pathTables scenarioFiles
      [scenarioImport "\\\\?\\C:\\Shared"]).toOption.any (fun composition =>
        composition.entries.length = 3) = true := by decide +kernel
  obtain ⟨composition, hcomposed, hlength⟩ := (Option.any_eq_true _ _).mp hcheck
  have haccepts := (catalog_accepts_agreeing_sources (Except.eq_ok_of_toOption hcomposed)).1
  exact ⟨composition, of_decide_eq_true hlength, fun index => (haccepts index).1⟩

end SkyAutoPlayer.Desktop
