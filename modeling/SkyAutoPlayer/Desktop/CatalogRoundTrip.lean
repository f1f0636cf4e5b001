import Mathlib.Data.List.Forall2
import SkyAutoPlayer.AppCore.HexText
import SkyAutoPlayer.Desktop.CatalogMerge
import SkyAutoPlayer.Foundation.CheckSequence

/-!
# Writing a composition to a cache and reading it back

The cache of a composition is well formed, and gives the same rows and memberships back, exactly when
its sources and songs fit the limits of the cache, no path has two ids up to the case of its ASCII
letters, and every imported song is a song of the library too.
-/

namespace SkyAutoPlayer.Desktop

open Foundation AppCore NativeAdapters

variable {tables : CatalogTables} {fs : FileSystem} {composer : CatalogComposer}
  {imports : List ImportedSourceRef} {composition cached : CatalogComposition} {cache : CatalogCache}
  {entries userEntries : List CatalogSourceEntry} {entry : CatalogSourceEntry} {songId : String}

/-- How many songs the sources list. -/
def listedCount (fs : FileSystem) (composer : CatalogComposer) (imports : List ImportedSourceRef) :
    ℕ :=
  (composer.builtin.load fs).1.length +
    ((entriesFromDirectory fs composer.user false).toOption.getD []).length +
      (imports.map fun source => (importSongs fs source).length).sum

/-- The sources and songs fit a cache, no path has two ids up to the case of its ASCII letters, and
every song has the id of a built-in song or of a song of the user. -/
structure FitsCache (tables : CatalogTables) (fs : FileSystem) (composer : CatalogComposer)
    (imports : List ImportedSourceRef) : Prop where
  sourceCount : imports.length + 2 ≤ catalogCacheMaxSources
  entryCount : listedCount fs composer imports ≤ catalogCacheMaxEntries
  displayNames : ∀ source ∈ imports,
    isBoundedText maxDisplayNameLength (importDisplayName source.canonicalPath source.kind) = true
  songs : ∀ entry, Declares fs composer imports entry →
    isCacheablePath entry.canonicalPath = true ∧ isBoundedText maxCachedTitleLength entry.title = true
  paths : ∀ left right, Declares fs composer imports left → Declares fs composer imports right →
    asciiFolded left.canonicalPath = asciiFolded right.canonicalPath →
      left.songId tables = right.songId tables
  library : ∀ entry, Declares fs composer imports entry →
    ∃ other, Declares fs composer [] other ∧ other.songId tables = entry.songId tables

/-- The cache of a composition is well formed, and gives its rows and memberships back. -/
structure RoundTrips (tables : CatalogTables) (composition : CatalogComposition)
    (cache : CatalogCache) : Prop where
  valid : cache.validate tables = .ok ()
  cached : ∃ cached, cachedComposition tables cache = .ok cached ∧
    (∀ index : CatalogIndex, index.replaceEntries tables cached.entries =
      index.replaceEntries tables composition.entries) ∧
    cached.libraryMembership = composition.libraryMembership ∧
    cached.builtinMembership = composition.builtinMembership ∧
    cached.userMembership = composition.userMembership ∧
    ∀ sourceId, cached.importedMembership.lookup sourceId =
      composition.importedMembership.lookup sourceId

section Memberships

variable {memberships : List (String × Finset String)} {sourceId other : String}
  {songIds : Finset String}

/-- A membership that is set is found, and the others stay. -/
theorem lookup_setMembership : (setMembership sourceId songIds memberships).lookup other =
    if other = sourceId then some songIds else memberships.lookup other := by
  unfold setMembership
  by_cases hsame : other = sourceId
  · rw [if_pos hsame, hsame, List.lookup_cons_self]
  · rw [if_neg hsame, List.lookup_cons, beq_false_of_ne hsame]
    induction memberships with
    | nil => rfl
    | cons head rest ih =>
      obtain ⟨key, value⟩ := head
      by_cases hkey : key = sourceId
      · rw [List.filter_cons_of_neg (by simpa using hkey), ih, List.lookup_cons,
          beq_false_of_ne (hkey ▸ hsame)]
      · rw [List.filter_cons_of_pos (by simpa using hkey), List.lookup_cons, List.lookup_cons]
        cases other == key with
        | true => rfl
        | false => exact ih

/-- The memberships that are set by the items of a list. -/
theorem lookup_foldl_setMembership {Item : Type} {items : List Item} {key : Item → String}
    {value : String → Finset String} :
    (items.foldl (fun found item => setMembership (key item) (value (key item)) found)
      memberships).lookup other =
      if other ∈ items.map key then some (value other) else memberships.lookup other := by
  induction items generalizing memberships with
  | nil => simp
  | cons item rest ih =>
    rw [List.foldl_cons, ih, lookup_setMembership, List.map_cons]
    by_cases hrest : other ∈ rest.map key
    · rw [if_pos hrest, if_pos (List.mem_cons_of_mem _ hrest)]
    · by_cases hitem : other = key item
      · rw [if_neg hrest, if_pos hitem, if_pos (hitem ▸ List.mem_cons_self), hitem]
      · have hboth : other ∉ key item :: rest.map key := by simp [hitem, hrest]
        rw [if_neg hrest, if_neg hitem, if_neg hboth]

/-- An import has a membership exactly if it is one of the imports. -/
theorem lookup_importMemberships_isSome :
    ((importMemberships tables fs memberships imports).lookup other).isSome = true ↔
      other ∈ imports.map (·.sourceId) ∨ (memberships.lookup other).isSome = true := by
  unfold importMemberships
  induction imports generalizing memberships with
  | nil => simp
  | cons source rest ih =>
    rw [List.foldl_cons, ih, lookup_setMembership, List.map_cons, List.mem_cons]
    by_cases hsource : other = source.sourceId
    · simp [hsource]
    · simp [hsource]

/-- The memberships of imports with different ids are those of their songs. -/
theorem lookup_importMemberships {source : ImportedSourceRef} (hsource : source ∈ imports)
    (hdistinct : (imports.map (·.sourceId)).Nodup) :
    (importMemberships tables fs memberships imports).lookup source.sourceId =
      some (pathIds tables (importSongs fs source)) := by
  unfold importMemberships
  induction imports generalizing memberships with
  | nil => cases hsource
  | cons first rest ih =>
    rw [List.map_cons, List.nodup_cons] at hdistinct
    rw [List.foldl_cons]
    by_cases hrest : source ∈ rest
    · exact ih hrest hdistinct.2
    · obtain rfl : source = first := (List.mem_cons.mp hsource).resolve_right hrest
      clear ih
      have hkeep : ∀ (others : List ImportedSourceRef) (found : List (String × Finset String)),
          source.sourceId ∉ others.map (·.sourceId) →
          (others.foldl (fun found other => setMembership other.sourceId
            (pathIds tables (importSongs fs other)) found) found).lookup source.sourceId =
              found.lookup source.sourceId := by
        intro others
        induction others with
        | nil => exact fun _ _ => rfl
        | cons next others ih =>
          intro found hnot
          rw [List.map_cons, List.mem_cons, not_or] at hnot
          rw [List.foldl_cons, ih _ hnot.2, lookup_setMembership, if_neg hnot.1]
      rw [hkeep rest _ hdistinct.1, lookup_setMembership, if_pos rfl]

end Memberships

section Imports

/-- Checked imports have well-formed ids, each once. -/
theorem imports_of_validateDistinct {seen : List String}
    (h : validateDistinctImports seen imports = .ok ()) :
    (∀ source ∈ imports, isValidId source.sourceId = true ∧ source.sourceId ∉ seen) ∧
      (imports.map (·.sourceId)).Nodup := by
  induction imports generalizing seen with
  | nil => simp
  | cons source rest ih =>
    simp only [validateDistinctImports, validateImport, validateImportSourceId, Except.bind_eq_ok,
      failIf_eq_ok] at h
    obtain ⟨⟨⟩, ⟨⟨⟩, hid, -⟩, ⟨⟩, hnew, hrest⟩ := h
    obtain ⟨hvalid, hdistinct⟩ := ih hrest
    rw [List.map_cons, List.nodup_cons]
    refine ⟨fun other hother => ?_, fun hmem => ?_, hdistinct⟩
    · rcases List.mem_cons.mp hother with rfl | htail
      · exact ⟨Bool.eq_true_of_not_eq_false hid, hnew⟩
      · have hother' := hvalid other htail
        exact ⟨hother'.1, fun hseen => hother'.2 (List.mem_cons_of_mem _ hseen)⟩
    · obtain ⟨other, hother, hsame⟩ := List.mem_map.mp hmem
      exact (hvalid other hother).2 (hsame ▸ List.mem_cons_self)

/-- The imports of a checked manifest have well-formed ids, each once. -/
theorem imports_of_validateManifest {manifest : LibraryManifestV1}
    (h : validateManifest manifest = .ok ()) :
    (∀ source ∈ manifest.imports, isValidId source.sourceId = true) ∧
      (manifest.imports.map (·.sourceId)).Nodup := by
  simp only [validateManifest, Except.bind_eq_ok, failIf_eq_ok] at h
  obtain ⟨⟨⟩, -, ⟨⟩, -, ⟨⟩, -, ⟨⟩, -, himports⟩ := h
  obtain ⟨hvalid, hdistinct⟩ := imports_of_validateDistinct himports
  exact ⟨fun source hsource => (hvalid source hsource).1, hdistinct⟩

end Imports

section Composition

/-- An id of an import in a composition is one of its memberships. -/
theorem mem_importMembership {sourceId : String}
    (hid : songId ∈ importMembership composition sourceId) :
    ∃ membership ∈ composition.importedMembership, songId ∈ membership.2 := by
  unfold importMembership at hid
  cases hlookup : composition.importedMembership.lookup sourceId with
  | none => simp [hlookup] at hid
  | some songIds =>
    rw [hlookup] at hid
    obtain ⟨before, after, hsplit, -⟩ := List.lookup_eq_some_iff.mp hlookup
    exact ⟨(sourceId, songIds), by simp [hsplit], hid⟩

variable (h : Composed tables fs composer imports userEntries composition)
include h

/-- The ids of a composition are well formed. -/
theorem isValidId_of_mem
    (hid : songId ∈ composition.builtinMembership ∨ songId ∈ composition.userMembership ∨
      ∃ membership ∈ composition.importedMembership, songId ∈ membership.2) :
    isValidId songId = true := by
  obtain ⟨entry, -, rfl⟩ := h.exists_entry (.inr hid)
  exact CatalogSourceEntry.isValidId_songId

/-- A membership of an import is found by its name. -/
theorem lookup_importedMembership (hdistinct : (imports.map (·.sourceId)).Nodup)
    {membership : String × Finset String} (hmem : membership ∈ composition.importedMembership) :
    importMembership composition membership.1 = membership.2 ∧
      ∃ source ∈ imports, source.sourceId = membership.1 := by
  rw [h.importedMembership] at hmem
  rcases mem_importMemberships hmem with hnil | ⟨source, hsource, rfl⟩
  · cases hnil
  · rw [importMembership, h.importedMembership, lookup_importMemberships hsource hdistinct]
    exact ⟨rfl, source, hsource, rfl⟩

/-- Every song of a composition is one of its built-in songs, of its songs of the user, or of
an import. -/
theorem mem_some_membership (hdistinct : (imports.map (·.sourceId)).Nodup)
    (hentry : entry ∈ composition.entries) :
    entry.songId tables ∈ composition.builtinMembership ∨
      entry.songId tables ∈ composition.userMembership ∨
        ∃ membership ∈ composition.importedMembership, entry.songId tables ∈ membership.2 := by
  rw [h.entries, List.mem_insertionSort, List.mem_append, List.mem_append, List.mem_flatMap] at hentry
  rcases hentry with (hbuiltin | huser) | ⟨source, hsource, hsong⟩
  · left
    rw [h.builtinMembership]
    exact mem_load_ids.mpr ⟨entry, hbuiltin, rfl⟩
  · right
    left
    rw [h.userMembership]
    exact (mem_pathIds fun other hother => songAt_of_mem_user h.user hother).mpr ⟨entry, huser, rfl⟩
  · right
    right
    have hlookup : (importMemberships tables fs [] imports).lookup source.sourceId =
        some (pathIds tables (importSongs fs source)) := lookup_importMemberships hsource hdistinct
    obtain ⟨before, after, hsplit, -⟩ := List.lookup_eq_some_iff.mp hlookup
    refine ⟨(source.sourceId, pathIds tables (importSongs fs source)), ?_, ?_⟩
    · rw [h.importedMembership, hsplit]
      exact List.mem_append_right _ List.mem_cons_self
    · exact (mem_pathIds fun other hother => songAt_of_mem_importSongs hother).mpr
        ⟨entry, hsong, rfl⟩

/-- A song without the id of a built-in song is identified by its path. -/
theorem songId_of_not_builtin (hentry : entry ∈ composition.entries)
    (hnot : entry.songId tables ∉ composition.builtinMembership) :
    entry.songId tables = songIdForCanonicalPath tables entry.canonicalPath := by
  rw [h.entries, List.mem_insertionSort, List.mem_append, List.mem_append, List.mem_flatMap] at hentry
  rcases hentry with (hbuiltin | huser) | ⟨source, hsource, hsong⟩
  · rw [h.builtinMembership] at hnot
    exact absurd (mem_load_ids.mpr ⟨entry, hbuiltin, rfl⟩) hnot
  · obtain ⟨path, hat⟩ := songAt_of_mem_user h.user huser
    exact hat.songId_eq
  · obtain ⟨path, hat⟩ := songAt_of_mem_importSongs hsong
    exact hat.songId_eq

/-- The names of the sources of a cache are distinct. -/
theorem cacheSources_distinct (hdistinct : (imports.map (·.sourceId)).Nodup) :
    ((cacheSources composition).map fun source => (source.kind, source.sourceId)).Nodup := by
  have himported : (composition.importedStatus.map fun status =>
      (CatalogCacheSourceKind.imported, status.sourceId)).Nodup := by
    rw [h.importedStatus, List.map_map]
    have hpair := hdistinct.map (f := fun sourceId => (CatalogCacheSourceKind.imported, sourceId))
      fun left right hsame => (Prod.mk.inj hsame).2
    rwa [List.map_map] at hpair
  simp only [cacheSources, List.cons_append, List.nil_append, List.map_cons, List.map_map,
    List.nodup_cons, List.mem_cons, List.mem_map, Function.comp_apply]
  refine ⟨?_, ?_, himported⟩
  · rintro (hsame | ⟨status, -, hsame⟩)
    · cases (Prod.mk.inj hsame).1
    · cases (Prod.mk.inj hsame).1
  · rintro ⟨status, -, hsame⟩
    cases (Prod.mk.inj hsame).1

/-- The status of an import is in the composition. -/
theorem importStatus_mem {source : ImportedSourceRef} (hsource : source ∈ imports) :
    importStatus tables fs source ∈ composition.importedStatus := by
  rw [h.importedStatus]
  exact List.mem_map_of_mem hsource

/-- The sources of a cache are well formed when the names of the imports fit. -/
theorem cacheSources_valid (hids : ∀ source ∈ imports, isValidId source.sourceId = true)
    (hnames : ∀ source ∈ imports,
      isBoundedText maxDisplayNameLength (importDisplayName source.canonicalPath source.kind) = true)
    {source : CatalogCacheSource} (hsource : source ∈ cacheSources composition) : source.Valid := by
  have hvalid : ∀ songId, (songId ∈ composition.builtinMembership ∨
      songId ∈ composition.userMembership ∨
        ∃ membership ∈ composition.importedMembership, songId ∈ membership.2) →
      isValidId songId = true := fun songId hid => isValidId_of_mem h hid
  have hbuiltinName : isBoundedText maxDisplayNameLength "Built-in library" = true := by decide
  have huserName : isBoundedText maxDisplayNameLength "User library" = true := by decide
  rw [cacheSources, List.mem_append, List.mem_pair, List.mem_map] at hsource
  rcases hsource with (rfl | rfl) | ⟨status, hstatus, rfl⟩
  · exact ⟨rfl, rfl, hbuiltinName, fun songId hid => hvalid songId (.inl ((Finset.mem_sort _).mp hid)),
      Finset.sort_nodup _ _⟩
  · exact ⟨rfl, rfl, huserName,
      fun songId hid => hvalid songId (.inr (.inl ((Finset.mem_sort _).mp hid))),
      Finset.sort_nodup _ _⟩
  · rw [h.importedStatus, List.mem_map] at hstatus
    obtain ⟨imported, himported, rfl⟩ := hstatus
    have hname : isBoundedText maxDisplayNameLength
        (importStatus tables fs imported).displayName = true := by
      rw [importStatus_displayName]
      exact hnames imported himported
    refine ⟨hids imported himported, rfl, hname, fun songId hid => ?_, Finset.sort_nodup _ _⟩
    exact hvalid songId (.inr (.inr (mem_importMembership ((Finset.mem_sort _).mp hid))))

/-- The name of an import is the name of a source of the cache. -/
theorem displayName_of_valid {source : ImportedSourceRef} (hsource : source ∈ imports)
    (hvalid : ∀ cached ∈ cacheSources composition, cached.Valid) :
    isBoundedText maxDisplayNameLength (importDisplayName source.canonicalPath source.kind) = true := by
  have hname := (hvalid _ (List.mem_append_right _
    (List.mem_map_of_mem (importStatus_mem h hsource)))).displayName
  rw [importStatus_displayName] at hname
  exact hname

/-- The source that a cache names for a song has the song and is well formed, and is the built-in one
if the song has the id of a built-in song. -/
theorem cacheSourceForSong_spec (hdistinct : (imports.map (·.sourceId)).Nodup)
    (hids : ∀ source ∈ imports, isValidId source.sourceId = true)
    (hid : songId ∈ composition.builtinMembership ∨ songId ∈ composition.userMembership ∨
      ∃ membership ∈ composition.importedMembership, songId ∈ membership.2) :
    let owner := cacheSourceForSong composition songId
    isSourceId owner.1 owner.2 = true ∧
      (owner.2 ≠ .builtin → songId ∉ composition.builtinMembership) ∧
        ∃ source, (cacheSources composition).find? (fun source =>
          source.kind = owner.2 ∧ source.sourceId = owner.1) = some source ∧
            songId ∈ source.songIds := by
  by_cases hbuiltin : songId ∈ composition.builtinMembership
  · rw [cacheSourceForSong, if_pos hbuiltin]
    refine ⟨rfl, fun hne => absurd rfl hne, _, List.find?_cons_of_pos (by simp), ?_⟩
    exact (Finset.mem_sort _).mpr hbuiltin
  by_cases huser : songId ∈ composition.userMembership
  · rw [cacheSourceForSong, if_neg hbuiltin, if_pos huser]
    refine ⟨rfl, fun _ => hbuiltin, _,
      (List.find?_cons_of_neg (by simp)).trans (List.find?_cons_of_pos (by simp)), ?_⟩
    exact (Finset.mem_sort _).mpr huser
  · rw [cacheSourceForSong, if_neg hbuiltin, if_neg huser]
    obtain ⟨membership, hmembership, hmem⟩ := (hid.resolve_left hbuiltin).resolve_left huser
    have howner : membership.1 ∈ (composition.importedMembership.filter fun membership =>
        songId ∈ membership.2).map Prod.fst :=
      List.mem_map_of_mem (List.mem_filter.mpr ⟨hmembership, decide_eq_true hmem⟩)
    dsimp only
    split
    case h_1 sourceId hmin =>
      obtain ⟨owned, howned, rfl⟩ := List.mem_map.mp (List.min?_mem hmin)
      obtain ⟨hownedMem, hownedId⟩ := List.mem_filter.mp howned
      obtain ⟨hlookup, source, hsource, hname⟩ := lookup_importedMembership h hdistinct hownedMem
      refine ⟨hname ▸ hids source hsource, fun _ => hbuiltin, ?_⟩
      have hsome : ((cacheSources composition).find? fun source =>
          source.kind = .imported ∧ source.sourceId = owned.1).isSome = true :=
        List.find?_isSome.mpr ⟨_, List.mem_append_right _
          (List.mem_map_of_mem (importStatus_mem h hsource)), decide_eq_true ⟨rfl, hname⟩⟩
      obtain ⟨found, hfound⟩ := Option.isSome_iff_exists.mp hsome
      refine ⟨found, hfound, ?_⟩
      have hkey := List.find?_some hfound
      simp only [Bool.decide_and, Bool.and_eq_true, decide_eq_true_eq] at hkey
      have hmemFound := List.mem_of_find?_eq_some hfound
      rw [cacheSources, List.mem_append, List.mem_pair, List.mem_map] at hmemFound
      rcases hmemFound with (rfl | rfl) | ⟨status, -, rfl⟩
      · cases hkey.1
      · cases hkey.1
      · refine (Finset.mem_sort _).mpr ?_
        rw [show status.sourceId = owned.1 from hkey.2, hlookup]
        exact of_decide_eq_true hownedId
    case h_2 hmin =>
      rw [List.min?_eq_none_iff.mp hmin] at howner
      cases howner

end Composition

section Entries

/-- An entry of a cache is one for an entry of the composition. -/
structure CachedAs (tables : CatalogTables) (composition : CatalogComposition)
    (entry : CatalogSourceEntry) (cached : CatalogCacheEntry) : Prop where
  owner : (cached.sourceId, cached.kind) = cacheSourceForSong composition (entry.songId tables)
  path : cached.canonicalPath = entry.canonicalPath
  songId : cached.songId = entry.songId tables
  title : cached.title = entry.title

/-- The parts of the cache of a composition. -/
theorem cache_of_composition {fingerprint : String} {previous : Option CatalogCache}
    (hcache : catalogCacheFromComposition tables fs composition fingerprint previous = .ok cache) :
    cache.schemaVersion = catalogCacheSchemaVersion ∧ cache.cacheGeneration ≠ 0 ∧
      cache.sourceFingerprint = fingerprint ∧ cache.sources = cacheSources composition ∧
        List.Forall₂ (CachedAs tables composition) composition.entries cache.entries := by
  simp only [catalogCacheFromComposition, Except.bind_eq_ok, Except.pure_eq_ok] at hcache
  obtain ⟨entries, hentries, rfl⟩ := hcache
  refine ⟨rfl, ?_, rfl, rfl, ?_⟩
  · cases previous with
    | none => exact one_ne_zero
    | some cache =>
      have hpositive := Nat.le_max_right (saturatingAdd 64 cache.cacheGeneration 1) 1
      exact Nat.one_le_iff_ne_zero.mp hpositive
  · refine (forall₂_of_mapM hentries).imp fun entry cached hentry => ?_
    simp only [cacheEntry, Except.bind_eq_ok, Except.pure_eq_ok] at hentry
    obtain ⟨metadata, -, rfl⟩ := hentry
    exact ⟨rfl, rfl, rfl, rfl⟩

/-- A relation between two lists relates every item of one to an item of the other. -/
theorem related_of_forall₂ {Item Value : Type} {relation : Item → Value → Prop} {items : List Item}
    {values : List Value} (h : List.Forall₂ relation items values) :
    (∀ item ∈ items, ∃ value ∈ values, relation item value) ∧
      ∀ value ∈ values, ∃ item ∈ items, relation item value := by
  induction h with
  | nil => simp
  | cons hfirst _ ih =>
    refine ⟨fun item hmem => ?_, fun value hmem => ?_⟩
    · rcases List.mem_cons.mp hmem with rfl | htail
      · exact ⟨_, List.mem_cons_self, hfirst⟩
      · obtain ⟨value, hvalue, hrelated⟩ := ih.1 item htail
        exact ⟨value, List.mem_cons_of_mem _ hvalue, hrelated⟩
    · rcases List.mem_cons.mp hmem with rfl | htail
      · exact ⟨_, List.mem_cons_self, hfirst⟩
      · obtain ⟨item, hitem, hrelated⟩ := ih.2 value htail
        exact ⟨item, List.mem_cons_of_mem _ hitem, hrelated⟩

end Entries

section Reading

/-- Reading the imports of a cache adds their memberships, and their songs to the library. -/
theorem foldl_addCachedSource {statuses : List ImportedSourceCatalogStatus}
    {read : CatalogComposition} :
    let after := (statuses.map fun status : ImportedSourceCatalogStatus =>
      (⟨status.sourceId, .imported, some status.kind, status.displayName, status.available,
        (importMembership composition status.sourceId).sort (· ≤ ·)⟩ : CatalogCacheSource)).foldl
          addCachedSource read
    after.builtinMembership = read.builtinMembership ∧ after.userMembership = read.userMembership ∧
      (∀ songId, songId ∈ after.libraryMembership ↔ songId ∈ read.libraryMembership ∨
        ∃ status ∈ statuses, songId ∈ importMembership composition status.sourceId) ∧
      after.importedMembership = statuses.foldl (fun found status => setMembership status.sourceId
        (importMembership composition status.sourceId) found) read.importedMembership := by
  induction statuses generalizing read with
  | nil => simp
  | cons status rest ih =>
    obtain ⟨hbuiltin, huser, hlibrary, himported⟩ := @ih (addCachedSource read
      ⟨status.sourceId, .imported, some status.kind, status.displayName, status.available,
        (importMembership composition status.sourceId).sort (· ≤ ·)⟩)
    rw [List.map_cons, List.foldl_cons, List.foldl_cons]
    refine ⟨hbuiltin, huser, fun songId => ?_, ?_⟩
    · rw [hlibrary]
      simp only [addCachedSource, Finset.sort_toFinset, Finset.mem_union, List.mem_cons,
        exists_eq_or_imp, or_assoc]
    · rw [himported, addCachedSource, Finset.sort_toFinset]

/-- The memberships that are read from the cache of a composition. -/
theorem read_cacheSources :
    let read := (cacheSources composition).foldl addCachedSource emptyComposition
    read.builtinMembership = composition.builtinMembership ∧
      read.userMembership = composition.userMembership ∧
      (∀ songId, songId ∈ read.libraryMembership ↔ songId ∈ composition.builtinMembership ∨
        songId ∈ composition.userMembership ∨ ∃ status ∈ composition.importedStatus,
          songId ∈ importMembership composition status.sourceId) ∧
      ∀ sourceId, read.importedMembership.lookup sourceId =
        if sourceId ∈ composition.importedStatus.map (·.sourceId) then
          some (importMembership composition sourceId) else none := by
  rw [cacheSources, List.foldl_append, List.foldl_cons, List.foldl_cons, List.foldl_nil]
  have hfold := fun start => @foldl_addCachedSource composition composition.importedStatus start
  refine ⟨(hfold _).1.trans ?_, (hfold _).2.1.trans ?_, fun songId =>
    ((hfold _).2.2.1 songId).trans ?_, fun sourceId => ?_⟩
  · simp [addCachedSource, emptyComposition]
  · simp [addCachedSource, emptyComposition]
  · simp [addCachedSource, emptyComposition, or_assoc]
  · exact (congrArg (List.lookup sourceId) (hfold _).2.2.2).trans lookup_foldl_setMembership

/-- Entries with the same paths, ids and titles are indexed alike. -/
theorem foldlM_indexSource_congr {left right : List CatalogSourceEntry}
    {indexed : List CatalogEntry × List (String × String)}
    (h : List.Forall₂ (fun one other : CatalogSourceEntry => one.canonicalPath = other.canonicalPath ∧
      one.songId tables = other.songId tables ∧ one.title = other.title) left right) :
    left.foldlM (indexSource tables) indexed = right.foldlM (indexSource tables) indexed := by
  induction h generalizing indexed with
  | nil => rfl
  | @cons one other _ _ hfirst _ ih =>
    obtain ⟨hpath, hid, htitle⟩ := hfirst
    have hstep : indexSource tables indexed one = indexSource tables indexed other := by
      unfold indexSource
      rw [hpath, hid, htitle]
    rw [List.foldlM_cons, List.foldlM_cons, hstep]
    congr 1
    funext next
    exact ih

end Reading

section RoundTrip

variable (h : Composed tables fs composer imports userEntries composition)
include h

/-- A composition lists every song once for each of its sources. -/
theorem entries_length : composition.entries.length = listedCount fs composer imports := by
  rw [h.entries, List.length_insertionSort, List.length_append, List.length_append,
    List.length_flatMap, listedCount, h.user]
  rfl

/-- An entry of the cache of a composition is well formed when its song fits. -/
theorem cachedEntry_valid (hdistinct : (imports.map (·.sourceId)).Nodup)
    (hids : ∀ source ∈ imports, isValidId source.sourceId = true)
    (hentry : entry ∈ composition.entries) {song : CatalogCacheEntry}
    (hsong : CachedAs tables composition entry song)
    (hfits : isCacheablePath entry.canonicalPath = true ∧
      isBoundedText maxCachedTitleLength entry.title = true) :
    song.Valid tables (cacheSources composition) := by
  have hid := mem_some_membership h hdistinct hentry
  obtain ⟨hsourceId, hbuiltin, source, hsource, hmem⟩ := cacheSourceForSong_spec h hdistinct hids hid
  rw [← hsong.owner] at hsourceId hbuiltin hsource
  refine ⟨hsourceId, ⟨source, hsource, hsong.songId ▸ hmem⟩, hsong.path ▸ hfits.1, ?_, fun hkind => ?_,
    hsong.title ▸ hfits.2⟩
  · rw [hsong.songId]
    exact CatalogSourceEntry.isValidId_songId
  · rw [hsong.songId, hsong.path]
    exact songId_of_not_builtin h hentry (hbuiltin hkind)

/-- What is read for an entry of the cache has the path, the id and the title of the song. -/
theorem cachedEntryToSource_same (hdistinct : (imports.map (·.sourceId)).Nodup)
    (hids : ∀ source ∈ imports, isValidId source.sourceId = true)
    (hentry : entry ∈ composition.entries) {song : CatalogCacheEntry}
    (hsong : CachedAs tables composition entry song) :
    (cachedEntryToSource song).canonicalPath = entry.canonicalPath ∧
      (cachedEntryToSource song).songId tables = entry.songId tables ∧
        (cachedEntryToSource song).title = entry.title := by
  refine ⟨hsong.path, ?_, hsong.title⟩
  have hid := mem_some_membership h hdistinct hentry
  obtain ⟨-, hbuiltin, -⟩ := cacheSourceForSong_spec h hdistinct hids hid
  rw [← hsong.owner] at hbuiltin
  have hvalid : isValidId song.songId = true := by
    rw [hsong.songId]
    exact CatalogSourceEntry.isValidId_songId
  have hstable : stableSongId? song.songId = some ⟨song.songId, hvalid⟩ := stableSongId_some.mpr rfl
  rw [cachedEntryToSource, hstable]
  cases hkind : song.kind with
  | builtin => exact hsong.songId
  | user | imported =>
    rw [hkind] at hbuiltin
    rw [songId_of_not_builtin h hentry (hbuiltin (by simp)), CatalogSourceEntry.songId, hsong.path]

/-- The memberships of a composition are read back, but for the library. -/
theorem importedMembership_read (hdistinct : (imports.map (·.sourceId)).Nodup) (sourceId : String) :
    (if sourceId ∈ composition.importedStatus.map (·.sourceId) then
      some (importMembership composition sourceId) else none) =
        composition.importedMembership.lookup sourceId := by
  have hstatuses : composition.importedStatus.map (·.sourceId) = imports.map (·.sourceId) := by
    rw [h.importedStatus, List.map_map]
    rfl
  rw [hstatuses]
  split
  case isTrue hmem =>
    obtain ⟨source, hsource, rfl⟩ := List.mem_map.mp hmem
    rw [importMembership, h.importedMembership, lookup_importMemberships hsource hdistinct]
    rfl
  case isFalse hnone =>
    have hlookup := (@lookup_importMemberships_isSome tables fs imports [] sourceId).not.mpr
      (not_or.mpr ⟨hnone, by simp⟩)
    rw [h.importedMembership]
    exact (Option.not_isSome_iff_eq_none.mp hlookup).symm

/-- The entries of the cache are the entries of the composition, for every index. -/
theorem replaceEntries_read (hdistinct : (imports.map (·.sourceId)).Nodup)
    (hids : ∀ source ∈ imports, isValidId source.sourceId = true)
    (hcached : List.Forall₂ (CachedAs tables composition) composition.entries cache.entries)
    (index : CatalogIndex) :
    index.replaceEntries tables ((cache.entries.map cachedEntryToSource).insertionSort pathOrder) =
      index.replaceEntries tables composition.entries := by
  have hsame : List.Forall₂ (fun one other : CatalogSourceEntry =>
      one.canonicalPath = other.canonicalPath ∧ one.songId tables = other.songId tables ∧
        one.title = other.title) (cache.entries.map cachedEntryToSource) composition.entries := by
    rw [List.forall₂_map_left_iff]
    refine List.Forall₂.flip ?_
    have hboth := (List.forall₂_and_left _ _).mpr ⟨fun entry hentry => hentry, hcached⟩
    exact hboth.imp fun entry song ⟨hentry, hsong⟩ =>
      cachedEntryToSource_same h hdistinct hids hentry hsong
  have hsorted : (cache.entries.map cachedEntryToSource).Pairwise pathOrder := by
    have hentries : composition.entries.Pairwise pathOrder := by
      have : Std.Total pathOrder :=
        ⟨fun left right => le_total left.canonicalPath right.canonicalPath⟩
      have : IsTrans CatalogSourceEntry pathOrder := ⟨fun _ _ _ hleft hright => le_trans hleft hright⟩
      rw [h.entries]
      exact List.pairwise_insertionSort _ _
    have hpaths : (cache.entries.map cachedEntryToSource).map (·.canonicalPath) =
        composition.entries.map (·.canonicalPath) := by
      rw [← List.forall₂_eq_eq_eq, List.forall₂_map_left_iff, List.forall₂_map_right_iff]
      exact hsame.imp fun _ _ hfields => hfields.1
    have hordered : (composition.entries.map (·.canonicalPath)).Pairwise
        fun left right => left ≤ right := List.pairwise_map.mpr hentries
    rw [← hpaths] at hordered
    exact (List.pairwise_map (R := fun left right : String => left ≤ right)).mp hordered
  rw [hsorted.insertionSort_eq, CatalogIndex.replaceEntries, CatalogIndex.replaceEntries,
    foldlM_indexSource_congr hsame]

/-- A song is in the library, or would be without the imports. -/
theorem mem_libraryMembership_iff :
    songId ∈ composition.libraryMembership ↔
      ∃ other, Declares fs composer [] other ∧ other.songId tables = songId := by
  have hlibrary : Composed tables fs composer [] userEntries
      ((CatalogComposition.ofLibrary tables fs composer.builtin userEntries).sorted) :=
    ⟨h.user, by simp [CatalogComposition.sorted, CatalogComposition.ofLibrary], rfl, rfl, rfl, rfl, rfl,
      rfl⟩
  rw [h.libraryMembership, Finset.mem_union, h.builtinMembership, h.userMembership, mem_load_ids,
    mem_pathIds fun other hother => songAt_of_mem_user h.user hother]
  constructor
  · rintro (⟨entry, hentry, hid⟩ | ⟨entry, hentry, hid⟩)
    · refine ⟨entry, hlibrary.mem_iff.mp ?_, hid⟩
      rw [hlibrary.entries, List.mem_insertionSort]
      exact List.mem_append_left _ (List.mem_append_left _ hentry)
    · refine ⟨entry, hlibrary.mem_iff.mp ?_, hid⟩
      rw [hlibrary.entries, List.mem_insertionSort]
      exact List.mem_append_left _ (List.mem_append_right _ hentry)
  · rintro ⟨other, hother, hid⟩
    have hmem := hlibrary.mem_iff.mpr hother
    rw [hlibrary.entries, List.mem_insertionSort, List.flatMap_nil, List.append_nil,
      List.mem_append] at hmem
    exact hmem.imp (fun hbuiltin => ⟨other, hbuiltin, hid⟩) fun huser => ⟨other, huser, hid⟩

/-- A song of a source is read into the library. -/
theorem mem_read_library (hdistinct : (imports.map (·.sourceId)).Nodup)
    (hentry : entry ∈ composition.entries) :
    entry.songId tables ∈
      ((cacheSources composition).foldl addCachedSource emptyComposition).libraryMembership := by
  rw [read_cacheSources.2.2.1]
  refine (mem_some_membership h hdistinct hentry).imp_right (Or.imp_right ?_)
  rintro ⟨membership, hmembership, hid⟩
  obtain ⟨hlookup, source, hsource, hname⟩ := lookup_importedMembership h hdistinct hmembership
  refine ⟨importStatus tables fs source, importStatus_mem h hsource, ?_⟩
  rw [importStatus_sourceId, hname, hlookup]
  exact hid

/-- What is read into the library are ids of songs. -/
theorem exists_of_mem_read_library
    (hid : songId ∈
      ((cacheSources composition).foldl addCachedSource emptyComposition).libraryMembership) :
    ∃ entry ∈ composition.entries, entry.songId tables = songId := by
  rw [read_cacheSources.2.2.1] at hid
  refine h.exists_entry (.inr (hid.imp_right (Or.imp_right ?_)))
  rintro ⟨status, -, hmem⟩
  exact mem_importMembership hmem

/-- The cache of a composition is well formed when the composition fits. -/
theorem valid_of_fits {payload : List UInt8} {previous : Option CatalogCache}
    (hids : ∀ source ∈ imports, isValidId source.sourceId = true)
    (hdistinct : (imports.map (·.sourceId)).Nodup)
    (hcache : catalogCacheFromComposition tables fs composition
      (hexText (tables.sha256 payload).toList) previous = .ok cache)
    (hfits : FitsCache tables fs composer imports) : cache.Valid tables := by
  obtain ⟨hschema, hgeneration, hfingerprint, hsources, hcached⟩ := cache_of_composition hcache
  have hentries := (related_of_forall₂ hcached).2
  refine ⟨hschema, hgeneration, ?_, ?_, ?_, fun source hsource => ?_, ?_, fun song hsong => ?_,
    fun left hleft right hright hpaths => ?_, fun source hsource songId hid => ?_⟩
  · have hdigits := (@hexText_digits (tables.sha256 payload).toList).2
    rw [hfingerprint, hexText_digits.1, Vector.length_toList]
    refine ⟨rfl, Array.all_eq_true_iff_forall_mem.mpr fun byte hbyte => ?_⟩
    have hlower := Array.all_eq_true_iff_forall_mem.mp hdigits byte hbyte
    rw [isLowerHexDigit, Bool.and_eq_true] at hlower
    exact hlower.1
  · rw [hsources, cacheSources, List.length_append, List.length_map, h.importedStatus,
      List.length_map]
    have hcount := hfits.sourceCount
    simp only [List.length_cons, List.length_nil]
    omega
  · rw [← hcached.length_eq, entries_length h]
    exact hfits.entryCount
  · exact cacheSources_valid h hids hfits.displayNames (hsources ▸ hsource)
  · rw [hsources]
    exact cacheSources_distinct h hdistinct
  · obtain ⟨entry, hentry, hsame⟩ := hentries song hsong
    rw [hsources]
    exact cachedEntry_valid h hdistinct hids hentry hsame (hfits.songs entry (h.mem_iff.mp hentry))
  · obtain ⟨leftEntry, hleftEntry, hleftSame⟩ := hentries left hleft
    obtain ⟨rightEntry, hrightEntry, hrightSame⟩ := hentries right hright
    rw [hleftSame.path, hrightSame.path] at hpaths
    rw [hleftSame.songId, hrightSame.songId]
    exact hfits.paths leftEntry rightEntry (h.mem_iff.mp hleftEntry) (h.mem_iff.mp hrightEntry) hpaths
  · have hread : songId ∈
        ((cacheSources composition).foldl addCachedSource emptyComposition).libraryMembership := by
      rw [read_cacheSources.2.2.1]
      rw [hsources, cacheSources, List.mem_append, List.mem_pair, List.mem_map] at hsource
      rcases hsource with (rfl | rfl) | ⟨status, hstatus, rfl⟩
      · exact .inl ((Finset.mem_sort _).mp hid)
      · exact .inr (.inl ((Finset.mem_sort _).mp hid))
      · exact .inr (.inr ⟨status, hstatus, (Finset.mem_sort _).mp hid⟩)
    obtain ⟨entry, hentry, hsame⟩ := exists_of_mem_read_library h hread
    obtain ⟨song, hsong, hcachedAs⟩ := (related_of_forall₂ hcached).1 entry hentry
    exact ⟨song, hsong, hcachedAs.songId.trans hsame⟩

end RoundTrip

/-- The cache of a composition is well formed and gives its rows and memberships back exactly when the
composition fits a cache and every imported song is a song of the library too. It makes no difference
whether the imports can be read. -/
theorem catalog_cache_round_trip {tables : CatalogTables} {fs : FileSystem}
    {composer : CatalogComposer} {manifest : LibraryManifestV1} {composition : CatalogComposition}
    {payload : List UInt8} {previous : Option CatalogCache} {cache : CatalogCache}
    (hmanifest : validateManifest manifest = .ok ())
    (hcompose : composer.compose tables fs manifest.imports = .ok composition)
    (hcache : catalogCacheFromComposition tables fs composition
      (hexText (tables.sha256 payload).toList) previous = .ok cache) :
    RoundTrips tables composition cache ↔ FitsCache tables fs composer manifest.imports := by
  obtain ⟨userEntries, h⟩ := composed_of_compose hcompose
  obtain ⟨hids, hdistinct⟩ := imports_of_validateManifest hmanifest
  obtain ⟨-, -, -, hsources, hcached⟩ := cache_of_composition hcache
  constructor
  · intro hround
    have hvalid := validate_ok_iff.mp hround.valid
    obtain ⟨read, hread, -, hlibrary, -⟩ := hround.cached
    simp only [cachedComposition, Except.bind_eq_ok, Except.pure_eq_ok, hsources] at hread
    obtain ⟨⟨⟩, -, rfl⟩ := hread
    have hstands : ∀ entry, Declares fs composer manifest.imports entry →
        ∃ song ∈ cache.entries, CachedAs tables composition entry song := by
      intro entry hentry
      exact (related_of_forall₂ hcached).1 entry (h.mem_iff.mpr hentry)
    refine ⟨?_, ?_, fun source hsource => ?_, fun entry hentry => ?_,
      fun left right hleft hright hpaths => ?_, fun entry hentry => ?_⟩
    · have hcount := hvalid.sourceCount
      rw [hsources, cacheSources, List.length_append, List.length_map, h.importedStatus,
        List.length_map] at hcount
      simp only [List.length_cons, List.length_nil] at hcount
      omega
    · rw [← entries_length h, hcached.length_eq]
      exact hvalid.entryCount
    · exact displayName_of_valid h hsource (hsources ▸ hvalid.sources)
    · obtain ⟨song, hsong, hsame⟩ := hstands entry hentry
      have hfields := hvalid.entries song hsong
      exact ⟨hsame.path ▸ hfields.path, hsame.title ▸ hfields.title⟩
    · obtain ⟨leftSong, hleftSong, hleftSame⟩ := hstands left hleft
      obtain ⟨rightSong, hrightSong, hrightSame⟩ := hstands right hright
      have hsame := hvalid.paths leftSong hleftSong rightSong hrightSong
      rw [hleftSame.path, hrightSame.path, hleftSame.songId, hrightSame.songId] at hsame
      exact hsame hpaths
    · refine (mem_libraryMembership_iff h).mp ?_
      rw [← hlibrary]
      exact mem_read_library h hdistinct (h.mem_iff.mpr hentry)
  · intro hfits
    have hvalidate := validate_ok_iff.mpr (valid_of_fits h hids hdistinct hcache hfits)
    obtain ⟨hbuiltin, huser, -, himported⟩ := @read_cacheSources composition
    have hlibrary : ((cacheSources composition).foldl addCachedSource
        emptyComposition).libraryMembership = composition.libraryMembership := by
      ext songId
      constructor
      · intro hid
        obtain ⟨entry, hentry, rfl⟩ := exists_of_mem_read_library h hid
        exact (mem_libraryMembership_iff h).mpr (hfits.library entry (h.mem_iff.mp hentry))
      · intro hid
        obtain ⟨entry, hentry, rfl⟩ := h.exists_entry (.inl hid)
        exact mem_read_library h hdistinct hentry
    refine ⟨hvalidate, { (cacheSources composition).foldl addCachedSource emptyComposition with
      entries := (cache.entries.map cachedEntryToSource).insertionSort pathOrder }, ?_,
      fun index => replaceEntries_read h hdistinct hids hcached index, hlibrary, hbuiltin, huser,
      fun sourceId => (himported sourceId).trans (importedMembership_read h hdistinct sourceId)⟩
    simp only [cachedComposition, Except.bind_eq_ok, hsources]
    exact ⟨(), hvalidate, rfl⟩

/-- The file system of the scenario, with a size and a time for every file. -/
def storedFiles : FileSystem := { scenarioFiles with metadata := fun _ => some (1, some 1) }

/-- The library of the scenario: one imported folder. -/
def importingManifest : LibraryManifestV1 := ⟨1, [scenarioImport "\\\\?\\C:\\Shared"], []⟩

/-- A user imports a folder: its song is not in the library, but is in the library that is read from the
cache. -/
theorem imported_song_joins_library :
    ¬∀ (tables : CatalogTables) (fs : FileSystem) (composer : CatalogComposer)
      (manifest : LibraryManifestV1) (composition : CatalogComposition) (payload : List UInt8)
      (previous : Option CatalogCache) (cache : CatalogCache),
      validateManifest manifest = .ok () →
      composer.compose tables fs manifest.imports = .ok composition →
      (∀ source ∈ manifest.imports, (importEntries fs source).isSome = true) →
      catalogCacheFromComposition tables fs composition
        (hexText (tables.sha256 payload).toList) previous = .ok cache →
      RoundTrips tables composition cache := by
  intro h
  have hcheck : (scenarioComposer.compose pathTables storedFiles
      importingManifest.imports).toOption.any (fun composition =>
        (catalogCacheFromComposition pathTables storedFiles composition
          (hexText (pathTables.sha256 []).toList) none).toOption.any fun cache =>
            (cachedComposition pathTables cache).toOption.all fun read =>
              read.libraryMembership ≠ composition.libraryMembership) = true := by decide +kernel
  obtain ⟨composition, hcompose, hrest⟩ := Except.exists_of_any hcheck
  obtain ⟨cache, hcache, hread⟩ := Except.exists_of_any hrest
  have hround := h pathTables storedFiles scenarioComposer importingManifest composition [] none cache
    (by decide +kernel) hcompose (by decide +kernel) hcache
  obtain ⟨read, hcached, -, hlibrary, -⟩ := hround.cached
  rw [hcached] at hread
  exact of_decide_eq_true hread hlibrary

/-- In the library of the scenario the condition is about one imported folder. -/
theorem catalog_cache_round_trip_scenario :
    ∃ composition cache, scenarioComposer.compose pathTables storedFiles importingManifest.imports =
        .ok composition ∧
      catalogCacheFromComposition pathTables storedFiles composition
        (hexText (pathTables.sha256 []).toList) none = .ok cache ∧
      (RoundTrips pathTables composition cache ↔
        FitsCache pathTables storedFiles scenarioComposer importingManifest.imports) := by
  have hcheck : (scenarioComposer.compose pathTables storedFiles
      importingManifest.imports).toOption.any (fun composition =>
        (catalogCacheFromComposition pathTables storedFiles composition
          (hexText (pathTables.sha256 []).toList) none).toOption.any fun _ => true) = true := by
    decide +kernel
  obtain ⟨composition, hcompose, hrest⟩ := Except.exists_of_any hcheck
  obtain ⟨cache, hcache, -⟩ := Except.exists_of_any hrest
  exact ⟨composition, cache, hcompose, hcache, catalog_cache_round_trip (by decide +kernel) hcompose
    hcache⟩

end SkyAutoPlayer.Desktop
