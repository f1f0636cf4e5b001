import Mathlib.Data.List.Sort
import SkyAutoPlayer.AppCore.CatalogIndex

/-!
# When the index accepts its sources

Two entries agree when they have one id exactly if they have one path. The index accepts the entries
of its sources exactly when all have the path of a song and any two agree, and then its ids are those
of the entries.
-/

namespace SkyAutoPlayer.AppCore

open Foundation

variable {tables : CatalogTables} {sources : List CatalogSourceEntry} {source : CatalogSourceEntry}
  {index after : CatalogIndex}

/-- Two entries have one id exactly if they have one path. -/
def CatalogSourceEntry.Agrees (tables : CatalogTables) (left right : CatalogSourceEntry) : Prop :=
  normalizedCanonicalPath tables left.canonicalPath =
    normalizedCanonicalPath tables right.canonicalPath ↔ left.songId tables = right.songId tables

/-- An entry has the path of a song. -/
def CatalogSourceEntry.IsSong (source : CatalogSourceEntry) : Prop :=
  source.canonicalPath.isEmpty = false ∧ isSupportedPath source.canonicalPath = true

/-- All entries are songs, and any two agree. -/
structure Indexable (tables : CatalogTables) (sources : List CatalogSourceEntry) : Prop where
  songs : ∀ source ∈ sources, source.IsSong
  agree : ∀ left ∈ sources, ∀ right ∈ sources, left.Agrees tables right

/-- An entry agrees with itself. -/
theorem CatalogSourceEntry.Agrees.refl : source.Agrees tables source := iff_of_true rfl rfl

/-- Agreement is symmetric. -/
theorem CatalogSourceEntry.Agrees.symm {other : CatalogSourceEntry}
    (h : source.Agrees tables other) : other.Agrees tables source :=
  ⟨fun hpath => (h.mp hpath.symm).symm, fun hid => (h.mpr hid.symm).symm⟩

/-- Entries and another one that is a song and agrees with them can be indexed. -/
theorem Indexable.snoc (h : Indexable tables sources) (hsong : source.IsSong)
    (hagrees : ∀ other ∈ sources, other.Agrees tables source) :
    Indexable tables (sources ++ [source]) where
  songs other hmem := by
    rcases List.mem_append.mp hmem with hold | hlast
    · exact h.songs other hold
    · exact List.mem_singleton.mp hlast ▸ hsong
  agree left hleft right hright := by
    rcases List.mem_append.mp hleft with hold | hlast <;>
      rcases List.mem_append.mp hright with hrightOld | hrightLast
    · exact h.agree left hold right hrightOld
    · exact List.mem_singleton.mp hrightLast ▸ hagrees left hold
    · exact List.mem_singleton.mp hlast ▸ (hagrees right hrightOld).symm
    · rw [List.mem_singleton.mp hlast, List.mem_singleton.mp hrightLast]
      exact .refl

/-- The state of the index between two entries: the paths seen have the ids of the entries done, and
there is an entry for every id. -/
structure Indexed (tables : CatalogTables) (done : List CatalogSourceEntry)
    (state : List CatalogEntry × List (String × String)) : Prop where
  indexable : Indexable tables done
  seen : ∀ source ∈ done,
    state.2.lookup (normalizedCanonicalPath tables source.canonicalPath) =
      some (source.songId tables)
  seen_source : ∀ path songId, state.2.lookup path = some songId → ∃ source ∈ done,
    normalizedCanonicalPath tables source.canonicalPath = path ∧ source.songId tables = songId
  entry : ∀ source ∈ done, ∃ entry ∈ state.1, entry.row.songId = source.songId tables
  entry_source : ∀ entry ∈ state.1, ∃ source ∈ done, entry.row.songId = source.songId tables ∧
    entry.canonicalPath = source.canonicalPath

/-- Nothing is indexed before the first entry. -/
theorem Indexed.nil : Indexed tables [] ([], []) where
  indexable := ⟨fun _ h => absurd h List.not_mem_nil, fun _ h => absurd h List.not_mem_nil⟩
  seen _ h := absurd h List.not_mem_nil
  seen_source _ _ h := by cases h
  entry _ h := absurd h List.not_mem_nil
  entry_source _ h := absurd h List.not_mem_nil

/-- Looking a key up behind a list without it. -/
theorem lookup_append_singleton {list : List (String × String)} {key value other : String} :
    (list ++ [(key, value)]).lookup other =
      (list.lookup other).or (if other = key then some value else none) := by
  induction list with
  | nil =>
    by_cases hsame : other = key
    · simp [hsame]
    · simp [hsame]
  | cons head rest ih =>
    obtain ⟨headKey, headValue⟩ := head
    by_cases hsame : other = headKey
    · simp [hsame]
    · have hother : (other == headKey) = false := by simpa using hsame
      simp [List.lookup_cons, hother, ih]

section Step

variable {done : List CatalogSourceEntry} {state next : List CatalogEntry × List (String × String)}

/-- An entry that repeats a path keeps the state. -/
theorem Indexed.repeated (h : Indexed tables done state)
    (hindexable : Indexable tables (done ++ [source]))
    (hseen : state.2.lookup (normalizedCanonicalPath tables source.canonicalPath) =
      some (source.songId tables)) : Indexed tables (done ++ [source]) state where
  indexable := hindexable
  seen other hmem := by
    rcases List.mem_append.mp hmem with hold | hnew
    · exact h.seen other hold
    · obtain rfl := List.mem_singleton.mp hnew
      exact hseen
  seen_source path songId hlookup := by
    obtain ⟨other, hmem, hother⟩ := h.seen_source path songId hlookup
    exact ⟨other, List.mem_append_left _ hmem, hother⟩
  entry other hmem := by
    rcases List.mem_append.mp hmem with hold | hnew
    · exact h.entry other hold
    · obtain rfl := List.mem_singleton.mp hnew
      obtain ⟨previous, hprevious, -, hid⟩ := h.seen_source _ _ hseen
      exact hid ▸ h.entry previous hprevious
  entry_source entry hmem := by
    obtain ⟨other, hother, hentry⟩ := h.entry_source entry hmem
    exact ⟨other, List.mem_append_left _ hother, hentry⟩

/-- A new path is seen with its id, once there is an entry for it. -/
theorem Indexed.extend (h : Indexed tables done state) {entries : List CatalogEntry}
    (hindexable : Indexable tables (done ++ [source]))
    (hnew : state.2.lookup (normalizedCanonicalPath tables source.canonicalPath) = none)
    (hkept : ∀ entry ∈ state.1, entry ∈ entries)
    (hentry : ∃ entry ∈ entries, entry.row.songId = source.songId tables)
    (hentries : ∀ entry ∈ entries, entry ∈ state.1 ∨ entry.row.songId = source.songId tables ∧
      entry.canonicalPath = source.canonicalPath) :
    Indexed tables (done ++ [source]) (entries, state.2 ++
      [(normalizedCanonicalPath tables source.canonicalPath, source.songId tables)]) where
  indexable := hindexable
  seen other hmem := by
    rw [lookup_append_singleton]
    rcases List.mem_append.mp hmem with hold | hlast
    · rw [h.seen other hold, Option.some_or]
    · obtain rfl := List.mem_singleton.mp hlast
      rw [hnew, Option.none_or, if_pos rfl]
  seen_source path songId hlookup := by
    rw [lookup_append_singleton] at hlookup
    cases hold : state.2.lookup path with
    | some previous =>
      rw [hold, Option.some_or] at hlookup
      obtain ⟨other, hmem, hother⟩ := h.seen_source path songId (hold.trans hlookup)
      exact ⟨other, List.mem_append_left _ hmem, hother⟩
    | none =>
      rw [hold, Option.none_or] at hlookup
      obtain ⟨hpath, hid⟩ := Option.ite_none_right_eq_some.mp hlookup
      exact ⟨source, List.mem_append_right _ List.mem_cons_self, hpath.symm,
        Option.some.inj hid⟩
  entry other hmem := by
    rcases List.mem_append.mp hmem with hold | hlast
    · obtain ⟨entry, hentryMem, hid⟩ := h.entry other hold
      exact ⟨entry, hkept entry hentryMem, hid⟩
    · obtain rfl := List.mem_singleton.mp hlast
      exact hentry
  entry_source entry hmem := by
    rcases hentries entry hmem with hold | hsource
    · obtain ⟨other, hother, hrow⟩ := h.entry_source entry hold
      exact ⟨other, List.mem_append_left _ hother, hrow⟩
    · exact ⟨source, List.mem_append_right _ List.mem_cons_self, hsource⟩

/-- A path that has not been seen is the path of no entry done. -/
theorem Indexed.path_ne (h : Indexed tables done state) {other : CatalogSourceEntry}
    (hother : other ∈ done)
    (hnew : state.2.lookup (normalizedCanonicalPath tables source.canonicalPath) = none) :
    normalizedCanonicalPath tables other.canonicalPath ≠
      normalizedCanonicalPath tables source.canonicalPath := by
  intro hpath
  have hseen := h.seen other hother
  rw [hpath, hnew] at hseen
  cases hseen

/-- An entry that the index accepts is a song, agrees with the entries done, and is indexed. -/
theorem Indexed.step (h : Indexed tables done state)
    (hnext : indexSource tables state source = .ok next) : Indexed tables (done ++ [source]) next := by
  rw [indexSource] at hnext
  split at hnext
  · cases hnext
  case isFalse hpath =>
    split at hnext
    · cases hnext
    case isFalse hsupported =>
      have hsong : source.IsSong := ⟨Bool.eq_false_of_not_eq_true hpath, by simpa using hsupported⟩
      cases hlookup : state.2.lookup (normalizedCanonicalPath tables source.canonicalPath) with
      | some previous =>
        rw [hlookup] at hnext
        dsimp only at hnext
        split at hnext
        · cases hnext
        case isFalse hsame =>
          obtain rfl := Except.ok.inj hnext
          rw [not_not.mp hsame] at hlookup
          obtain ⟨twin, htwin, htwinPath, htwinId⟩ := h.seen_source _ _ hlookup
          have hagrees : ∀ other ∈ done, other.Agrees tables source := by
            intro other hother
            have htwins := h.indexable.agree other hother twin htwin
            rwa [CatalogSourceEntry.Agrees, htwinPath, htwinId] at htwins
          exact h.repeated (h.indexable.snoc hsong hagrees) hlookup
      | none =>
        rw [hlookup] at hnext
        dsimp only at hnext
        split at hnext
        case h_1 previous hfound =>
          have hmem := List.mem_of_find?_eq_some hfound
          obtain ⟨other, hother, -, hpath⟩ := h.entry_source previous hmem
          split at hnext
          · cases hnext
          case isFalse hsame =>
            refine absurd ?_ (h.path_ne hother hlookup)
            rw [← hpath]
            exact not_not.mp hsame
        case h_2 hnone =>
          obtain rfl := Except.ok.inj hnext
          have hagrees : ∀ other ∈ done, other.Agrees tables source := by
            intro other hother
            refine iff_of_false (h.path_ne hother hlookup) fun hid => ?_
            obtain ⟨entry, hentry, hrow⟩ := h.entry other hother
            have hne := List.find?_eq_none.mp hnone entry hentry
            simp [hrow, hid] at hne
          refine h.extend (h.indexable.snoc hsong hagrees) hlookup
            (fun entry hentry => List.mem_append_left _ hentry)
            ⟨_, List.mem_append_right _ List.mem_cons_self, rfl⟩ fun entry hentry => ?_
          rcases List.mem_append.mp hentry with hold | hlast
          · exact .inl hold
          · obtain rfl := List.mem_singleton.mp hlast
            exact .inr ⟨rfl, rfl⟩

/-- The index accepts a song that agrees with the entries done. -/
theorem Indexed.accepts (h : Indexed tables done state) (hsong : source.IsSong)
    (hagrees : ∀ other ∈ done, other.Agrees tables source) :
    ∃ next, indexSource tables state source = .ok next := by
  rw [indexSource, if_neg (by simp [hsong.1]), if_neg (by simp [hsong.2])]
  cases hlookup : state.2.lookup (normalizedCanonicalPath tables source.canonicalPath) with
  | some previous =>
    obtain ⟨other, hother, hpath, hid⟩ := h.seen_source _ _ hlookup
    have hsame : previous = source.songId tables := hid ▸ (hagrees other hother).mp hpath
    exact ⟨state, if_neg (not_not.mpr hsame)⟩
  | none =>
    dsimp only
    split
    case h_1 previous hfound =>
      have hmem := List.mem_of_find?_eq_some hfound
      obtain ⟨other, hother, hrow, hpath⟩ := h.entry_source previous hmem
      have hid : previous.row.songId = source.songId tables := by simpa using List.find?_some hfound
      have hsame := (hagrees other hother).mpr (hrow.symm.trans hid)
      refine ⟨_, if_neg (not_not.mpr ?_)⟩
      rw [hpath, hsame]
    case h_2 => exact ⟨_, rfl⟩

end Step

/-- What the index makes of entries is indexed behind the entries done. -/
theorem Indexed.run {done : List CatalogSourceEntry}
    {state final : List CatalogEntry × List (String × String)} (h : Indexed tables done state)
    (hrun : sources.foldlM (indexSource tables) state = .ok final) :
    Indexed tables (done ++ sources) final := by
  induction sources generalizing done state with
  | nil =>
    obtain rfl := Except.ok.inj hrun
    rwa [List.append_nil]
  | cons source rest ih =>
    rw [List.foldlM_cons] at hrun
    obtain ⟨next, hstep, hrest⟩ := Except.bind_eq_ok.mp hrun
    have hfinal := ih (h.step hstep) hrest
    rwa [List.append_assoc, List.singleton_append] at hfinal

/-- The index accepts entries that can be indexed together with the entries done. -/
theorem Indexed.accepts_run {done : List CatalogSourceEntry}
    {state : List CatalogEntry × List (String × String)} (h : Indexed tables done state)
    (hindexable : Indexable tables (done ++ sources)) :
    ∃ final, sources.foldlM (indexSource tables) state = .ok final := by
  induction sources generalizing done state with
  | nil => exact ⟨state, rfl⟩
  | cons source rest ih =>
    have hsource : source ∈ done ++ source :: rest :=
      List.mem_append_right _ List.mem_cons_self
    obtain ⟨next, hstep⟩ := h.accepts (hindexable.songs source hsource) fun other hother =>
      hindexable.agree other (List.mem_append_left _ hother) source hsource
    have hrest : Indexable tables ((done ++ [source]) ++ rest) := by
      rwa [List.append_assoc, List.singleton_append]
    obtain ⟨final, hfinal⟩ := ih (h.step hstep) hrest
    exact ⟨final, by rw [List.foldlM_cons, hstep]; exact hfinal⟩

/-- The index accepts its sources exactly when they can be indexed and there is another
generation. -/
theorem replaceEntries_ok_iff :
    (∃ after, index.replaceEntries tables sources = .ok after) ↔
      Indexable tables sources ∧ index.generation + 1 < 2 ^ 64 := by
  constructor
  · rintro ⟨after, h⟩
    simp only [CatalogIndex.replaceEntries, Except.bind_eq_ok, okOr_eq_ok, checkedAdd_eq_some] at h
    obtain ⟨state, hrun, generation, ⟨hbound, -⟩, -⟩ := h
    exact ⟨(Indexed.nil.run hrun).indexable, hbound⟩
  · rintro ⟨hindexable, hbound⟩
    obtain ⟨state, hrun⟩ := Indexed.nil.accepts_run hindexable
    have hgeneration : checkedAdd 64 index.generation 1 = some (index.generation + 1) :=
      checkedAdd_eq_some.mpr ⟨hbound, rfl⟩
    refine ⟨⟨index.generation + 1, state.1.insertionSort (entryOrder tables)⟩, ?_⟩
    simp only [CatalogIndex.replaceEntries, Except.bind_eq_ok, okOr_eq_ok]
    exact ⟨state, hrun, _, hgeneration, rfl⟩

/-- The ids of the index are those of its sources. -/
theorem mem_replaceEntries_iff (h : index.replaceEntries tables sources = .ok after)
    {songId : String} :
    (∃ entry ∈ after.entries, entry.row.songId = songId) ↔
      ∃ source ∈ sources, source.songId tables = songId := by
  simp only [CatalogIndex.replaceEntries, Except.bind_eq_ok, okOr_eq_ok, Except.pure_eq_ok] at h
  obtain ⟨state, hrun, generation, -, rfl⟩ := h
  have hindexed : Indexed tables sources state := Indexed.nil.run hrun
  constructor
  · rintro ⟨entry, hmem, rfl⟩
    obtain ⟨source, hsource, hid, -⟩ :=
      hindexed.entry_source entry ((List.mem_insertionSort _).mp hmem)
    exact ⟨source, hsource, hid.symm⟩
  · rintro ⟨source, hsource, rfl⟩
    obtain ⟨entry, hmem, hid⟩ := hindexed.entry source hsource
    exact ⟨entry, (List.mem_insertionSort _).mpr hmem, hid⟩

end SkyAutoPlayer.AppCore
