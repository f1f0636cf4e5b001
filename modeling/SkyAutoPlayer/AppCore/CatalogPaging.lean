import Mathlib.Data.Finset.Sort
import Mathlib.Data.String.Basic
import SkyAutoPlayer.AppCore.CatalogIndex
import SkyAutoPlayer.Foundation.Paging

/-!
# The pages of a search

A search cuts its page from the entries directly: all of them, the few allowed ones by their ids,
the matching ones while it counts, or the ranked ones. Each way gives the window of the full search
order, so the pages of a search add up to the order.
-/

namespace SkyAutoPlayer.AppCore

open Foundation

/-- An entry has a short query in its search key. -/
def CatalogEntry.finds (normalized : String) (entry : CatalogEntry) : Bool :=
  normalized.isEmpty || normalized.toList <:+: entry.searchKey.toList

/-- An entry's id is allowed. -/
def CatalogEntry.allowedBy (allowed : Option (Finset String)) (entry : CatalogEntry) : Bool :=
  allowed.all fun ids => entry.row.songId ∈ ids

/-- The places of entries by id; a later entry takes the place of an earlier one. -/
def placesById (entries : List CatalogEntry) : String → Option ℕ :=
  entries.zipIdx.foldl
    (fun places entry => Function.update places entry.1.row.songId (some entry.2)) fun _ => none

namespace CatalogIndex

/-- The map from ids to places that comes with the entries. -/
def byId (index : CatalogIndex) : String → Option ℕ := placesById index.entries

/-- A page of all entries. The source saturates the end, which the bound by the total hides. -/
def browsePage (offset limit : ℕ) (index : CatalogIndex) : CatalogPage :=
  let total := index.entries.length
  let start := min offset total
  let stop := min (start + limit) total
  ⟨((index.entries.take stop).drop start).map (·.row), offset, limit, total, index.generation⟩

/-- The places of the allowed ids that a short query finds, in the order of the ids. -/
def placesOfIds (normalized : String) (ids : Finset String) (index : CatalogIndex) : List ℕ :=
  (ids.sort (· ≤ ·)).filterMap fun songId =>
    (index.byId songId).filter fun place => (index.entries[place]?).any (·.finds normalized)

/-- A page of few allowed ids. -/
def fewIdsPage (normalized : String) (ids : Finset String) (offset limit : ℕ)
    (index : CatalogIndex) : CatalogPage :=
  index.pageRows ((index.placesOfIds normalized ids).insertionSort (· ≤ ·)) offset limit

/-- A page of the entries that a short query finds, collected while counting them. -/
def countingPage (normalized : String) (allowed : Option (Finset String)) (offset limit : ℕ)
    (index : CatalogIndex) : CatalogPage :=
  let kept := index.entries.foldl (fun kept entry =>
    if !entry.allowedBy allowed || !entry.finds normalized then kept
    else keepInWindow offset limit kept entry.row) ([], 0)
  ⟨kept.1, offset, limit, kept.2, index.generation⟩

section Tables

variable (tables : CatalogTables)

/-- A page of the candidates in the ranker's order. -/
def rankedPage (normalized : String) (allowed : Option (Finset String)) (offset limit : ℕ)
    (index : CatalogIndex) : CatalogPage :=
  let found := index.candidates allowed
  let indices :=
    if normalized.isEmpty then found.map Prod.snd
    else if normalized.length = 1 then
      (found.filter fun (entry, _) => normalized.toList <:+: entry.searchKey.toList).map Prod.snd
    else rankedIndices tables normalized found
  index.pageRows indices offset limit

/-- The page of a normalized query. -/
def searchPage (normalized : String) (allowed : Option (Finset String)) (offset limit : ℕ)
    (index : CatalogIndex) : CatalogPage :=
  if normalized.length ≤ 1 then
    if normalized.isEmpty ∧ allowed = none then index.browsePage offset limit
    else
      match allowed with
      | none => index.countingPage normalized none offset limit
      | some ids =>
        if ids.card ≤ index.entries.length / 4 then
          index.fewIdsPage normalized ids offset limit
        else index.countingPage normalized (some ids) offset limit
  else index.rankedPage tables normalized allowed offset limit

/-- Search for a page. -/
def searchWithAllowedIds (query : String) (offset limit : ℕ) (generation : Option ℕ)
    (allowed : Option (Finset String)) (index : CatalogIndex) :
    Except CatalogError CatalogPage := do
  index.checkGeneration generation
  validateWindow tables query limit
  let normalized ← normalizeQuery tables query
  pure (index.searchPage tables normalized allowed offset limit)

end Tables

variable {tables : CatalogTables} {index : CatalogIndex}

/-- The rows of a search order. -/
def orderRows (index : CatalogIndex) (order : CatalogSearchOrder) : List CatalogRow :=
  order.indices.filterMap fun place => (index.entries[place]?).map (·.row)

/-- The places of the entries that satisfy a condition. -/
def placesWhere (p : CatalogEntry → Bool) (index : CatalogIndex) : List ℕ :=
  (index.entries.zipIdx.filter fun entry => p entry.1).map Prod.snd

/-- The rows of windows of places of found entries. -/
theorem pageRows_found {found : List (CatalogEntry × ℕ)}
    (h : ∀ entry ∈ found, index.entries[entry.2]? = some entry.1) (offset limit : ℕ) :
    (index.pageRows (found.map Prod.snd) offset limit).items =
      window offset limit (found.map fun entry => entry.1.row) := by
  have hrows (part : List (CatalogEntry × ℕ))
      (hpart : ∀ entry ∈ part, index.entries[entry.2]? = some entry.1) :
      (part.map Prod.snd).filterMap (fun place => (index.entries[place]?).map (·.row)) =
        part.map fun entry => entry.1.row := by
    induction part with
    | nil => rfl
    | cons entry part ih =>
      obtain ⟨hentry, hpart⟩ := List.forall_mem_cons.mp hpart
      rw [List.map_cons, List.map_cons, List.filterMap_cons, hentry, ih hpart]
      rfl
  rw [pageRows, window_map, window, ← List.map_drop, ← List.map_take]
  apply hrows
  intro entry hentry
  exact h entry (List.mem_of_mem_drop (List.mem_of_mem_take hentry))

/-- A numbered entry is found at its number. -/
theorem getElem?_of_mem_zipIdx {entry : CatalogEntry × ℕ} (h : entry ∈ index.entries.zipIdx) :
    index.entries[entry.2]? = some entry.1 := by
  obtain ⟨found, place⟩ := entry
  exact List.mem_zipIdx_iff_getElem?.mp h

/-- The rows of the entries that satisfy a condition. -/
theorem pageRows_placesWhere (p : CatalogEntry → Bool) (offset limit : ℕ) :
    (index.pageRows (index.placesWhere p) offset limit).items =
      window offset limit ((index.entries.filter p).map (·.row)) := by
  have hnumbered : (index.entries.zipIdx.filter fun entry => p entry.1).map Prod.fst =
      index.entries.filter p := by
    have hfst : index.entries.zipIdx.map Prod.fst = index.entries := List.zipIdx_map_fst 0 _
    rw [← hfst, List.filter_map, hfst]
    rfl
  rw [placesWhere, pageRows_found, ← hnumbered, List.map_map]
  · rfl
  · intro entry hentry
    exact getElem?_of_mem_zipIdx (List.mem_filter.mp hentry).1

/-- A page of the entries that satisfy a condition. -/
theorem pageRows_eq (p : CatalogEntry → Bool) (offset limit : ℕ) :
    index.pageRows (index.placesWhere p) offset limit =
      ⟨window offset limit ((index.entries.filter p).map (·.row)), offset, limit,
        (index.entries.filter p).length, index.generation⟩ := by
  have hlength : (index.placesWhere p).length = (index.entries.filter p).length := by
    have hfst : index.entries.zipIdx.map Prod.fst = index.entries := List.zipIdx_map_fst 0 _
    rw [placesWhere, List.length_map, ← hfst, List.filter_map, List.length_map, hfst]
    rfl
  have hitems : (index.pageRows (index.placesWhere p) offset limit).items =
      window offset limit ((index.entries.filter p).map (·.row)) :=
    pageRows_placesWhere p offset limit
  rw [pageRows] at hitems ⊢
  rw [hlength]
  simpa using hitems

/-- The entries that a short query lists. -/
def listed (normalized : String) (allowed : Option (Finset String)) (entry : CatalogEntry) : Bool :=
  entry.allowedBy allowed && entry.finds normalized

/-- A short query orders the listed entries by their places. -/
theorem searchIndices_short {normalized : String} (hshort : normalized.length ≤ 1)
    (allowed : Option (Finset String)) :
    index.searchIndices tables normalized allowed =
      index.placesWhere (listed normalized allowed) := by
  rw [searchIndices, if_pos hshort, candidates, List.filter_filter, placesWhere]
  congr 2
  funext entry
  rw [listed, Bool.and_comm]
  rfl

/-- Browsing pages through all entries. -/
theorem browsePage_eq (offset limit : ℕ) :
    index.browsePage offset limit = index.pageRows (index.placesWhere (listed "" none)) offset
      limit := by
  have hall : index.entries.filter (listed "" none) = index.entries :=
    List.filter_eq_self.mpr fun _ _ => rfl
  have hslice : (index.entries.take
      (min (min offset index.entries.length + limit) index.entries.length)).drop
        (min offset index.entries.length) = window offset limit index.entries := by
    rw [List.drop_take, window]
    by_cases hoffset : offset ≤ index.entries.length
    · rw [Nat.min_eq_left hoffset, List.take_eq_take_iff, List.length_drop]
      omega
    · rw [Nat.min_eq_right (Nat.le_of_not_le hoffset), List.drop_length, List.take_nil,
        List.drop_of_length_le (Nat.le_of_not_le hoffset), List.take_nil]
  rw [pageRows_eq, hall, browsePage, window_map]
  simp only [hslice]

/-- Counting pages through the listed entries. -/
theorem countingPage_eq (normalized : String) (allowed : Option (Finset String))
    (offset limit : ℕ) :
    index.countingPage normalized allowed offset limit =
      index.pageRows (index.placesWhere (listed normalized allowed)) offset limit := by
  have hfold (entries : List CatalogEntry) (kept : List CatalogRow × ℕ) :
      entries.foldl (fun kept entry =>
        if !entry.allowedBy allowed || !entry.finds normalized then kept
        else keepInWindow offset limit kept entry.row) kept =
      ((entries.filter (listed normalized allowed)).map (·.row)).foldl
        (keepInWindow offset limit) kept := by
    induction entries generalizing kept with
    | nil => rfl
    | cons entry entries ih =>
      rw [List.foldl_cons, ih]
      by_cases hlisted : listed normalized allowed entry = true
      · have hkept : (!entry.allowedBy allowed || !entry.finds normalized) = false := by
          simpa [listed] using hlisted
        rw [List.filter_cons_of_pos hlisted, List.map_cons, List.foldl_cons, hkept]
        rfl
      · have hskip : (!entry.allowedBy allowed || !entry.finds normalized) = true := by
          simp only [listed, Bool.and_eq_true, not_and_or, Bool.not_eq_true] at hlisted
          simpa using hlisted
        rw [List.filter_cons_of_neg hlisted, if_pos hskip]
  rw [pageRows_eq, countingPage, hfold, foldl_keepInWindow, List.length_map]

/-- No two entries have one id. -/
def DistinctIds (index : CatalogIndex) : Prop :=
  (index.entries.map fun entry => entry.row.songId).Nodup

end CatalogIndex

/-- A further entry takes the next place. -/
theorem placesById_concat (entries : List CatalogEntry) (last : CatalogEntry) :
    placesById (entries ++ [last]) =
      Function.update (placesById entries) last.row.songId (some entries.length) := by
  rw [placesById, List.zipIdx_append, List.foldl_append]
  simp [placesById]

/-- The place of an id among distinct ids is that of its entry. -/
theorem placesById_eq_some {entries : List CatalogEntry}
    (hdistinct : (entries.map fun entry => entry.row.songId).Nodup) {songId : String} {place : ℕ} :
    placesById entries songId = some place ↔
      ∃ entry, entries[place]? = some entry ∧ entry.row.songId = songId := by
  induction entries using List.reverseRecOn generalizing place with
  | nil => simp [placesById]
  | append_singleton entries last ih =>
    rw [List.map_append, List.nodup_append] at hdistinct
    obtain ⟨hbefore, -, hfresh⟩ := hdistinct
    have hnew (entry : CatalogEntry) (hentry : entry ∈ entries) :
        entry.row.songId ≠ last.row.songId :=
      hfresh _ (List.mem_map_of_mem hentry) _ (by simp)
    rw [placesById_concat]
    by_cases hid : songId = last.row.songId
    · subst hid
      rw [Function.update_self, Option.some.injEq]
      constructor
      · rintro rfl
        exact ⟨last, by simp, rfl⟩
      · rintro ⟨entry, hentry, hsame⟩
        by_cases hplace : place < entries.length
        · rw [List.getElem?_append_left hplace] at hentry
          exact absurd hsame (hnew entry (List.mem_of_getElem? hentry))
        · have hbound := (List.getElem?_eq_some_iff.mp hentry).1
          rw [List.length_append, List.length_singleton] at hbound
          omega
    · rw [Function.update_of_ne hid, ih hbefore]
      apply exists_congr
      intro entry
      by_cases hplace : place < entries.length
      · rw [List.getElem?_append_left hplace]
      · have hnone : entries[place]? = none := List.getElem?_eq_none (Nat.not_lt.mp hplace)
        rw [hnone]
        constructor
        · rintro ⟨h, -⟩
          cases h
        · rintro ⟨hentry, hsame⟩
          have hlast : entry = last := by
            rw [List.getElem?_append_right (Nat.not_lt.mp hplace)] at hentry
            have := List.mem_of_getElem? hentry
            simpa using this
          exact absurd (hsame.symm.trans (hlast ▸ rfl)) hid

namespace CatalogIndex

variable {tables : CatalogTables} {index : CatalogIndex}

/-- A place is listed with its entry. -/
theorem mem_placesWhere {p : CatalogEntry → Bool} {place : ℕ} :
    place ∈ index.placesWhere p ↔ ∃ entry, index.entries[place]? = some entry ∧ p entry = true := by
  simp only [placesWhere, List.mem_map, List.mem_filter, Prod.exists, List.mem_zipIdx_iff_getElem?]
  constructor
  · rintro ⟨entry, _, ⟨hentry, hp⟩, rfl⟩
    exact ⟨entry, hentry, hp⟩
  · rintro ⟨entry, hentry, hp⟩
    exact ⟨entry, place, ⟨hentry, hp⟩, rfl⟩

/-- Listed places increase. -/
theorem placesWhere_sorted (p : CatalogEntry → Bool) :
    (index.placesWhere p).Pairwise (· < ·) := by
  have hsub : (index.placesWhere p).Sublist (List.range index.entries.length) := by
    rw [List.range_eq_range', ← List.zipIdx_map_snd 0 index.entries]
    exact List.filter_sublist.map Prod.snd
  exact List.pairwise_lt_range.sublist hsub

/-- The places of the allowed ids that a short query finds. -/
theorem mem_placesOfIds (hdistinct : index.DistinctIds) {normalized : String}
    {ids : Finset String} {place : ℕ} :
    place ∈ index.placesOfIds normalized ids ↔
      place ∈ index.placesWhere (listed normalized (some ids)) := by
  rw [mem_placesWhere, placesOfIds, List.mem_filterMap]
  simp only [Finset.mem_sort, Option.filter_eq_some_iff, byId, placesById_eq_some hdistinct]
  constructor
  · rintro ⟨songId, hallowed, ⟨entry, hentry, rfl⟩, hfinds⟩
    rw [hentry, Option.any_some] at hfinds
    exact ⟨entry, hentry, by simp [listed, CatalogEntry.allowedBy, hallowed, hfinds]⟩
  · rintro ⟨entry, hentry, hlisted⟩
    obtain ⟨hallowed, hfinds⟩ := Bool.and_eq_true_iff.mp hlisted
    refine ⟨entry.row.songId, by simpa [CatalogEntry.allowedBy] using hallowed,
      ⟨entry, hentry, rfl⟩, ?_⟩
    rw [hentry, Option.any_some]
    exact hfinds

/-- The sorted places of the allowed ids are the listed places. -/
theorem fewIdsPage_eq (hdistinct : index.DistinctIds) (normalized : String) (ids : Finset String)
    (offset limit : ℕ) :
    index.fewIdsPage normalized ids offset limit =
      index.pageRows (index.placesWhere (listed normalized (some ids))) offset limit := by
  have hnodup : (index.placesOfIds normalized ids).Nodup := by
    apply (Finset.sort_nodup ids _).filterMap
    intro first second place hfirst hsecond
    have hbyFirst := (Option.filter_eq_some_iff.mp hfirst).1
    have hbySecond := (Option.filter_eq_some_iff.mp hsecond).1
    obtain ⟨entry, hentry, rfl⟩ := (placesById_eq_some hdistinct).mp hbyFirst
    obtain ⟨other, hother, rfl⟩ := (placesById_eq_some hdistinct).mp hbySecond
    rw [Option.some.inj (hentry.symm.trans hother)]
  have hperm : (index.placesOfIds normalized ids).Perm
      (index.placesWhere (listed normalized (some ids))) := by
    apply (List.perm_ext_iff_of_nodup hnodup
      ((placesWhere_sorted _).imp Nat.ne_of_lt)).mpr
    intro place
    exact mem_placesOfIds hdistinct
  have hsorted : (index.placesOfIds normalized ids).insertionSort (· ≤ ·) =
      index.placesWhere (listed normalized (some ids)) :=
    ((List.perm_insertionSort _ _).trans hperm).eq_of_pairwise' (List.pairwise_insertionSort _ _)
      ((placesWhere_sorted _).imp Nat.le_of_lt)
  rw [fewIdsPage, hsorted]

/-- Every way of searching cuts the window of the search order. -/
theorem searchPage_eq (hdistinct : index.DistinctIds) (normalized : String)
    (allowed : Option (Finset String)) (offset limit : ℕ) :
    index.searchPage tables normalized allowed offset limit =
      index.pageRows (index.searchIndices tables normalized allowed) offset limit := by
  rw [searchPage.eq_def]
  by_cases hshort : normalized.length ≤ 1
  · rw [if_pos hshort, searchIndices_short hshort]
    split
    case isTrue hbrowse =>
      obtain ⟨hempty, rfl⟩ := hbrowse
      rw [browsePage_eq, String.isEmpty_iff.mp hempty]
    case isFalse =>
      cases allowed with
      | none => exact countingPage_eq normalized none offset limit
      | some ids =>
        dsimp only
        split
        · exact fewIdsPage_eq hdistinct normalized ids offset limit
        · exact countingPage_eq normalized (some ids) offset limit
  · have hempty : normalized.isEmpty = false := by
      rw [Bool.eq_false_iff]
      intro hempty
      rw [String.isEmpty_iff.mp hempty] at hshort
      exact hshort (by decide)
    have hsingle : normalized.length ≠ 1 := fun h => hshort (Nat.le_of_eq h)
    rw [if_neg hshort, rankedPage, searchIndices, if_neg hshort]
    simp only [hempty, hsingle, if_false, Bool.false_eq_true]

/-- The entries of a source keep the ids distinct. -/
theorem indexSource_distinct {state next : List CatalogEntry × List (String × String)}
    {source : CatalogSourceEntry} (h : (state.1.map fun entry => entry.row.songId).Nodup)
    (hnext : indexSource tables state source = .ok next) :
    (next.1.map fun entry => entry.row.songId).Nodup := by
  rw [indexSource] at hnext
  split at hnext
  · cases hnext
  · split at hnext
    · cases hnext
    · split at hnext
      · split at hnext
        · cases hnext
        · exact Except.ok.inj hnext ▸ h
      · split at hnext
        · split at hnext
          · cases hnext
          · exact Except.ok.inj hnext ▸ h
        case h_2 hnone =>
          obtain rfl := Except.ok.inj hnext
          rw [List.map_append, List.nodup_append]
          refine ⟨h, List.nodup_singleton _, ?_⟩
          intro songId hmem other hother
          obtain ⟨entry, hentry, rfl⟩ := List.mem_map.mp hmem
          have hne := List.find?_eq_none.mp hnone entry hentry
          rw [List.mem_singleton.mp hother]
          simpa using hne

/-- A replaced index has distinct ids. -/
theorem distinctIds_of_replaceEntries {previous : CatalogIndex}
    {sources : List CatalogSourceEntry} (h : previous.replaceEntries tables sources = .ok index) :
    index.DistinctIds := by
  simp only [replaceEntries, Except.bind_eq_ok, okOr_eq_ok, Except.pure_eq_ok] at h
  obtain ⟨state, hrun, generation, -, rfl⟩ := h
  have hstate (sources : List CatalogSourceEntry)
      (state final : List CatalogEntry × List (String × String))
      (hstate : (state.1.map fun entry => entry.row.songId).Nodup)
      (hrun : sources.foldlM (indexSource tables) state = .ok final) :
      (final.1.map fun entry => entry.row.songId).Nodup := by
    induction sources generalizing state with
    | nil => exact Except.ok.inj hrun ▸ hstate
    | cons source sources ih =>
      obtain ⟨next, hnext, hrest⟩ := Except.bind_eq_ok.mp hrun
      exact ih next (indexSource_distinct hstate hnext) hrest
  have hfinal := hstate sources ([], []) state List.nodup_nil hrun
  rw [DistinctIds]
  exact (((List.perm_insertionSort _ _).map _).nodup_iff).mpr hfinal

/-- Searching for a page is cutting it from the search order. -/
theorem searchWithAllowedIds_eq (hdistinct : index.DistinctIds) (query : String)
    (offset limit : ℕ) (generation : Option ℕ) (allowed : Option (Finset String)) :
    index.searchWithAllowedIds tables query offset limit generation allowed =
      (index.searchOrderWithAllowedIds tables query generation allowed >>= fun order =>
        index.pageFromSearchOrder tables order query offset limit generation) := by
  simp only [searchWithAllowedIds, searchOrderWithAllowedIds, pageFromSearchOrder,
    searchPage_eq hdistinct, validateWindow]
  cases hgeneration : index.checkGeneration generation with
  | error error => rfl
  | ok checked =>
    cases hnormalized : normalizeQuery tables query with
    | error error => rfl
    | ok normalized =>
      by_cases hlimit : 1 ≤ limit ∧ limit ≤ maxPageSize <;>
        simp [bind, Except.bind, pure, Except.pure, failIf, hlimit]

/-- The candidates are the allowed entries. -/
theorem candidates_map_snd (allowed : Option (Finset String)) :
    (index.candidates allowed).map Prod.snd =
      index.placesWhere (CatalogEntry.allowedBy allowed) := rfl

/-- A candidate is an allowed entry at its place. -/
theorem mem_candidates {allowed : Option (Finset String)} {entry : CatalogEntry} {place : ℕ} :
    (entry, place) ∈ index.candidates allowed ↔
      index.entries[place]? = some entry ∧ entry.allowedBy allowed = true := by
  rw [candidates, List.mem_filter, List.mem_zipIdx_iff_getElem?]
  rfl

/-- The ranker names a candidate's place. -/
def Ranks (tables : CatalogTables) (normalized : String) (found : List (CatalogEntry × ℕ))
    (place : ℕ) : Prop :=
  ∃ rank ∈ tables.rank normalized (found.map fun entry => entry.1.searchKey),
    (found[rank]?).map Prod.snd = some place

/-- The ranked places are those the ranker names. -/
theorem mem_rankedIndices {normalized : String} {found : List (CatalogEntry × ℕ)} {place : ℕ} :
    place ∈ rankedIndices tables normalized found ↔ Ranks tables normalized found place := by
  simp only [rankedIndices, List.mem_filterMap, mem_keepFirst_id, List.mem_filter,
    decide_eq_true_eq, Ranks]
  apply exists_congr
  intro rank
  constructor
  · intro hranked
    exact ⟨hranked.1.1, hranked.2⟩
  · intro hranked
    obtain ⟨hrank, hplace⟩ := hranked
    have hbound : rank < found.length := by
      by_contra hpast
      rw [List.getElem?_eq_none (Nat.not_lt.mp hpast)] at hplace
      cases hplace
    exact ⟨⟨hrank, hbound⟩, hplace⟩

/-- A place is ranked once. -/
theorem rankedIndices_nodup {normalized : String} {found : List (CatalogEntry × ℕ)}
    (hfound : (found.map Prod.snd).Nodup) : (rankedIndices tables normalized found).Nodup := by
  rw [rankedIndices]
  apply (keepFirst_id_nodup _).filterMap
  intro first second place hfirst hsecond
  rw [Option.mem_def, ← List.getElem?_map] at hfirst hsecond
  have hbound := (List.getElem?_eq_some_iff.mp hfirst).1
  exact (List.getElem?_inj hbound hfound).mp (hfirst.trans hsecond.symm)

/-- An allowed entry at a place is found by a query: its key has a short query in it, or the ranker
names it for a long one. -/
def FindsAt (tables : CatalogTables) (normalized : String) (allowed : Option (Finset String))
    (index : CatalogIndex) (place : ℕ) (entry : CatalogEntry) : Prop :=
  index.entries[place]? = some entry ∧ entry.allowedBy allowed = true ∧
    if normalized.length ≤ 1 then entry.finds normalized = true
    else Ranks tables normalized (index.candidates allowed) place

/-- The search order has the places that the query finds. -/
theorem mem_searchIndices {normalized : String} {allowed : Option (Finset String)} {place : ℕ} :
    place ∈ index.searchIndices tables normalized allowed ↔
      ∃ entry, FindsAt tables normalized allowed index place entry := by
  simp only [FindsAt]
  by_cases hshort : normalized.length ≤ 1
  · simp only [searchIndices_short hshort, mem_placesWhere, listed, Bool.and_eq_true, if_pos hshort]
  · rw [searchIndices, if_neg hshort, mem_rankedIndices]
    simp only [if_neg hshort]
    constructor
    · intro hranks
      obtain ⟨rank, hrank, hplace⟩ := hranks
      obtain ⟨⟨entry, _⟩, hentry, rfl⟩ := Option.map_eq_some_iff.mp hplace
      have hcandidate := mem_candidates.mp (List.mem_of_getElem? hentry)
      exact ⟨entry, hcandidate.1, hcandidate.2, rank, hrank, hplace⟩
    · exact fun ⟨_, _, _, hranks⟩ => hranks

/-- The search order has no place twice. -/
theorem searchIndices_nodup (normalized : String) (allowed : Option (Finset String)) :
    (index.searchIndices tables normalized allowed).Nodup := by
  by_cases hshort : normalized.length ≤ 1
  · rw [searchIndices_short hshort]
    exact (placesWhere_sorted _).imp Nat.ne_of_lt
  · rw [searchIndices, if_neg hshort]
    apply rankedIndices_nodup
    rw [candidates_map_snd]
    exact (placesWhere_sorted _).imp Nat.ne_of_lt

/-- What a search order is: the places that its query finds, each once. -/
theorem searchOrder_spec {query : String} {generation : Option ℕ}
    {allowed : Option (Finset String)} {order : CatalogSearchOrder}
    (h : index.searchOrderWithAllowedIds tables query generation allowed = .ok order) :
    index.checkGeneration generation = .ok () ∧
      normalizeQuery tables query = .ok order.normalizedQuery ∧
      order.generation = index.generation ∧
      order.indices = index.searchIndices tables order.normalizedQuery allowed := by
  simp only [searchOrderWithAllowedIds, Except.bind_eq_ok, Except.pure_eq_ok] at h
  obtain ⟨_, hgeneration, normalized, hnormalized, rfl⟩ := h
  exact ⟨hgeneration, hnormalized, rfl, rfl⟩

/-- Every place of a search order has a row. -/
theorem searchIndices_row {normalized : String} {allowed : Option (Finset String)} {place : ℕ}
    (h : place ∈ index.searchIndices tables normalized allowed) :
    ((index.entries[place]?).map (·.row)).isSome := by
  obtain ⟨entry, hentry, -⟩ := mem_searchIndices.mp h
  rw [hentry]
  rfl

/-- A search order has as many rows as places. -/
theorem length_orderRows {order : CatalogSearchOrder}
    (h : ∀ place ∈ order.indices, ((index.entries[place]?).map (·.row)).isSome) :
    (index.orderRows order).length = order.indices.length := by
  rw [orderRows]
  generalize order.indices = places at h ⊢
  induction places with
  | nil => rfl
  | cons place places ih =>
    obtain ⟨hplace, hrest⟩ := List.forall_mem_cons.mp h
    obtain ⟨row, hrow⟩ := Option.isSome_iff_exists.mp hplace
    rw [List.filterMap_cons, hrow, List.length_cons, List.length_cons, ih hrest]

/-- A search order has no song twice. -/
theorem orderRows_nodup (hdistinct : index.DistinctIds) {order : CatalogSearchOrder}
    (h : order.indices.Nodup) : ((index.orderRows order).map (·.songId)).Nodup := by
  rw [orderRows, List.map_filterMap]
  apply h.filterMap
  intro first second songId hfirst hsecond
  rw [Option.mem_def, Option.map_map, ← List.getElem?_map] at hfirst hsecond
  have hbound := (List.getElem?_eq_some_iff.mp hfirst).1
  exact (List.getElem?_inj hbound hdistinct).mp (hfirst.trans hsecond.symm)

/-- A page of a search is the window of the rows of the order. -/
theorem searchWithAllowedIds_page (hdistinct : index.DistinctIds) {query : String}
    {generation : Option ℕ} {allowed : Option (Finset String)} {order : CatalogSearchOrder}
    (horder : index.searchOrderWithAllowedIds tables query generation allowed = .ok order)
    {limit : ℕ} (hwindow : validateWindow tables query limit = .ok ()) (offset : ℕ) :
    index.searchWithAllowedIds tables query offset limit generation allowed =
      .ok ⟨window offset limit (index.orderRows order), offset, limit, order.indices.length,
        index.generation⟩ := by
  obtain ⟨hgeneration, hnormalized, hsame, hindices⟩ := searchOrder_spec horder
  have hrows : window offset limit (index.orderRows order) =
      (index.pageRows order.indices offset limit).items := by
    rw [orderRows, window_filterMap]
    · rfl
    · intro place hplace
      exact searchIndices_row (hindices ▸ hplace)
  rw [searchWithAllowedIds_eq hdistinct, horder, hrows]
  simp [pageFromSearchOrder, hgeneration, hwindow, hnormalized, hsame, failIf, pageRows, bind,
    Except.bind, pure, Except.pure]

/-- Searching for a page and cutting it from the search order agree in every case. The pages side by
side are the rows of the order, which has the places that the query finds, each once, and those of a
short query increasing. -/
theorem search_agrees_with_order {previous : CatalogIndex} {sources : List CatalogSourceEntry}
    (h : previous.replaceEntries tables sources = .ok index) (query : String)
    (generation : Option ℕ) (allowed : Option (Finset String)) :
    (∀ offset limit, index.searchWithAllowedIds tables query offset limit generation allowed =
      (index.searchOrderWithAllowedIds tables query generation allowed >>= fun order =>
        index.pageFromSearchOrder tables order query offset limit generation)) ∧
    ∀ order, index.searchOrderWithAllowedIds tables query generation allowed = .ok order →
      (∀ offset limit, validateWindow tables query limit = .ok () →
        index.searchWithAllowedIds tables query offset limit generation allowed =
          .ok ⟨window offset limit (index.orderRows order), offset, limit, order.indices.length,
            index.generation⟩) ∧
      (∀ limit count, validateWindow tables query limit = .ok () →
        order.indices.length ≤ count * limit → ∃ pages : List CatalogPage,
          (List.range count).mapM (fun page =>
            index.searchWithAllowedIds tables query (page * limit) limit generation allowed) =
              .ok pages ∧
          pages.flatMap (·.items) = index.orderRows order) ∧
      (∀ place, place ∈ order.indices ↔
        ∃ entry, FindsAt tables order.normalizedQuery allowed index place entry) ∧
      order.indices.Nodup ∧ (index.orderRows order).length = order.indices.length ∧
      ((index.orderRows order).map (·.songId)).Nodup ∧
      (order.normalizedQuery.length ≤ 1 → order.indices.Pairwise (· < ·)) := by
  have hdistinct := distinctIds_of_replaceEntries h
  constructor
  · intro offset limit
    exact searchWithAllowedIds_eq hdistinct query offset limit generation allowed
  intro order horder
  obtain ⟨-, -, -, hindices⟩ := searchOrder_spec horder
  have hlength : (index.orderRows order).length = order.indices.length := by
    apply length_orderRows
    intro place hplace
    exact searchIndices_row (hindices ▸ hplace)
  have hnodup : order.indices.Nodup := hindices ▸ searchIndices_nodup _ _
  refine ⟨fun offset limit hwindow => searchWithAllowedIds_page hdistinct horder hwindow offset,
    ?_, ?_, hnodup, hlength, orderRows_nodup hdistinct hnodup, ?_⟩
  · intro limit count hwindow hcount
    let pageAt (page : ℕ) : CatalogPage :=
      ⟨window (page * limit) limit (index.orderRows order), page * limit, limit,
        order.indices.length, index.generation⟩
    use (List.range count).map pageAt
    constructor
    · have hpages : (fun page => index.searchWithAllowedIds tables query (page * limit) limit
          generation allowed) = fun page => pure (pageAt page) := by
        funext page
        exact searchWithAllowedIds_page hdistinct horder hwindow _
      rw [hpages, List.mapM_pure]
      rfl
    · rw [List.flatMap_map, flatMap_window]
      exact List.take_of_length_le (hlength ▸ hcount)
  · intro place
    rw [hindices]
    exact mem_searchIndices
  · intro hshort
    rw [hindices, searchIndices_short hshort]
    exact placesWhere_sorted _

/-- Tables for ASCII texts, with a ranker that repeats itself and names candidates there are not. -/
def duplicateTables : CatalogTables where
  nfkd := String.toList
  isCombiningMark _ := false
  caseFold text := String.ofList (asciiFolded text)
  toLowercase text := String.ofList (asciiFolded text)
  sha256 _ := Vector.replicate 32 0
  rank _ keys := if keys.length < 3 then [] else [1, 1, 0, 2, 0, 2 ^ 64 - 1]

/-- A declared id. -/
def declaredId (text : String) (valid : isValidId text = true) : CatalogSourceIdentity :=
  .stable ⟨text, valid⟩

/-- Three songs with declared ids. -/
def threeSources : List CatalogSourceEntry :=
  [⟨"C:/songs/a.json", "Alpha Song",
      declaredId "0123456789abcdef0123456789abcdea" (by decide +kernel)⟩,
    ⟨"C:/songs/b.json", "Beta Song",
      declaredId "0123456789abcdef0123456789abcdeb" (by decide +kernel)⟩,
    ⟨"C:/songs/c.json", "Gamma Song",
      declaredId "0123456789abcdef0123456789abcdec" (by decide +kernel)⟩]

/-- Two pages of a ranked query over three songs are its order. -/
theorem search_pages_scenario :
    ∃ index order pages,
      (⟨0, []⟩ : CatalogIndex).replaceEntries duplicateTables threeSources = .ok index ∧
      index.searchOrderWithAllowedIds duplicateTables "ranked" (some 1) none = .ok order ∧
      order.indices = [1, 0, 2] ∧
      (List.range 2).mapM (fun page => index.searchWithAllowedIds duplicateTables "ranked"
        (page * 2) 2 (some 1) none) = .ok pages ∧
      pages.flatMap (·.items) = index.orderRows order := by
  have hcheck : ((⟨0, []⟩ : CatalogIndex).replaceEntries duplicateTables threeSources).toOption.any
      (fun index => (index.searchOrderWithAllowedIds duplicateTables "ranked" (some 1)
        none).toOption.any fun order => order.indices = [1, 0, 2]) = true := by decide +kernel
  obtain ⟨index, hindex, hsearched⟩ := (Option.any_eq_true _ _).mp hcheck
  obtain ⟨order, horder, hindices⟩ := (Option.any_eq_true _ _).mp hsearched
  have hwindow : validateWindow duplicateTables "ranked" 2 = .ok () := by decide +kernel
  have hindexed := Except.eq_ok_of_toOption hindex
  have hordered := Except.eq_ok_of_toOption horder
  have hagrees := (search_agrees_with_order hindexed "ranked" (some 1) none).2 order hordered
  have hplaces : order.indices = [1, 0, 2] := of_decide_eq_true hindices
  obtain ⟨pages, hpages, hrows⟩ := hagrees.2.1 2 2 hwindow (by rw [hplaces]; decide)
  exact ⟨index, order, pages, hindexed, hordered, hplaces, hpages, hrows⟩

end CatalogIndex

end SkyAutoPlayer.AppCore
