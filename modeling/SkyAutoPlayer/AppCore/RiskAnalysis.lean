import Mathlib.Data.List.GetD
import Mathlib.Order.Bounds.Basic
import SkyAutoPlayer.AppCore.FuzzyScore
import SkyAutoPlayer.AppCore.ScheduleActions
import SkyAutoPlayer.Foundation.SortedCount

/-!
# Dense passages of a schedule

The risk report lists the passages where more than six notes are within a tenth of a second, and the
greatest number of notes within a second. A sweep over the presses keeps the left end of the window
of each press and merges a dense window with the last cluster when they are close. A press of several
keys is one note there.
-/

namespace SkyAutoPlayer.AppCore

open Foundation

/-- A passage with many notes. -/
structure DenseCluster where
  startUs : ℕ
  endUs : ℕ
  noteCount : ℕ
  deriving DecidableEq, Repr

/-- The times of the presses of a schedule. -/
def downTimes (actions : List KeyAction) : List ℕ :=
  (actions.filter fun action => action.kind = .down).map (·.atUs)

/-- Move the left end of the window up to the first press that is close enough. The fuel is the
distance of both ends, at which the loop ends. -/
def advanceLeft (downs : List ℕ) (right : ℕ) : ℕ → ℕ → ℕ
  | 0, left => left
  | fuel + 1, left =>
    if 100000 < downs.getD right 0 - downs.getD left 0 then advanceLeft downs right fuel (left + 1)
    else left

/-- Add a dense window, to the last cluster if it is close. -/
def mergeDense (start stop count : ℕ) (dense : List DenseCluster) : List DenseCluster :=
  match dense.getLast? with
  | some previous =>
    if start ≤ saturatingAdd 64 previous.endUs 50000 then
      dense.dropLast ++
        [{ previous with endUs := stop, noteCount := max previous.noteCount count }]
    else dense ++ [⟨start, stop, count⟩]
  | none => dense ++ [⟨start, stop, count⟩]

/-- The sweep: the left end of the window and the clusters. -/
structure DenseSweep where
  left : ℕ
  dense : List DenseCluster
  deriving DecidableEq, Repr

/-- Sweep over a press. -/
def sweepRight (downs : List ℕ) (sweep : DenseSweep) (right : ℕ) : DenseSweep :=
  let left := advanceLeft downs right (right - sweep.left) sweep.left
  let count := right - left + 1
  if 6 < count then
    ⟨left, mergeDense (downs.getD left 0) (downs.getD right 0) count sweep.dense⟩
  else ⟨left, sweep.dense⟩

/-- The dense clusters of a schedule. -/
def denseClusters (actions : List KeyAction) : List DenseCluster :=
  let downs := downTimes actions
  ((List.range downs.length).foldl (sweepRight downs) ⟨0, []⟩).dense

/-- The greatest number of presses within a second from a press. -/
def peakCount (downs : List ℕ) : ℕ :=
  (List.range downs.length).foldl (fun peak index =>
    max peak ((downs.drop index).takeWhile fun next =>
      next - downs.getD index 0 ≤ 1000000).length) 0

/-- The peak of the notes per second. -/
def peakDensity (actions : List KeyAction) : ℚ := f64 (peakCount (downTimes actions))

/-- The numbers of notes of the windows of a tenth of a second within an interval. -/
def windowCounts (notes : List ℕ) (low high : ℕ) : Set ℕ :=
  { count | ∃ first last, low ≤ first ∧ last ≤ high ∧ last ≤ first + 100000 ∧
      count = countBetween first last notes }

/-- A window of a tenth of a second has more than six notes. -/
def DenseWindow (notes : List ℕ) (first last : ℕ) : Prop :=
  last ≤ first + 100000 ∧ 6 < countBetween first last notes

/-- A cluster has the notes of a window. -/
def DenseCluster.Covers (notes : List ℕ) (first last : ℕ) (cluster : DenseCluster) : Prop :=
  ∀ note ∈ notes, first ≤ note → note ≤ last → cluster.startUs ≤ note ∧ note ≤ cluster.endUs

/-- What is reported of the density of notes. -/
structure DensityReported (notes : List ℕ) (clusters : List DenseCluster) (peak : ℚ) : Prop where
  peak : ∃ greatest : ℕ, peak = greatest ∧
    IsGreatest { count | ∃ first, count = countBetween first (first + 1000000) notes } greatest
  covered : ∀ first last, DenseWindow notes first last →
    ∃ cluster ∈ clusters, cluster.Covers notes first last ∧
      ∀ other ∈ clusters, other.Covers notes first last → other = cluster
  apart : clusters.Pairwise fun earlier later => earlier.endUs + 50000 < later.startUs
  begins : ∀ cluster ∈ clusters, cluster.startUs ∈ notes ∧
    ∃ last, last ≤ cluster.endUs ∧ DenseWindow notes cluster.startUs last
  ends : ∀ cluster ∈ clusters, cluster.endUs ∈ notes ∧
    ∃ first, cluster.startUs ≤ first ∧ DenseWindow notes first cluster.endUs
  counts : ∀ cluster ∈ clusters,
    IsGreatest (windowCounts notes cluster.startUs cluster.endUs) cluster.noteCount

section Sweep

variable {downs seen : List ℕ} {dense : List DenseCluster} {first down : ℕ}

/-- The number of presses in the window that ends with a press. -/
def windowCount (downs : List ℕ) (down : ℕ) : ℕ := countBetween (down - 100000) down downs

/-- The clusters of the presses that have been seen. -/
structure ClustersOf (downs seen : List ℕ) (dense : List DenseCluster) : Prop where
  apart : dense.Pairwise fun earlier later => earlier.endUs + 50000 < later.startUs
  begins : ∀ cluster ∈ dense, cluster.startUs ∈ downs ∧ ∃ last, last ≤ cluster.endUs ∧
    last ≤ cluster.startUs + 100000 ∧ cluster.startUs ≤ last ∧ 6 < windowCount downs last ∧
      ∀ down ∈ downs, last ≤ down + 100000 → cluster.startUs ≤ down
  ends : ∀ cluster ∈ dense, cluster.endUs ∈ seen ∧ 6 < windowCount downs cluster.endUs ∧
    ∀ down ∈ downs, cluster.endUs ≤ down + 100000 → cluster.startUs ≤ down
  counts : ∀ cluster ∈ dense, 6 < cluster.noteCount ∧
    IsGreatest (windowCounts downs cluster.startUs cluster.endUs) cluster.noteCount
  covered : ∀ last ∈ seen, 6 < windowCount downs last → ∃ cluster ∈ dense,
    last ≤ cluster.endUs ∧ ∀ down ∈ downs, last ≤ down + 100000 → cluster.startUs ≤ down
  latest : ∀ last ∈ seen, 6 < windowCount downs last → ∀ cluster ∈ dense.getLast?,
    last ≤ cluster.endUs

/-- A window that has presses ends with its last press. -/
theorem exists_last_down {low high : ℕ} (hpos : 0 < countBetween low high downs) :
    ∃ last ∈ downs, low ≤ last ∧ last ≤ high ∧
      countBetween low high downs = countBetween low last downs ∧
        ∀ other ∈ downs, low ≤ other → other ≤ high → other ≤ last := by
  obtain ⟨last, hlast, hlow, hhigh, hall⟩ := exists_last hpos
  refine ⟨last, hlast, hlow, hhigh, countBetween_congr ?_, hall⟩
  intro other hother
  constructor
  · intro hwithin
    exact ⟨hwithin.1, hall other hother hwithin.1 hwithin.2⟩
  · intro hwithin
    omega

/-- The first press of the window that ends with a press. -/
structure WindowStart (downs : List ℕ) (down first : ℕ) : Prop where
  mem : first ∈ downs
  le : first ≤ down
  near : down ≤ first + 100000
  least : ∀ other ∈ downs, down ≤ other + 100000 → first ≤ other

/-- The window that ends with a press begins with its first press. -/
theorem WindowStart.windowCount_eq (h : WindowStart downs down first) :
    windowCount downs down = countBetween first down downs := by
  apply countBetween_congr
  intro other hother
  have hleast := h.least other hother
  have hnear := h.near
  omega

/-- The press after those that have been seen. -/
structure NextDown (downs seen : List ℕ) (down : ℕ) : Prop where
  mem : down ∈ downs
  later : ∀ other ∈ seen, other < down
  only : ∀ other ∈ downs, other ≤ down → other ∈ seen ∨ other = down

namespace ClustersOf

/-- A cluster begins no later than it ends. -/
theorem start_le_end (h : ClustersOf downs seen dense) {cluster : DenseCluster}
    (hmem : cluster ∈ dense) : cluster.startUs ≤ cluster.endUs := by
  obtain ⟨-, last, hend, -, hstart, -⟩ := h.begins cluster hmem
  omega

/-- A press whose window is not dense changes no cluster. -/
theorem skip (h : ClustersOf downs seen dense) (hfew : ¬6 < windowCount downs down) :
    ClustersOf downs (seen ++ [down]) dense where
  apart := h.apart
  begins := h.begins
  ends cluster hmem := by
    obtain ⟨hseen, hrest⟩ := h.ends cluster hmem
    exact ⟨List.mem_append_left _ hseen, hrest⟩
  counts := h.counts
  covered last hlast hdense := by
    rcases List.mem_append.mp hlast with hseen | hnew
    · exact h.covered last hseen hdense
    · rw [List.mem_singleton.mp hnew] at hdense
      exact absurd hdense hfew
  latest last hlast hdense := by
    rcases List.mem_append.mp hlast with hseen | hnew
    · exact h.latest last hseen hdense
    · rw [List.mem_singleton.mp hnew] at hdense
      exact absurd hdense hfew

/-- The greatest window of the cluster of one dense window is the window itself. -/
theorem isGreatest_single (hstart : WindowStart downs down first) :
    IsGreatest (windowCounts downs first down) (windowCount downs down) := by
  constructor
  · exact ⟨first, down, Nat.le_refl first, Nat.le_refl down, hstart.near, hstart.windowCount_eq⟩
  · rintro count ⟨low, high, hlow, hhigh, -, rfl⟩
    rw [hstart.windowCount_eq]
    exact countBetween_mono hlow hhigh

/-- A dense window that is far from all clusters is one of its own. -/
theorem push (h : ClustersOf downs seen dense) (hnext : NextDown downs seen down)
    (hstart : WindowStart downs down first) (hdense : 6 < windowCount downs down)
    (hfar : ∀ cluster ∈ dense, cluster.endUs + 50000 < first) :
    ClustersOf downs (seen ++ [down]) (dense ++ [⟨first, down, windowCount downs down⟩]) where
  apart := by
    apply List.pairwise_append.mpr
    refine ⟨h.apart, List.pairwise_singleton _ _, ?_⟩
    intro earlier hearlier later hlater
    rw [List.mem_singleton.mp hlater]
    exact hfar earlier hearlier
  begins cluster hmem := by
    rcases List.mem_append.mp hmem with hold | hnew
    · exact h.begins cluster hold
    · rw [List.mem_singleton.mp hnew]
      exact ⟨hstart.mem, down, Nat.le_refl down, hstart.near, hstart.le, hdense, hstart.least⟩
  ends cluster hmem := by
    rcases List.mem_append.mp hmem with hold | hnew
    · obtain ⟨hseen, hrest⟩ := h.ends cluster hold
      exact ⟨List.mem_append_left _ hseen, hrest⟩
    · rw [List.mem_singleton.mp hnew]
      exact ⟨List.mem_append_right _ List.mem_cons_self, hdense, hstart.least⟩
  counts cluster hmem := by
    rcases List.mem_append.mp hmem with hold | hnew
    · exact h.counts cluster hold
    · rw [List.mem_singleton.mp hnew]
      exact ⟨hdense, isGreatest_single hstart⟩
  covered last hlast hdenseLast := by
    rcases List.mem_append.mp hlast with hseen | hnew
    · obtain ⟨cluster, hcluster, hcovers⟩ := h.covered last hseen hdenseLast
      exact ⟨cluster, List.mem_append_left _ hcluster, hcovers⟩
    · rw [List.mem_singleton.mp hnew]
      exact ⟨_, List.mem_append_right _ List.mem_cons_self, Nat.le_refl down, hstart.least⟩
  latest last hlast _ cluster hcluster := by
    rw [List.getLast?_concat] at hcluster
    rw [← Option.some.inj hcluster]
    rcases List.mem_append.mp hlast with hseen | hnew
    · exact Nat.le_of_lt (hnext.later last hseen)
    · exact Nat.le_of_eq (List.mem_singleton.mp hnew)

/-- The greatest window of a cluster that a dense window is added to. -/
theorem isGreatest_merge {init : List DenseCluster} {previous : DenseCluster}
    (h : ClustersOf downs seen (init ++ [previous])) (hnext : NextDown downs seen down)
    (hstart : WindowStart downs down first) (hbegin : previous.startUs ≤ first) :
    IsGreatest (windowCounts downs previous.startUs down)
      (max previous.noteCount (windowCount downs down)) := by
  have hprevious : previous ∈ init ++ [previous] := List.mem_append_right _ List.mem_cons_self
  obtain ⟨hmany, hgreatest⟩ := h.counts previous hprevious
  have hend := hnext.later _ (h.ends previous hprevious).1
  constructor
  · rcases Nat.le_total previous.noteCount (windowCount downs down) with hle | hle
    · rw [Nat.max_eq_right hle]
      exact ⟨first, down, hbegin, Nat.le_refl down, hstart.near, hstart.windowCount_eq⟩
    · obtain ⟨low, high, hlow, hhigh, hwidth, hcount⟩ := hgreatest.1
      rw [Nat.max_eq_left hle]
      exact ⟨low, high, hlow, by omega, hwidth, hcount⟩
  · rintro count ⟨low, high, hlow, hhigh, hwidth, rfl⟩
    rcases Nat.eq_zero_or_pos (countBetween low high downs) with hnone | hpos
    · omega
    · obtain ⟨last, hlast, hlowLast, hlastHigh, hsame, -⟩ := exists_last_down hpos
      have hwindow : countBetween low last downs ≤ windowCount downs last :=
        countBetween_mono (by omega) (Nat.le_refl last)
      rw [hsame]
      rcases hnext.only last hlast (by omega) with hseen | hnew
      · by_cases hinside : last ≤ previous.endUs
        · have hold := hgreatest.2 ⟨low, last, hlow, hinside, by omega, rfl⟩
          exact Nat.le_trans hold (Nat.le_max_left _ _)
        · -- the windows of the presses after the cluster are not dense
          have hfew : ¬6 < windowCount downs last := by
            intro hdense
            exact hinside (h.latest last hseen hdense previous (by rw [List.getLast?_concat]; rfl))
          omega
      · rw [hnew] at hwindow ⊢
        exact Nat.le_trans hwindow (Nat.le_max_right _ _)

/-- A dense window that is close to the last cluster is added to it. -/
theorem merge {init : List DenseCluster} {previous : DenseCluster}
    (h : ClustersOf downs seen (init ++ [previous])) (hnext : NextDown downs seen down)
    (hstart : WindowStart downs down first) (hdense : 6 < windowCount downs down) :
    ClustersOf downs (seen ++ [down]) (init ++ [{ previous with
      endUs := down
      noteCount := max previous.noteCount (windowCount downs down) }]) := by
  have hprevious : previous ∈ init ++ [previous] := List.mem_append_right _ List.mem_cons_self
  have hinit : ∀ cluster ∈ init, cluster ∈ init ++ [previous] := by
    intro cluster hmem
    exact List.mem_append_left _ hmem
  obtain ⟨hendSeen, -, hendLeast⟩ := h.ends previous hprevious
  have hend := hnext.later _ hendSeen
  have hbegin : previous.startUs ≤ first :=
    hendLeast first hstart.mem (by have := hstart.near; omega)
  have hleast : ∀ other ∈ downs, down ≤ other + 100000 → previous.startUs ≤ other := by
    intro other hother hnear
    exact Nat.le_trans hbegin (hstart.least other hother hnear)
  constructor
  · obtain ⟨hapart, -, hlast⟩ := List.pairwise_append.mp h.apart
    apply List.pairwise_append.mpr
    refine ⟨hapart, List.pairwise_singleton _ _, ?_⟩
    intro earlier hearlier later hlater
    rw [List.mem_singleton.mp hlater]
    exact hlast earlier hearlier previous List.mem_cons_self
  · intro cluster hmem
    rcases List.mem_append.mp hmem with hold | hnew
    · exact h.begins cluster (hinit cluster hold)
    · obtain ⟨hmemStart, last, hlastEnd, hrest⟩ := h.begins previous hprevious
      rw [List.mem_singleton.mp hnew]
      exact ⟨hmemStart, last, by dsimp only; omega, hrest⟩
  · intro cluster hmem
    rcases List.mem_append.mp hmem with hold | hnew
    · obtain ⟨hseen, hrest⟩ := h.ends cluster (hinit cluster hold)
      exact ⟨List.mem_append_left _ hseen, hrest⟩
    · rw [List.mem_singleton.mp hnew]
      exact ⟨List.mem_append_right _ List.mem_cons_self, hdense, hleast⟩
  · intro cluster hmem
    rcases List.mem_append.mp hmem with hold | hnew
    · exact h.counts cluster (hinit cluster hold)
    · rw [List.mem_singleton.mp hnew]
      exact ⟨lt_max_of_lt_right hdense, h.isGreatest_merge hnext hstart hbegin⟩
  · intro last hlast hdenseLast
    rcases List.mem_append.mp hlast with hseen | hnew
    · obtain ⟨cluster, hcluster, hlastEnd, hcovers⟩ := h.covered last hseen hdenseLast
      rcases List.mem_append.mp hcluster with hold | hsame
      · exact ⟨cluster, List.mem_append_left _ hold, hlastEnd, hcovers⟩
      · rw [List.mem_singleton.mp hsame] at hlastEnd hcovers
        exact ⟨_, List.mem_append_right _ List.mem_cons_self, by dsimp only; omega, hcovers⟩
    · rw [List.mem_singleton.mp hnew]
      exact ⟨_, List.mem_append_right _ List.mem_cons_self, Nat.le_refl down, hleast⟩
  · intro last hlast _ cluster hcluster
    rw [List.getLast?_concat] at hcluster
    rw [← Option.some.inj hcluster]
    rcases List.mem_append.mp hlast with hseen | hnew
    · exact Nat.le_of_lt (hnext.later last hseen)
    · exact Nat.le_of_eq (List.mem_singleton.mp hnew)

/-- A dense window is added to the clusters. -/
theorem mergeDense (h : ClustersOf downs seen dense) (hnext : NextDown downs seen down)
    (hstart : WindowStart downs down first) (hdense : 6 < windowCount downs down)
    (hfits : ∀ other ∈ downs, other < 2 ^ 64) :
    ClustersOf downs (seen ++ [down]) (mergeDense first down (windowCount downs down) dense) := by
  unfold AppCore.mergeDense
  rcases List.eq_nil_or_concat dense with hnil | ⟨init, previous, hconcat⟩
  · subst hnil
    apply h.push hnext hstart hdense
    intro cluster hmem
    cases hmem
  · rw [List.concat_eq_append] at hconcat
    subst hconcat
    rw [List.getLast?_concat]
    dsimp only
    split
    · rw [List.dropLast_concat]
      exact h.merge hnext hstart hdense
    case isFalse hclose =>
      apply h.push hnext hstart hdense
      have hfirst := hfits first hstart.mem
      have hlast : previous.endUs + 50000 < first := by
        unfold saturatingAdd at hclose
        omega
      intro cluster hmem
      rcases List.mem_append.mp hmem with hold | hsame
      · have hapart := (List.pairwise_append.mp h.apart).2.2 cluster hold previous
          List.mem_cons_self
        have hle := h.start_le_end (List.mem_append_right init List.mem_cons_self)
        omega
      · rw [List.mem_singleton.mp hsame]
        exact hlast

end ClustersOf

variable {right left : ℕ}

/-- The left end of the window of a press. -/
def leftEnd (downs : List ℕ) (right : ℕ) : ℕ :=
  countBelow (downs.getD right 0 - 100000) downs

/-- The left end is no later than the press. -/
theorem leftEnd_le (hsorted : downs.Pairwise (· < ·)) (hright : right < downs.length) :
    leftEnd downs right ≤ right := by
  have hself := @getElem_lt_iff downs right (downs.getD right 0 - 100000) hsorted hright
  rw [List.getD_eq_getElem _ _ hright] at hself
  unfold leftEnd
  rw [List.getD_eq_getElem _ _ hright]
  omega

/-- The loop moves the left end of an earlier window to that of the press. -/
theorem advanceLeft_eq (hsorted : downs.Pairwise (· < ·)) (hright : right < downs.length)
    {fuel : ℕ} (hle : left ≤ leftEnd downs right) (hfuel : leftEnd downs right ≤ left + fuel) :
    advanceLeft downs right fuel left = leftEnd downs right := by
  induction fuel generalizing left with
  | zero =>
    rw [advanceLeft]
    omega
  | succ fuel ih =>
    have hend := leftEnd_le hsorted hright
    have hleft : left < downs.length := by omega
    have hposition := @getElem_lt_iff downs left (downs.getD right 0 - 100000) hsorted hleft
    change downs[left] < _ ↔ left < leftEnd downs right at hposition
    rw [advanceLeft, List.getD_eq_getElem _ _ hleft]
    split
    · exact ih (by omega) (by omega)
    · omega

/-- The left end of the window is its first press, and the window has the presses between. -/
theorem windowStart_leftEnd (hsorted : downs.Pairwise (· < ·)) (hright : right < downs.length) :
    WindowStart downs (downs.getD right 0) (downs.getD (leftEnd downs right) 0) ∧
      right - leftEnd downs right + 1 = windowCount downs (downs.getD right 0) := by
  have hend := leftEnd_le hsorted hright
  have hleft : leftEnd downs right < downs.length := by omega
  have hmonotone {first last : ℕ} (hle : first ≤ last) (hlast : last < downs.length) :
      downs[first] ≤ downs[last] := by
    rcases Nat.lt_or_ge first last with hlt | hge
    · exact Nat.le_of_lt (List.pairwise_iff_getElem.mp hsorted first last (by omega) hlast hlt)
    · obtain rfl : first = last := by omega
      exact Nat.le_refl _
  have hposition {index : ℕ} (hindex : index < downs.length) :
      downs[index] < downs.getD right 0 - 100000 ↔ index < leftEnd downs right :=
    getElem_lt_iff hsorted hindex
  rw [List.getD_eq_getElem _ _ hleft]
  constructor
  · have hself := hposition hleft
    refine ⟨List.getElem_mem hleft, ?_, ?_, ?_⟩
    · rw [List.getD_eq_getElem _ _ hright]
      exact hmonotone hend hright
    · omega
    · intro other hother hnear
      obtain ⟨index, hindex, rfl⟩ := List.mem_iff_getElem.mp hother
      have hother := hposition hindex
      exact hmonotone (by omega) hindex
  · have hsum := @countBelow_add_countBetween downs (downs.getD right 0 - 100000)
      (downs.getD right 0) (by omega)
    have hbelow := countBelow_succ_getElem hsorted hright
    rw [← List.getD_eq_getElem _ 0 hright] at hbelow
    unfold windowCount
    unfold leftEnd at hend ⊢
    omega

/-- A press is the next one after the presses before it. -/
theorem nextDown_take (hsorted : downs.Pairwise (· < ·)) (hright : right < downs.length) :
    NextDown downs (downs.take right) (downs.getD right 0) := by
  rw [List.getD_eq_getElem _ _ hright]
  refine ⟨List.getElem_mem hright, ?_, ?_⟩
  · intro other hother
    obtain ⟨index, hindex, rfl⟩ := List.mem_take_iff_getElem.mp hother
    exact List.pairwise_iff_getElem.mp hsorted index right (by omega) hright (by omega)
  · intro other hother hle
    obtain ⟨index, hindex, rfl⟩ := List.mem_iff_getElem.mp hother
    rcases Nat.lt_trichotomy index right with hlt | hsame | hgt
    · exact .inl (List.mem_take_iff_getElem.mpr ⟨index, by omega, rfl⟩)
    · subst hsame
      exact .inr rfl
    · have hlater := List.pairwise_iff_getElem.mp hsorted right index hright hindex hgt
      omega

/-- The sweep after some presses. -/
theorem clustersOf_sweep (hsorted : downs.Pairwise (· < ·)) (hfits : ∀ down ∈ downs, down < 2 ^ 64)
    (hright : right ≤ downs.length) :
    ClustersOf downs (downs.take right) ((List.range right).foldl (sweepRight downs) ⟨0, []⟩).dense ∧
      ∀ index, right ≤ index → index < downs.length →
        ((List.range right).foldl (sweepRight downs) ⟨0, []⟩).left ≤ leftEnd downs index := by
  induction right with
  | zero =>
    constructor
    · constructor
      · exact List.Pairwise.nil
      all_goals
        intro element hmem
        cases hmem
    · intro index _ _
      exact Nat.zero_le _
  | succ right ih =>
    obtain ⟨hclusters, hleft⟩ := ih (by omega)
    obtain ⟨hstart, hcount⟩ := windowStart_leftEnd hsorted hright
    have hnext := nextDown_take hsorted hright
    have hseen : downs.take (right + 1) = downs.take right ++ [downs.getD right 0] := by
      rw [List.take_add_one, List.getElem?_eq_getElem hright, List.getD_eq_getElem _ _ hright]
      rfl
    rw [List.range_succ, List.foldl_append, List.foldl_cons, List.foldl_nil, hseen]
    generalize (List.range right).foldl (sweepRight downs) ⟨0, []⟩ = sweep at hclusters hleft ⊢
    have hend := leftEnd_le hsorted hright
    have hbefore := hleft right (Nat.le_refl right) hright
    have hadvance : advanceLeft downs right (right - sweep.left) sweep.left = leftEnd downs right :=
      advanceLeft_eq hsorted hright hbefore (by omega)
    unfold sweepRight
    dsimp only
    rw [hadvance, hcount]
    constructor
    · split
      case isTrue hdense => exact hclusters.mergeDense hnext hstart hdense hfits
      case isFalse hfew => exact hclusters.skip hfew
    · intro index hindex hlength
      have hlater := List.pairwise_iff_getElem.mp hsorted right index hright hlength hindex
      have hmono : leftEnd downs right ≤ leftEnd downs index := by
        unfold leftEnd
        rw [List.getD_eq_getElem _ _ hright, List.getD_eq_getElem _ _ hlength]
        exact countBelow_mono (by omega)
      split <;> exact hmono

/-- A press begins a window of a second with all presses that are close enough. -/
theorem length_takeWhile_near (hsorted : downs.Pairwise (· < ·)) (hright : right < downs.length) :
    ((downs.drop right).takeWhile fun next => next - downs.getD right 0 ≤ 1000000).length =
      countBetween (downs.getD right 0) (downs.getD right 0 + 1000000) downs := by
  rw [List.getD_eq_getElem _ _ hright]
  have hnear : (downs.drop right).Pairwise fun earlier later =>
      decide (later - downs[right] ≤ 1000000) = true →
        decide (earlier - downs[right] ≤ 1000000) = true := by
    apply (hsorted.sublist (List.drop_sublist right downs)).imp
    intro earlier later hlt hlater
    simp only [decide_eq_true_eq] at hlater ⊢
    omega
  have hbefore : countBetween downs[right] (downs[right] + 1000000) (downs.take right) = 0 := by
    apply List.countP_eq_zero.mpr
    intro other hother
    obtain ⟨index, hindex, rfl⟩ := List.mem_take_iff_getElem.mp hother
    have hlt := List.pairwise_iff_getElem.mp hsorted index right (by omega) hright (by omega)
    simp only [decide_eq_true_eq]
    omega
  have hafter : ∀ other ∈ downs.drop right, downs[right] ≤ other := by
    intro other hother
    obtain ⟨index, hindex, rfl⟩ := List.mem_iff_getElem.mp hother
    rw [List.getElem_drop]
    rcases Nat.eq_zero_or_pos index with rfl | hpos
    · exact Nat.le_refl _
    · rw [List.length_drop] at hindex
      exact Nat.le_of_lt (List.pairwise_iff_getElem.mp hsorted right (right + index) hright
        (by omega) (by omega))
  have hsplit : countBetween downs[right] (downs[right] + 1000000) downs =
      countBetween downs[right] (downs[right] + 1000000) (downs.take right) +
        countBetween downs[right] (downs[right] + 1000000) (downs.drop right) := by
    unfold countBetween
    rw [← List.countP_append, List.take_append_drop]
  rw [length_takeWhile_eq_countP hnear, hsplit, hbefore, Nat.zero_add]
  apply List.countP_congr
  intro other hother
  have hle := hafter other hother
  simp only [decide_eq_true_eq]
  omega

/-- The running maximum over the first indices. -/
theorem foldl_max_range (value : ℕ → ℕ) (count : ℕ) :
    (∀ index < count, value index ≤
        (List.range count).foldl (fun peak index => max peak (value index)) 0) ∧
      (0 < count → ∃ index < count,
        (List.range count).foldl (fun peak index => max peak (value index)) 0 = value index) := by
  induction count with
  | zero => exact ⟨fun index hindex => absurd hindex (Nat.not_lt_zero index), fun h => absurd h (lt_irrefl 0)⟩
  | succ count ih =>
    rw [List.range_succ, List.foldl_append, List.foldl_cons, List.foldl_nil]
    constructor
    · intro index hindex
      rcases Nat.lt_or_ge index count with hlt | hge
      · exact Nat.le_trans (ih.1 index hlt) (Nat.le_max_left _ _)
      · obtain rfl : index = count := by omega
        exact Nat.le_max_right _ _
    · intro _
      rcases Nat.eq_zero_or_pos count with rfl | hpos
      · exact ⟨0, Nat.lt_succ_self 0, Nat.zero_max _⟩
      · obtain ⟨index, hindex, hvalue⟩ := ih.2 hpos
        rcases Nat.le_total (value index) (value count) with hle | hle
        · exact ⟨count, Nat.lt_succ_self count, by rw [hvalue, Nat.max_eq_right hle]⟩
        · exact ⟨index, by omega, by rw [hvalue, Nat.max_eq_left hle]⟩

/-- The peak is the greatest number of presses of any window of a second. -/
theorem isGreatest_peakCount (hsorted : downs.Pairwise (· < ·)) :
    IsGreatest { count | ∃ first, count = countBetween first (first + 1000000) downs }
      (peakCount downs) := by
  obtain ⟨hle, hreached⟩ := foldl_max_range (fun index => ((downs.drop index).takeWhile fun next =>
    next - downs.getD index 0 ≤ 1000000).length) downs.length
  change (∀ index < downs.length, _ ≤ peakCount downs) at hle
  change (0 < downs.length → ∃ index < downs.length, peakCount downs = _) at hreached
  constructor
  · rcases Nat.eq_zero_or_pos downs.length with hnone | hpos
    · obtain rfl := List.length_eq_zero_iff.mp hnone
      exact ⟨0, rfl⟩
    · obtain ⟨index, hindex, hpeak⟩ := hreached hpos
      rw [length_takeWhile_near hsorted hindex] at hpeak
      exact ⟨_, hpeak⟩
  · rintro count ⟨low, rfl⟩
    rcases Nat.eq_zero_or_pos (countBetween low (low + 1000000) downs) with hnone | hpos
    · omega
    · -- the window has no more presses than the one from its first press
      obtain ⟨first, hfirst, hlow, hhigh, hall⟩ := exists_first hpos
      obtain ⟨index, hindex, rfl⟩ := List.mem_iff_getElem.mp hfirst
      have hpeak := hle index hindex
      rw [length_takeWhile_near hsorted hindex, List.getD_eq_getElem _ _ hindex] at hpeak
      have hmore : countBetween low (low + 1000000) downs ≤
          countBetween downs[index] (downs[index] + 1000000) downs := by
        apply List.countP_mono_left
        intro other hother hwithin
        simp only [decide_eq_true_eq] at hwithin ⊢
        have hafter := hall other hother hwithin.1 hwithin.2
        omega
      exact Nat.le_trans hmore hpeak

/-- The clusters of increasing times, and their peak, are what is reported of them. -/
theorem densityReported_of_sorted (hsorted : downs.Pairwise (· < ·))
    (hfits : ∀ down ∈ downs, down < 2 ^ 64) :
    DensityReported downs ((List.range downs.length).foldl (sweepRight downs) ⟨0, []⟩).dense
      (f64 (peakCount downs)) := by
  have hclusters := (clustersOf_sweep hsorted hfits (Nat.le_refl _)).1
  rw [List.take_length] at hclusters
  generalize ((List.range downs.length).foldl (sweepRight downs) ⟨0, []⟩).dense = dense at hclusters ⊢
  constructor
  · obtain ⟨⟨first, hpeak⟩, hgreatest⟩ := isGreatest_peakCount hsorted
    have hfew : peakCount downs < 2 ^ 53 := by
      have hle := @countBetween_le downs first (first + 1000000) hsorted
      rw [← hpeak] at hle
      omega
    exact ⟨peakCount downs, toNearest_natCast hfew, ⟨first, hpeak⟩, hgreatest⟩
  · rintro low high ⟨hwidth, hdense⟩
    have hpos : 0 < countBetween low high downs := by omega
    obtain ⟨last, hlast, hlow, hhigh, hsame, hall⟩ := exists_last_down hpos
    have hwindow : countBetween low last downs ≤ windowCount downs last :=
      countBetween_mono (by omega) (Nat.le_refl last)
    obtain ⟨cluster, hcluster, hend, hbegin⟩ := hclusters.covered last hlast (by omega)
    refine ⟨cluster, hcluster, ?_, ?_⟩
    · intro note hnote hfrom hto
      exact ⟨hbegin note hnote (by omega), Nat.le_trans (hall note hnote hfrom hto) hend⟩
    · -- two clusters are too far apart to share a note
      intro other hother hcovers
      have hthis := hbegin last hlast (by omega)
      have hthat := hcovers last hlast hlow hhigh
      obtain ⟨index, hindex, rfl⟩ := List.mem_iff_getElem.mp hcluster
      obtain ⟨index', hindex', rfl⟩ := List.mem_iff_getElem.mp hother
      rcases Nat.lt_trichotomy index index' with hlt | rfl | hgt
      · have hapart := List.pairwise_iff_getElem.mp hclusters.apart _ _ hindex hindex' hlt
        omega
      · rfl
      · have hapart := List.pairwise_iff_getElem.mp hclusters.apart _ _ hindex' hindex hgt
        omega
  · exact hclusters.apart
  · intro cluster hmem
    obtain ⟨hstart, last, hend, hnear, hle, hdense, hleast⟩ := hclusters.begins cluster hmem
    refine ⟨hstart, last, hend, hnear, ?_⟩
    have hwindow : windowCount downs last = countBetween cluster.startUs last downs :=
      WindowStart.windowCount_eq ⟨hstart, hle, hnear, hleast⟩
    rw [← hwindow]
    exact hdense
  · intro cluster hmem
    obtain ⟨hend, hdense, hleast⟩ := hclusters.ends cluster hmem
    refine ⟨hend, max (cluster.endUs - 100000) cluster.startUs, Nat.le_max_right _ _, ?_, ?_⟩
    · omega
    · have hsame : windowCount downs cluster.endUs =
          countBetween (max (cluster.endUs - 100000) cluster.startUs) cluster.endUs downs := by
        apply countBetween_congr
        intro other hother
        have hafter := hleast other hother
        omega
      rw [← hsame]
      exact hdense
  · intro cluster hmem
    exact (hclusters.counts cluster hmem).2

end Sweep

section Schedule

variable {drafts : List DraftOnset} {tempo : TempoScale} {policy : MaterializedTimingPolicy}
  {schedule : ScheduleMetadata}

/-- The presses of merged actions are at increasing times. -/
theorem downTimes_sorted (actions : List KeyAction) :
    (downTimes (finalActions actions)).Pairwise (· < ·) := by
  unfold downTimes
  apply List.pairwise_map.mpr
  apply List.pairwise_filter.mpr
  apply (finalActions_sorted actions).imp
  intro first second horder hfirst hsecond
  simp only [decide_eq_true_eq] at hfirst hsecond
  simp only [actionOrder, hfirst, hsecond, if_true] at horder
  omega

/-- The times of scheduled actions fit into their type. -/
theorem scheduleDrafts_fits {nextBySource : ℕ → Option (Option ℕ)} {progress : ScheduleProgress}
    (h : scheduleDrafts policy nextBySource drafts = .ok progress) :
    ∀ action ∈ progress.actions, action.atUs < 2 ^ 64 := by
  have hrun : ∀ (rest : List DraftOnset) (start : ScheduleProgress),
      (∀ action ∈ start.actions, action.atUs < 2 ^ 64) →
        rest.foldlM (scheduleDraft policy nextBySource) start = .ok progress →
          ∀ action ∈ progress.actions, action.atUs < 2 ^ 64 := by
    intro rest
    induction rest with
    | nil =>
      intro start hstart hfold
      rw [List.foldlM_nil, Except.pure_eq_ok] at hfold
      rw [← hfold]
      exact hstart
    | cons draft rest ih =>
      intro start hstart hfold
      rw [List.foldlM_cons, Except.bind_eq_ok] at hfold
      obtain ⟨next, hnext, hrest⟩ := hfold
      apply ih next ?_ hrest
      simp only [scheduleDraft, Except.bind_eq_ok, okOr_eq_ok, checkedAdd_eq_some,
        Except.pure_eq_ok] at hnext
      obtain ⟨releaseAtUs, ⟨hfits, rfl⟩, rfl⟩ := hnext
      intro action hmem
      have hkept : (actualHold policy (nextBySource draft.sourceIndex).join draft.atUs
          start).2.actions = start.actions := by
        unfold actualHold repeatHold
        split
        · rfl
        · dsimp only
          split
          · rfl
          · split <;> rfl
      rcases List.mem_append.mp hmem with hold | hnew
      · rw [hkept] at hold
        exact hstart action hold
      · rcases List.mem_pair.mp hnew with rfl | rfl
        · unfold onsetAction
          dsimp only
          omega
        · exact hfits
  apply hrun drafts ScheduleProgress.initial ?_ h
  intro action hmem
  cases hmem

/-- The presses of a built schedule, each as one note, are reported with their dense passages and
their peak. -/
theorem schedule_density_reported
    (h : buildScheduleFromScaledOnsets drafts tempo policy = .ok schedule) :
    DensityReported (downTimes schedule.actions) (denseClusters schedule.actions)
      (peakDensity schedule.actions) := by
  simp only [buildScheduleFromScaledOnsets, Except.bind_eq_ok, failIf_eq_ok, okOr_eq_ok,
    Except.pure_eq_ok] at h
  obtain ⟨_, -, progress, hprogress, _, -, rfl⟩ := h
  apply densityReported_of_sorted (downTimes_sorted progress.actions)
  intro down hdown
  obtain ⟨action, haction, rfl⟩ := List.mem_map.mp hdown
  obtain ⟨key, hkey, rfl⟩ := mem_finalActions.mp (List.mem_filter.mp haction).1
  obtain ⟨scheduled, hscheduled, rfl⟩ := List.mem_map.mp hkey
  exact scheduleDrafts_fits hprogress scheduled hscheduled

/-- Seven single keys of consecutive milliseconds are one dense passage. -/
theorem schedule_density_of_seven :
    ∃ schedule, buildScheduleFromScaledOnsets
        ((List.range 7).map fun index => ⟨1000 * index, skyScanCodes.getD index 0, index⟩)
        ⟨true, some, fun _ _ => none⟩ ⟨17167, 17167⟩ = .ok schedule ∧
      denseClusters schedule.actions = [⟨0, 6000, 7⟩] ∧
        DensityReported (downTimes schedule.actions) (denseClusters schedule.actions)
          (peakDensity schedule.actions) := by
  obtain ⟨schedule, h, hclusters⟩ : ∃ schedule, buildScheduleFromScaledOnsets
      ((List.range 7).map fun index => ⟨1000 * index, skyScanCodes.getD index 0, index⟩)
      ⟨true, some, fun _ _ => none⟩ ⟨17167, 17167⟩ = .ok schedule ∧
        denseClusters schedule.actions = [⟨0, 6000, 7⟩] := ⟨_, rfl, by decide +kernel⟩
  exact ⟨schedule, h, hclusters, schedule_density_reported h⟩

/-- The notes of a schedule when every key of a press is a note. -/
def keyNotes (actions : List KeyAction) : List ℕ :=
  (actions.filter fun action => action.kind = .down).flatMap fun action =>
    action.scanCodes.map fun _ => action.atUs

/-- Seven keys of one time are one press, which is no dense passage. -/
theorem chord_is_one_note :
    ¬∀ (drafts : List DraftOnset) (tempo : TempoScale) (policy : MaterializedTimingPolicy)
      (schedule : ScheduleMetadata),
      buildScheduleFromScaledOnsets drafts tempo policy = .ok schedule →
        DensityReported (keyNotes schedule.actions) (denseClusters schedule.actions)
          (peakDensity schedule.actions) := by
  intro h
  have hreported := h ((List.range 7).map fun index => ⟨0, skyScanCodes.getD index 0, index⟩)
    ⟨true, some, fun _ _ => none⟩ ⟨17167, 17167⟩ _ rfl
  obtain ⟨cluster, hcluster, -⟩ := hreported.covered 0 0 ⟨by decide, by decide +kernel⟩
  have hnone : denseClusters (finalActions ((List.range 7).flatMap fun index =>
      [⟨0, [skyScanCodes.getD index 0], .down, "onset"⟩,
        ⟨17167, [skyScanCodes.getD index 0], .up, "release"⟩])) = [] := by decide +kernel
  exact absurd (hnone ▸ hcluster) List.not_mem_nil

end Schedule

end SkyAutoPlayer.AppCore
