import Mathlib.Algebra.BigOperators.Group.List.Basic
import Mathlib.Algebra.Order.Group.Nat
import Mathlib.Algebra.Ring.Nat
import Mathlib.Order.Interval.Finset.Nat

/-!
# Time under hold

Reasons are entered and exited at ticks. Time is held while at least one reason is: the held ticks
form intervals, of which the last may still be open. The intervals are kept along the changes, and
for chronological changes their total length is the number of ticks at which some reason was held.
-/

namespace SkyAutoPlayer.Foundation

variable {ρ : Type*}

/-- A reason is entered or exited at a tick. -/
inductive HoldChange (ρ : Type*) where
  | enter (reason : ρ) (tick : ℕ)
  | exit (reason : ρ) (tick : ℕ)
  deriving DecidableEq, Repr

/-- The tick of a change. -/
def HoldChange.tick : HoldChange ρ → ℕ
  | .enter _ tick => tick
  | .exit _ tick => tick

/-- No change is earlier than the first tick or than a change before it. -/
def Chronological (first : ℕ) (changes : List (HoldChange ρ)) : Prop :=
  (first :: changes.map HoldChange.tick).Pairwise (· ≤ ·)

/-- The reasons held, the closed intervals, and the start of the open one. -/
structure HeldTime (ρ : Type*) where
  reasons : Finset ρ
  closed : List (ℕ × ℕ)
  since : Option ℕ

namespace HeldTime

variable [DecidableEq ρ]

/-- The first reason opens an interval and the last one closes it. -/
def change (held : HeldTime ρ) : HoldChange ρ → HeldTime ρ
  | .enter reason tick =>
    { held with
      reasons := insert reason held.reasons
      since := some (held.since.getD tick) }
  | .exit reason tick =>
    if held.reasons.erase reason = ∅ then
      { reasons := ∅
        closed := held.closed ++ held.since.toList.map fun started => (started, tick)
        since := none }
    else { held with reasons := held.reasons.erase reason }

/-- The intervals of a run of changes. -/
def after (changes : List (HoldChange ρ)) : HeldTime ρ := changes.foldl change ⟨∅, [], none⟩

/-- The total length of the closed intervals. -/
def closedTicks (held : HeldTime ρ) : ℕ := (held.closed.map fun closed => closed.2 - closed.1).sum

/-- The length of the open interval at a tick. -/
def openTicks (held : HeldTime ρ) (now : ℕ) : ℕ := held.since.elim 0 fun started => now - started

@[simp] theorem after_append (changes : List (HoldChange ρ)) (change : HoldChange ρ) :
    after (changes ++ [change]) = (after changes).change change := List.foldl_concat ..

/-- An interval is open while some reason is held. -/
theorem since_after (changes : List (HoldChange ρ)) :
    (after changes).since = none ↔ (after changes).reasons = ∅ := by
  induction changes using List.reverseRecOn with
  | nil => simp [after]
  | append_singleton changes change ih =>
    rw [after_append]
    cases change with
    | enter reason tick => simp [HeldTime.change]
    | exit reason tick =>
      simp only [HeldTime.change]
      split
      · simp
      case isFalse hrest =>
        have hreasons : (after changes).reasons ≠ ∅ := by
          rintro h
          simp [h] at hrest
        simp [ih, hreasons, hrest]

/-- Intervals start at a change. -/
theorem since_mem {changes : List (HoldChange ρ)} {started : ℕ}
    (h : (after changes).since = some started) : ∃ change ∈ changes, change.tick = started := by
  induction changes using List.reverseRecOn with
  | nil => simp [after] at h
  | append_singleton changes change ih =>
    have hkept (hsince : (after changes).since = some started) :
        ∃ earlier ∈ changes ++ [change], earlier.tick = started := by
      obtain ⟨earlier, hearlier, htick⟩ := ih hsince
      exact ⟨earlier, List.mem_append_left _ hearlier, htick⟩
    rw [after_append] at h
    cases change with
    | enter reason tick =>
      cases hsince : (after changes).since with
      | none =>
        have htick : tick = started := by simpa [HeldTime.change, hsince] using h
        exact ⟨_, List.mem_append_right _ (List.mem_singleton_self _), htick⟩
      | some opened =>
        have hopened : opened = started := by simpa [HeldTime.change, hsince] using h
        exact hkept (hopened ▸ hsince)
    | exit reason tick =>
      simp only [HeldTime.change] at h
      split at h
      · cases h
      · exact hkept h

/-- A change moves the held time up to its tick into the measure, and what follows is open. -/
theorem change_ticks {held : HeldTime ρ} {change : HoldChange ρ} {last : ℕ}
    (hsince : held.since = none ↔ held.reasons = ∅)
    (hstarted : ∀ started, held.since = some started → started ≤ change.tick)
    (hlast : change.tick ≤ last) :
    (held.change change).closedTicks + (held.change change).openTicks last =
      held.closedTicks + held.openTicks change.tick +
        if (held.change change).reasons = ∅ then 0 else last - change.tick := by
  cases hopen : held.since with
  | none =>
    have hnone : held.reasons = ∅ := hsince.mp hopen
    cases change with
    | enter reason tick => simp [HeldTime.change, closedTicks, openTicks, hopen, HoldChange.tick]
    | exit reason tick => simp [HeldTime.change, closedTicks, openTicks, hopen, hnone]
  | some started =>
    have hle := hstarted started hopen
    cases change with
    | enter reason tick =>
      simp only [HoldChange.tick] at hle hlast
      simp only [HeldTime.change, closedTicks, openTicks, hopen, HoldChange.tick,
        Option.getD_some, Option.elim_some, Finset.insert_ne_empty, if_false]
      omega
    | exit reason tick =>
      simp only [HoldChange.tick] at hle hlast
      by_cases hrest : held.reasons.erase reason = ∅
      · simp [HeldTime.change, closedTicks, openTicks, hopen, hrest, HoldChange.tick]
      · simp only [HeldTime.change, hrest, if_false, closedTicks, openTicks, hopen,
          HoldChange.tick, Option.elim_some]
        omega

/-- Exiting the last reason adds the open interval to the closed ones. -/
theorem closedTicks_exit {held : HeldTime ρ} {reason : ρ} {started : ℕ}
    (hreasons : held.reasons = {reason}) (hopen : held.since = some started) (now : ℕ) :
    (held.change (.exit reason now)).closedTicks = held.closedTicks + (now - started) := by
  simp [HeldTime.change, hreasons, hopen, closedTicks]

/-- Closed intervals stay closed. -/
theorem closedTicks_change (held : HeldTime ρ) (change : HoldChange ρ) :
    held.closedTicks ≤ (held.change change).closedTicks := by
  cases change with
  | enter reason tick => exact le_rfl
  | exit reason tick =>
    rw [HeldTime.change]
    split
    · simp [closedTicks]
    · exact le_rfl

/-- While some reason stays held, the intervals stay. -/
theorem after_of_held {earlier later : List (HoldChange ρ)}
    (h : ∀ part, part <+: later → (after (earlier ++ part)).reasons ≠ ∅) :
    (after (earlier ++ later)).closed = (after earlier).closed ∧
      (after (earlier ++ later)).since = (after earlier).since := by
  induction later using List.reverseRecOn with
  | nil => simp
  | append_singleton later change ih =>
    have hbefore := ih fun part hpart => h part (hpart.trans (List.prefix_append _ _))
    have hheld : (after (earlier ++ later)).reasons ≠ ∅ := h later (List.prefix_append _ _)
    have hafter : (after (earlier ++ (later ++ [change]))).reasons ≠ ∅ := h _ List.prefix_rfl
    rw [← List.append_assoc, after_append] at hafter ⊢
    rw [← hbefore.1, ← hbefore.2]
    cases change with
    | enter reason tick =>
      obtain ⟨started, hopen⟩ := Option.ne_none_iff_exists'.mp (mt (since_after _).mp hheld)
      simp [HeldTime.change, hopen]
    | exit reason tick =>
      rw [HeldTime.change] at hafter ⊢
      split at hafter
      · exact absurd rfl hafter
      case isFalse hrest => simp [hrest]

end HeldTime

/-- The reasons held at a tick. -/
def reasonsAt [DecidableEq ρ] (changes : List (HoldChange ρ)) (tick : ℕ) : Finset ρ :=
  (HeldTime.after (changes.filter fun change => change.tick ≤ tick)).reasons

/-- The number of ticks, from a first one to before a last one, at which some reason is held. -/
def heldTicks [DecidableEq ρ] (changes : List (HoldChange ρ)) (first last : ℕ) : ℕ :=
  ((Finset.Ico first last).filter fun tick => reasonsAt changes tick ≠ ∅).card

variable [DecidableEq ρ] {changes : List (HoldChange ρ)} {first last : ℕ}

/-- From the last change on, the held reasons stay. -/
theorem reasonsAt_of_le {tick : ℕ} (h : ∀ change ∈ changes, change.tick ≤ tick) :
    reasonsAt changes tick = (HeldTime.after changes).reasons := by
  have hall : changes.filter (fun change => change.tick ≤ tick) = changes :=
    List.filter_eq_self.mpr fun change hchange => decide_eq_true (h change hchange)
  rw [reasonsAt, hall]

/-- Later changes do not touch the reasons held before them. -/
theorem reasonsAt_append {later : List (HoldChange ρ)} {tick : ℕ}
    (h : ∀ change ∈ later, tick < change.tick) :
    reasonsAt (changes ++ later) tick = reasonsAt changes tick := by
  have hnone : later.filter (fun change => change.tick ≤ tick) = [] := by
    apply List.filter_eq_nil_iff.mpr
    intro change hchange
    simpa using h change hchange
  rw [reasonsAt, List.filter_append, hnone, List.append_nil, reasonsAt]

/-- From the last change on, time is held throughout or not at all. -/
theorem heldTicks_split {middle : ℕ} (hfirst : first ≤ middle) (hlast : middle ≤ last)
    (h : ∀ change ∈ changes, change.tick ≤ middle) :
    heldTicks changes first last = heldTicks changes first middle +
      if (HeldTime.after changes).reasons = ∅ then 0 else last - middle := by
  have hsplit : Finset.Ico first last = Finset.Ico first middle ∪ Finset.Ico middle last :=
    (Finset.Ico_union_Ico_eq_Ico hfirst hlast).symm
  have hdisjoint : Disjoint
      ((Finset.Ico first middle).filter fun tick => reasonsAt changes tick ≠ ∅)
      ((Finset.Ico middle last).filter fun tick => reasonsAt changes tick ≠ ∅) :=
    Finset.disjoint_filter_filter (Finset.Ico_disjoint_Ico_consecutive first middle last)
  have htail : (Finset.Ico middle last).filter (fun tick => reasonsAt changes tick ≠ ∅) =
      if (HeldTime.after changes).reasons = ∅ then ∅ else Finset.Ico middle last := by
    split
    case isTrue hnone =>
      apply Finset.filter_eq_empty_iff.mpr
      intro tick htick
      rw [reasonsAt_of_le fun change hchange =>
        (h change hchange).trans (Finset.mem_Ico.mp htick).1]
      simpa using hnone
    case isFalse hsome =>
      apply Finset.filter_eq_self.mpr
      intro tick htick
      rwa [reasonsAt_of_le fun change hchange =>
        (h change hchange).trans (Finset.mem_Ico.mp htick).1]
  rw [heldTicks, hsplit, Finset.filter_union, Finset.card_union_of_disjoint hdisjoint, htail]
  split <;> simp [heldTicks]

/-- Time before later changes is held as without them. -/
theorem heldTicks_append {later : List (HoldChange ρ)}
    (h : ∀ change ∈ later, last ≤ change.tick) :
    heldTicks (changes ++ later) first last = heldTicks changes first last := by
  rw [heldTicks, heldTicks]
  congr 1
  apply Finset.filter_congr
  intro tick htick
  rw [reasonsAt_append fun change hchange =>
    (Finset.mem_Ico.mp htick).2.trans_le (h change hchange)]

/-- The time under hold grows at most as fast as time. -/
theorem heldTicks_growth {earlier later : List (HoldChange ρ)} {now now' : ℕ}
    (hlater : ∀ change ∈ later, now ≤ change.tick) :
    heldTicks (earlier ++ later) first now' ≤ heldTicks earlier first now + (now' - now) := by
  have hsub : (Finset.Ico first now').filter (fun tick => reasonsAt (earlier ++ later) tick ≠ ∅) ⊆
      (Finset.Ico first now).filter (fun tick => reasonsAt (earlier ++ later) tick ≠ ∅) ∪
        Finset.Ico now now' := by
    intro tick htick
    simp only [Finset.mem_filter, Finset.mem_union, Finset.mem_Ico] at htick ⊢
    by_cases hearly : tick < now
    · exact .inl ⟨⟨htick.1.1, hearly⟩, htick.2⟩
    · exact .inr ⟨Nat.not_lt.mp hearly, htick.1.2⟩
  have hcard := (Finset.card_le_card hsub).trans (Finset.card_union_le _ _)
  have hbefore : heldTicks (earlier ++ later) first now = heldTicks earlier first now :=
    heldTicks_append hlater
  rw [← hbefore]
  simpa only [heldTicks, Nat.card_Ico] using hcard

omit [DecidableEq ρ] in
/-- The earlier part of chronological changes is chronological, and no later than the rest. -/
theorem chronological_append {change : HoldChange ρ} :
    Chronological first (changes ++ [change]) ↔
      Chronological first changes ∧ first ≤ change.tick ∧
        ∀ earlier ∈ changes, earlier.tick ≤ change.tick := by
  simp only [Chronological, List.map_append, List.map_cons, List.map_nil, ← List.cons_append,
    List.pairwise_append, List.pairwise_singleton, true_and, List.mem_cons, List.mem_map,
    List.not_mem_nil, or_false, forall_eq, forall_eq_or_imp, forall_exists_index, and_imp,
    forall_apply_eq_imp_iff₂]

omit [DecidableEq ρ] in
/-- An earlier part of chronological changes is chronological. -/
theorem chronological_left {later : List (HoldChange ρ)}
    (h : Chronological first (changes ++ later)) : Chronological first changes := by
  rw [Chronological, List.map_append, ← List.cons_append] at h
  exact (List.pairwise_append.mp h).1

omit [DecidableEq ρ] in
instance (first : ℕ) (changes : List (HoldChange ρ)) :
    Decidable (Chronological first changes) :=
  inferInstanceAs (Decidable (List.Pairwise _ _))

/-- For chronological changes, the intervals measure the ticks under hold. -/
theorem closedTicks_add_openTicks (hchanges : Chronological first changes)
    (hfirst : first ≤ last) (hlast : ∀ change ∈ changes, change.tick ≤ last) :
    (HeldTime.after changes).closedTicks + (HeldTime.after changes).openTicks last =
      heldTicks changes first last := by
  induction changes using List.reverseRecOn generalizing last with
  | nil =>
    simp [HeldTime.after, HeldTime.closedTicks, HeldTime.openTicks, heldTicks, reasonsAt]
  | append_singleton changes change ih =>
    obtain ⟨hchanges, hchange, hearlier⟩ := chronological_append.mp hchanges
    have htick : change.tick ≤ last := hlast change (by simp)
    have hbefore := ih hchanges hchange hearlier
    have hall : ∀ earlier ∈ changes ++ [change], earlier.tick ≤ change.tick := by
      intro earlier hmem
      rcases List.mem_append.mp hmem with hmem | hmem
      · exact hearlier earlier hmem
      · exact (List.mem_singleton.mp hmem ▸ le_rfl)
    have hstarted (started : ℕ) (h : (HeldTime.after changes).since = some started) :
        started ≤ change.tick := by
      obtain ⟨earlier, hmem, rfl⟩ := HeldTime.since_mem h
      exact hearlier earlier hmem
    rw [heldTicks_split hchange htick hall,
      heldTicks_append (by simp),  ← hbefore,
      HeldTime.after_append,
      HeldTime.change_ticks (HeldTime.since_after changes) hstarted htick]

end SkyAutoPlayer.Foundation
