import Mathlib.Data.List.Forall2
import SkyAutoPlayer.Foundation.ErrorState

/-!
# Sequences of checks

A computation that checks one item after the other fails at the first item whose check does. What the
checks of the earlier items computed, and what was made of it, does not matter for that. The lemmas on
failure are the counterparts of those on success.
-/

namespace Except

universe u v

variable {ε : Type v} {α β : Type u}

/-- A sequence fails as its first part does, or as its continuation does. -/
theorem bind_eq_error {first : Except ε α} {next : α → Except ε β} {error : ε} :
    first >>= next = .error error ↔
      first = .error error ∨ ∃ value, first = .ok value ∧ next value = .error error := by
  cases first with
  | error found => simp [Bind.bind, Except.bind]
  | ok value => simp [Bind.bind, Except.bind]

/-- A mapped computation fails as the computation does. -/
theorem map_eq_error {first : Except ε α} {f : α → β} {error : ε} :
    f <$> first = .error error ↔ first = .error error := by
  cases first with
  | error found => simp [Functor.map, Except.map]
  | ok value => simp [Functor.map, Except.map]

/-- A passed check has no value of its own. -/
theorem exists_done {check : Except ε PUnit} {p : Prop} :
    (∃ done, check = .ok done ∧ p) ↔ check = .ok ⟨⟩ ∧ p := by
  rw [exists_and_right]
  apply and_congr_left'
  constructor
  · intro h
    obtain ⟨done, hdone⟩ := h
    exact hdone
  · intro h
    exact ⟨⟨⟩, h⟩

/-- A check and what follows it fail as either does, the check first. -/
theorem seq_eq_error {first : Except ε PUnit} {next : Except ε β} {error : ε} :
    (first >>= fun _ => next) = .error error ↔
      first = .error error ∨ first = .ok ⟨⟩ ∧ next = .error error := by
  rw [bind_eq_error, exists_done]

end Except

namespace SkyAutoPlayer.Foundation

universe u

variable {ε Item Value State : Type u}

/-- What a checked traversal makes of a list, item by item. -/
theorem forall₂_of_mapM {f : Item → Except ε Value} {items : List Item} {values : List Value}
    (h : items.mapM f = .ok values) :
    List.Forall₂ (fun item value => f item = .ok value) items values := by
  induction items generalizing values with
  | nil =>
    rw [List.mapM_nil] at h
    obtain rfl := Except.ok.inj h
    exact .nil
  | cons item rest ih =>
    simp only [List.mapM_cons, Except.bind_eq_ok, Except.pure_eq_ok] at h
    obtain ⟨value, hvalue, others, hothers, rfl⟩ := h
    exact .cons hvalue (ih hothers)

/-- An absent value fails with its error. -/
theorem okOr_eq_error {named error : ε} {value : Option Value} :
    okOr named value = .error error ↔ value = none ∧ named = error := by
  cases value <;> simp [okOr]

/-- An early return fails with its error. -/
theorem failIf_eq_error {rejected : Prop} [Decidable rejected] {named error : ε} :
    failIf rejected named = .error error ↔ rejected ∧ named = error := by
  unfold failIf
  split <;> simp_all

/-- A value that is present is passed on. -/
theorem okOr_some_bind {named : ε} {value : Value} {next : Value → Except ε State} :
    okOr named (some value) >>= next = next value :=
  rfl

/-- An early return whose condition fails is passed. -/
theorem failIf_bind_of_not {Result : Type} {rejected : Prop} [Decidable rejected] {named : ε}
    {next : Except ε Result} (h : ¬rejected) : (failIf rejected named >>= fun _ => next) = next := by
  rw [failIf, if_neg h]
  rfl

/-- An early return whose condition holds is taken. -/
theorem failIf_bind_of {Result : Type} {rejected : Prop} [Decidable rejected] {named : ε}
    {next : Except ε Result} (h : rejected) :
    (failIf rejected named >>= fun _ => next) = .error named := by
  rw [failIf, if_pos h]
  rfl

/-- One item is bad, and every earlier one is good. -/
def FirstBad (good bad : Item → Prop) (items : List Item) : Prop :=
  ∃ before item after, items = before ++ item :: after ∧
    (∀ earlier ∈ before, good earlier) ∧ bad item

section FirstBad

variable {good bad : Item → Prop} {item : Item} {items : List Item} {error : ε}

/-- Nothing is bad where there is nothing. -/
theorem not_firstBad_nil : ¬FirstBad good bad [] := by
  intro h
  obtain ⟨before, found, after, hsplit, -⟩ := h
  cases before <;> cases hsplit

/-- The first bad item is the first item, or it is the first bad one of the others. -/
theorem firstBad_cons :
    FirstBad good bad (item :: items) ↔ bad item ∨ good item ∧ FirstBad good bad items := by
  constructor
  · intro h
    obtain ⟨before, found, after, hsplit, hbefore, hbad⟩ := h
    cases before with
    | nil =>
      obtain ⟨rfl, -⟩ := List.cons.inj hsplit
      exact .inl hbad
    | cons head before =>
      obtain ⟨rfl, hrest⟩ := List.cons.inj hsplit
      have hrests : ∀ earlier ∈ before, good earlier :=
        fun earlier hmem => hbefore earlier (List.mem_cons_of_mem _ hmem)
      exact .inr ⟨hbefore item List.mem_cons_self, before, found, after, hrest, hrests, hbad⟩
  · intro h
    cases h with
    | inl hbad => exact ⟨[], item, items, rfl, by simp, hbad⟩
    | inr hrest =>
      obtain ⟨hgood, before, found, after, rfl, hbefore, hbad⟩ := hrest
      have hall : ∀ earlier ∈ item :: before, good earlier :=
        List.forall_mem_cons.mpr ⟨hgood, hbefore⟩
      exact ⟨item :: before, found, after, rfl, hall, hbad⟩

/-- Where every item is good or bad and one is bad, there is a first bad one. -/
theorem firstBad_of_exists (hall : ∀ item ∈ items, good item ∨ bad item)
    (hbad : ∃ item ∈ items, bad item) : FirstBad good bad items := by
  induction items with
  | nil => simp at hbad
  | cons head rest ih =>
    rw [firstBad_cons]
    cases hall head List.mem_cons_self with
    | inr hhead => exact .inl hhead
    | inl hhead =>
      rw [List.exists_mem_cons_iff] at hbad
      cases hbad with
      | inl hfound => exact .inl hfound
      | inr hfound =>
        have hrest : ∀ item ∈ rest, good item ∨ bad item :=
          fun item hmem => hall item (List.mem_cons_of_mem head hmem)
        exact .inr ⟨hhead, ih hrest hfound⟩

/-- A loop of checks fails at the first bad item. -/
theorem forM_eq_error {check : Item → Except ε PUnit}
    (hgood : ∀ item, check item = .ok PUnit.unit ↔ good item)
    (hbad : ∀ item, check item = .error error ↔ bad item) :
    items.forM check = .error error ↔ FirstBad good bad items := by
  induction items with
  | nil =>
    rw [iff_false_right not_firstBad_nil]
    intro h
    cases h
  | cons head rest ih =>
    rw [List.forM_eq_forM] at ih ⊢
    rw [List.forM_cons, Except.seq_eq_error, firstBad_cons, ← ih, ← hgood, ← hbad]

/-- A loop fails with the error of one of its checks. -/
theorem exists_of_forM_eq_error {check : Item → Except ε PUnit}
    (h : items.forM check = .error error) : ∃ item ∈ items, check item = .error error := by
  induction items with
  | nil => cases h
  | cons head rest ih =>
    rw [List.forM_eq_forM] at ih h
    rw [List.forM_cons, Except.seq_eq_error] at h
    cases h with
    | inl hhead => exact ⟨head, List.mem_cons_self, hhead⟩
    | inr hrest =>
      obtain ⟨item, hmem, hitem⟩ := ih hrest.2
      exact ⟨item, List.mem_cons_of_mem head hmem, hitem⟩

variable {check : Item → Except ε Value} {combine : State → Item → Value → State}
  {state result : State}

/-- A loop that keeps what it makes of the checks fails at the first bad item. -/
theorem foldlM_eq_error (hgood : ∀ item, (∃ value, check item = .ok value) ↔ good item)
    (hbad : ∀ item, check item = .error error ↔ bad item) :
    items.foldlM (fun state item => combine state item <$> check item) state = .error error ↔
      FirstBad good bad items := by
  induction items generalizing state with
  | nil =>
    rw [List.foldlM_nil, iff_false_right not_firstBad_nil]
    intro h
    cases h
  | cons head rest ih =>
    rw [List.foldlM_cons, Except.bind_eq_error, Except.map_eq_error, firstBad_cons, hbad,
      ← hgood]
    apply or_congr_right
    constructor
    · intro h
      obtain ⟨next, hnext, hrest⟩ := h
      obtain ⟨value, hvalue, -⟩ := Except.map_eq_ok.mp hnext
      exact ⟨⟨value, hvalue⟩, ih.mp hrest⟩
    · intro h
      obtain ⟨⟨value, hvalue⟩, hrest⟩ := h
      exact ⟨combine state head value, Except.map_eq_ok.mpr ⟨value, hvalue, rfl⟩, ih.mpr hrest⟩

/-- What holds before the loop and is kept by every passed check holds after it. -/
theorem foldlM_keeps {kept : State → Prop}
    (hkeeps : ∀ state, ∀ item ∈ items, ∀ value, kept state → check item = .ok value →
      kept (combine state item value))
    (hstate : kept state)
    (h : items.foldlM (fun state item => combine state item <$> check item) state = .ok result) :
    kept result := by
  induction items generalizing state with
  | nil =>
    obtain rfl := Except.pure_eq_ok.mp h
    exact hstate
  | cons head rest ih =>
    rw [List.foldlM_cons, Except.bind_eq_ok] at h
    obtain ⟨next, hnext, hrest⟩ := h
    obtain ⟨value, hvalue, rfl⟩ := Except.map_eq_ok.mp hnext
    apply ih _ (hkeeps state head List.mem_cons_self value hstate hvalue) hrest
    intro state item hmem
    exact hkeeps state item (List.mem_cons_of_mem _ hmem)

end FirstBad

end SkyAutoPlayer.Foundation
