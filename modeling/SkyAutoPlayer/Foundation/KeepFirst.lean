import Mathlib.Data.List.Nodup

/-!
# Keeping the first element of every key

A filtering loop that remembers the keys it has seen keeps exactly one element of every key,
namely the first, in the original order.
-/

namespace SkyAutoPlayer.Foundation

universe u v

variable {α : Type u} {κ : Type v} [DecidableEq κ]

/-- The elements whose key is neither in `seen` nor the key of an earlier element. -/
def keepFirst (key : α → κ) : List κ → List α → List α
  | _, [] => []
  | seen, head :: tail =>
    if key head ∈ seen then keepFirst key seen tail
    else head :: keepFirst key (key head :: seen) tail

/-- The kept elements appear in their original order. -/
theorem keepFirst_sublist (key : α → κ) (seen : List κ) (list : List α) :
    (keepFirst key seen list).Sublist list := by
  induction list generalizing seen with
  | nil => exact List.Sublist.slnil
  | cons head tail ih =>
    unfold keepFirst
    split
    · exact (ih seen).cons head
    · exact (ih _).cons_cons head

/-- No kept element has a key that was seen before. -/
theorem key_notMem_of_mem_keepFirst {key : α → κ} {seen : List κ} {list : List α} {a : α}
    (h : a ∈ keepFirst key seen list) : key a ∉ seen := by
  induction list generalizing seen with
  | nil => cases h
  | cons head tail ih =>
    unfold keepFirst at h
    split at h
    · exact ih h
    · rename_i hfresh
      rcases List.mem_cons.mp h with rfl | htail
      · exact hfresh
      · exact fun hseen => ih htail (List.mem_cons_of_mem _ hseen)

/-- The kept elements have pairwise distinct keys. -/
theorem keepFirst_pairwise (key : α → κ) (seen : List κ) (list : List α) :
    (keepFirst key seen list).Pairwise (fun a b => key a ≠ key b) := by
  induction list generalizing seen with
  | nil => exact List.Pairwise.nil
  | cons head tail ih =>
    unfold keepFirst
    split
    · exact ih seen
    · refine List.pairwise_cons.mpr ⟨fun b hb heq => ?_, ih _⟩
      exact key_notMem_of_mem_keepFirst hb (heq ▸ List.mem_cons_self)

/-- Every key that was not seen before is kept by one element. -/
theorem exists_mem_keepFirst {key : α → κ} {seen : List κ} {list : List α} {a : α}
    (ha : a ∈ list) (hfresh : key a ∉ seen) : ∃ b ∈ keepFirst key seen list, key b = key a := by
  induction list generalizing seen with
  | nil => cases ha
  | cons head tail ih =>
    unfold keepFirst
    by_cases hhead : key head ∈ seen
    · have htail : a ∈ tail := by
        rcases List.mem_cons.mp ha with rfl | htail
        · exact absurd hhead hfresh
        · exact htail
      rw [if_pos hhead]
      exact ih htail hfresh
    · rw [if_neg hhead]
      by_cases heq : key head = key a
      · exact ⟨head, List.mem_cons_self, heq⟩
      · have htail : a ∈ tail := by
          rcases List.mem_cons.mp ha with rfl | htail
          · exact absurd rfl heq
          · exact htail
        obtain ⟨b, hb, hkey⟩ := @ih (key head :: seen) htail
          (fun h => (List.mem_cons.mp h).elim (fun h' => heq h'.symm) hfresh)
        exact ⟨b, List.mem_cons_of_mem _ hb, hkey⟩

/-- Keeping first occurrences keeps the members. -/
theorem mem_keepFirst_id {list : List κ} {a : κ} : a ∈ keepFirst id [] list ↔ a ∈ list := by
  constructor
  · exact fun h => (keepFirst_sublist id [] list).subset h
  · intro h
    obtain ⟨b, hb, heq⟩ := exists_mem_keepFirst h (List.not_mem_nil : id a ∉ [])
    rw [id, id] at heq
    exact heq ▸ hb

/-- Kept first occurrences are distinct. -/
theorem keepFirst_id_nodup (list : List κ) : (keepFirst id [] list).Nodup :=
  keepFirst_pairwise id [] list

/-- Distinct keys lose nothing. -/
theorem keepFirst_eq_self {key : α → κ} {seen : List κ} {list : List α}
    (hdistinct : list.Pairwise (fun a b => key a ≠ key b)) (hfresh : ∀ a ∈ list, key a ∉ seen) :
    keepFirst key seen list = list := by
  induction list generalizing seen with
  | nil => rfl
  | cons head tail ih =>
    obtain ⟨hhead, htail⟩ := List.pairwise_cons.mp hdistinct
    rw [keepFirst, if_neg (hfresh head List.mem_cons_self), ih htail]
    intro a ha hmem
    rcases List.mem_cons.mp hmem with heq | hmem
    · exact hhead a ha heq.symm
    · exact hfresh a (List.mem_cons_of_mem _ ha) hmem

/-- Append, one after another, the elements whose key is not in the list yet. -/
def pushMissing (key : α → κ) (list new : List α) : List α :=
  new.foldl (fun pushed a => if key a ∈ pushed.map key then pushed else pushed ++ [a]) list

/-- What is pushed are the first elements of the keys that were missing. -/
theorem pushMissing_eq {key : α → κ} {seen : List κ} {list new : List α}
    (hseen : ∀ k, k ∈ seen ↔ k ∈ list.map key) :
    pushMissing key list new = list ++ keepFirst key seen new := by
  induction new generalizing seen list with
  | nil => simp [pushMissing, keepFirst]
  | cons head tail ih =>
    rw [pushMissing, List.foldl_cons, keepFirst]
    by_cases hmem : key head ∈ seen
    · rw [if_pos hmem, if_pos ((hseen _).mp hmem)]
      exact ih hseen
    · rw [if_neg hmem, if_neg fun h => hmem ((hseen _).mpr h)]
      have hpushed : ∀ k, k ∈ key head :: seen ↔ k ∈ (list ++ [head]).map key := by
        intro k
        rw [List.mem_cons, hseen, List.map_append, List.mem_append, List.map_singleton,
          List.mem_singleton, or_comm]
      have hrest := ih hpushed
      rw [pushMissing] at hrest
      rw [hrest, List.append_assoc, List.singleton_append]

/-- Every new element's key is there afterwards. -/
theorem exists_mem_pushMissing {key : α → κ} {list new : List α} {a : α} (h : a ∈ new) :
    ∃ b ∈ pushMissing key list new, key b = key a := by
  rw [pushMissing_eq fun _ => Iff.rfl]
  by_cases hmem : key a ∈ list.map key
  · obtain ⟨b, hb, hkey⟩ := List.mem_map.mp hmem
    exact ⟨b, List.mem_append_left _ hb, hkey⟩
  · obtain ⟨b, hb, hkey⟩ := exists_mem_keepFirst h hmem
    exact ⟨b, List.mem_append_right _ hb, hkey⟩

/-- Elements with pairwise distinct keys have each key at most once. -/
theorem countP_key_le_one {key : α → κ} {list : List α} (k : κ)
    (h : list.Pairwise fun a b => key a ≠ key b) : list.countP (fun a => key a = k) ≤ 1 := by
  induction list with
  | nil => exact Nat.zero_le _
  | cons head tail ih =>
    obtain ⟨hhead, htail⟩ := List.pairwise_cons.mp h
    rw [List.countP_cons]
    by_cases hkey : key head = k
    · have hnone : tail.countP (fun a => key a = k) = 0 := by
        rw [List.countP_eq_zero]
        intro a ha hsame
        exact hhead a ha (hkey.trans (of_decide_eq_true hsame).symm)
      simp [hnone, hkey]
    · simpa [hkey] using ih htail

/-- Pushing repeats no key: each is there at most once, or as often as before. -/
theorem countP_pushMissing_le {key : α → κ} {list new : List α} (k : κ) :
    (pushMissing key list new).countP (fun a => key a = k) ≤ 1 ∨
      (pushMissing key list new).countP (fun a => key a = k) ≤
        list.countP (fun a => key a = k) := by
  rw [pushMissing_eq fun _ => Iff.rfl, List.countP_append]
  by_cases hmem : k ∈ list.map key
  · right
    have hnone : (keepFirst key (list.map key) new).countP (fun a => key a = k) = 0 := by
      rw [List.countP_eq_zero]
      intro a ha hsame
      exact key_notMem_of_mem_keepFirst ha (of_decide_eq_true hsame ▸ hmem)
    rw [hnone]
    exact Nat.le_refl _
  · left
    have hnone : list.countP (fun a => key a = k) = 0 := by
      rw [List.countP_eq_zero]
      intro a ha hsame
      exact hmem (List.mem_map.mpr ⟨a, ha, of_decide_eq_true hsame⟩)
    rw [hnone, Nat.zero_add]
    exact countP_key_le_one k (keepFirst_pairwise key _ new)

end SkyAutoPlayer.Foundation
