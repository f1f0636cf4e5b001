import Mathlib.Algebra.BigOperators.Group.List.Basic
import Mathlib.Algebra.Ring.Nat
import Mathlib.Data.List.Nodup

/-!
# Caches with a bound on their number and on their weight

A cache keeps its entries from the least to the most recently used, and the sum of their weights. An
insertion evicts from the front until the new entry fits both bounds. A sound cache keeps distinct
keys, the exact weight and both bounds, and every operation keeps a cache sound.
-/

namespace SkyAutoPlayer.Foundation

/-- A value under its key. -/
structure CacheEntry (κ α : Type) where
  key : κ
  value : α

/-- The entries, the most recently used one last, and their weight. -/
structure WeightedCache (κ α : Type) where
  entries : List (CacheEntry κ α)
  weight : ℕ

namespace WeightedCache

variable {κ α : Type} (size : α → ℕ) (maxEntries maxWeight : ℕ)

/-- A cache without entries. -/
def empty : WeightedCache κ α := ⟨[], 0⟩

/-- The sum of the sizes of entries. -/
def totalSize (entries : List (CacheEntry κ α)) : ℕ :=
  (entries.map fun entry => size entry.value).sum

/-- Drop entries from the front until one more of a size fits, or none is left. -/
def evictFor (added : ℕ) : List (CacheEntry κ α) → ℕ → WeightedCache κ α
  | [], weight => ⟨[], weight⟩
  | entry :: rest, weight =>
    if maxEntries ≤ (entry :: rest).length ∨ maxWeight < weight + added then
      evictFor added rest (weight - size entry.value)
    else ⟨entry :: rest, weight⟩

/-- Keep the entries whose keys pass a test. -/
def retain (keep : κ → Bool) (cache : WeightedCache κ α) : WeightedCache κ α :=
  ⟨cache.entries.filter fun entry => keep entry.key,
    cache.weight -
      ((cache.entries.filter fun entry => !keep entry.key).map fun entry => size entry.value).sum⟩

/-- Distinct keys, the exact weight and both bounds. -/
structure Sound (cache : WeightedCache κ α) : Prop where
  keys_nodup : (cache.entries.map CacheEntry.key).Nodup
  weight_eq : cache.weight = totalSize size cache.entries
  length_le : cache.entries.length ≤ maxEntries
  weight_le : cache.weight ≤ maxWeight

section Sizes

variable {size maxEntries maxWeight} {entry : CacheEntry κ α} {entries : List (CacheEntry κ α)}

@[simp] theorem totalSize_nil : totalSize size ([] : List (CacheEntry κ α)) = 0 := rfl

@[simp] theorem totalSize_cons :
    totalSize size (entry :: entries) = size entry.value + totalSize size entries := by
  simp [totalSize]

@[simp] theorem totalSize_append {more : List (CacheEntry κ α)} :
    totalSize size (entries ++ more) = totalSize size entries + totalSize size more := by
  simp [totalSize]

/-- Sizes do not depend on the order. -/
theorem totalSize_perm {more : List (CacheEntry κ α)} (h : entries.Perm more) :
    totalSize size entries = totalSize size more :=
  (h.map _).sum_eq

/-- The sizes of the entries are those that pass a test and those that do not. -/
theorem totalSize_filter_add (test : CacheEntry κ α → Bool) :
    totalSize size (entries.filter test) + totalSize size (entries.filter fun entry => !test entry) =
      totalSize size entries := by
  induction entries with
  | nil => rfl
  | cons entry rest ih =>
    cases htest : test entry <;> simp [htest] <;> omega

/-- What an eviction leaves is a suffix with its exact weight, and it is empty or has room. -/
theorem evictFor_spec {added weight : ℕ} (h : weight = totalSize size entries) :
    (evictFor size maxEntries maxWeight added entries weight).entries.Sublist entries ∧
      (evictFor size maxEntries maxWeight added entries weight).weight =
        totalSize size (evictFor size maxEntries maxWeight added entries weight).entries ∧
      ((evictFor size maxEntries maxWeight added entries weight).entries = [] ∨
        (evictFor size maxEntries maxWeight added entries weight).entries.length < maxEntries ∧
          (evictFor size maxEntries maxWeight added entries weight).weight + added ≤ maxWeight) := by
  induction entries generalizing weight with
  | nil => exact ⟨List.Sublist.refl _, h, .inl rfl⟩
  | cons entry rest ih =>
    rw [totalSize_cons] at h
    rw [evictFor]
    split
    · obtain ⟨hsublist, hweight, hroom⟩ := @ih (weight - size entry.value) (by omega)
      exact ⟨hsublist.cons entry, hweight, hroom⟩
    · rename_i hfits
      refine ⟨List.Sublist.refl _, ?_, .inr ⟨?_, ?_⟩⟩
      · rw [totalSize_cons]
        exact h
      · change (entry :: rest).length < maxEntries
        omega
      · change weight + added ≤ maxWeight
        omega

/-- A sound cache has no entry at first. -/
theorem Sound.empty : Sound size maxEntries maxWeight (WeightedCache.empty : WeightedCache κ α) where
  keys_nodup := List.nodup_nil
  weight_eq := rfl
  length_le := Nat.zero_le _
  weight_le := Nat.zero_le _

/-- Keeping some entries keeps a cache sound. -/
theorem Sound.retain {cache : WeightedCache κ α} (h : Sound size maxEntries maxWeight cache) (keep : κ → Bool) :
    Sound size maxEntries maxWeight (cache.retain size keep) := by
  have htotal := @totalSize_filter_add _ _ size cache.entries fun entry => keep entry.key
  have hweight : (cache.retain size keep).weight =
      totalSize size (cache.retain size keep).entries := by
    change cache.weight - totalSize size _ =
      totalSize size (cache.entries.filter fun entry => keep entry.key)
    rw [h.weight_eq]
    omega
  constructor
  · exact h.keys_nodup.sublist (List.filter_sublist.map _)
  · exact hweight
  · exact Nat.le_trans (List.length_filter_le _ _) h.length_le
  · exact Nat.le_trans (Nat.sub_le _ _) h.weight_le

end Sizes

variable [DecidableEq κ]

/-- The value of a key, which becomes the most recently used one. -/
def get (key : κ) (cache : WeightedCache κ α) : Option α × WeightedCache κ α :=
  match cache.entries.find? fun entry => entry.key = key with
  | some entry =>
    (some entry.value,
      { cache with entries := cache.entries.eraseP (fun entry => entry.key = key) ++ [entry] })
  | none => (none, cache)

/-- Remove the entry of a key, if there is one. -/
def remove (key : κ) (cache : WeightedCache κ α) : WeightedCache κ α :=
  match cache.entries.find? fun entry => entry.key = key with
  | some entry =>
    ⟨cache.entries.eraseP fun entry => entry.key = key, cache.weight - size entry.value⟩
  | none => cache

/-- Store a value as the most recently used one, unless it is too large by itself. -/
def insert (key : κ) (value : α) (cache : WeightedCache κ α) : WeightedCache κ α :=
  if maxWeight < size value then cache
  else
    let removed := cache.remove size key
    let evicted := evictFor size maxEntries maxWeight (size value) removed.entries removed.weight
    ⟨evicted.entries ++ [⟨key, value⟩], evicted.weight + size value⟩

variable {size maxEntries maxWeight} {key : κ} {value : α} {entry : CacheEntry κ α}
  {cache : WeightedCache κ α}

/-- A found entry splits the entries, and its first occurrence is what is erased. -/
theorem split_of_find? (h : cache.entries.find? (fun entry => entry.key = key) = some entry) :
    entry.key = key ∧ ∃ before after, cache.entries = before ++ entry :: after ∧
      cache.entries.eraseP (fun entry => entry.key = key) = before ++ after := by
  obtain ⟨hkey, before, after, hsplit, hbefore⟩ := List.find?_eq_some_iff_append.mp h
  refine ⟨of_decide_eq_true hkey, before, after, hsplit, ?_⟩
  rw [hsplit, List.eraseP_append_right _ (by simpa using hbefore), List.eraseP_cons, hkey]
  rfl

/-- A value that is found is cached under the key. -/
theorem mem_of_get (h : (cache.get key).1 = some value) : ⟨key, value⟩ ∈ cache.entries := by
  unfold get at h
  split at h
  · rename_i found hfind
    obtain ⟨rfl, before, after, hsplit, -⟩ := split_of_find? hfind
    obtain rfl := Option.some.inj h
    rw [hsplit]
    exact List.mem_append_right _ List.mem_cons_self
  · cases h

/-- A look-up only moves the entry it finds. -/
theorem perm_get : (cache.get key).2.entries.Perm cache.entries := by
  unfold get
  split
  · rename_i found hfind
    obtain ⟨-, before, after, hsplit, herase⟩ := split_of_find? hfind
    rw [herase, hsplit, List.append_assoc]
    exact (List.perm_append_singleton found after).append_left before
  · exact List.Perm.refl _

/-- A look-up keeps the weight. -/
theorem weight_get : (cache.get key).2.weight = cache.weight := by
  unfold get
  split <;> rfl

/-- A look-up keeps a cache sound. -/
theorem Sound.get (h : Sound size maxEntries maxWeight cache) :
    Sound size maxEntries maxWeight (cache.get key).2 where
  keys_nodup := (perm_get.map _).nodup_iff.mpr h.keys_nodup
  weight_eq := by rw [weight_get, h.weight_eq, totalSize_perm perm_get]
  length_le := by rw [perm_get.length_eq]; exact h.length_le
  weight_le := by rw [weight_get]; exact h.weight_le

/-- A removal leaves a part of the entries, none of them under the key. -/
theorem sublist_remove : (cache.remove size key).entries.Sublist cache.entries := by
  unfold remove
  split
  · exact List.eraseP_sublist
  · exact List.Sublist.refl _

/-- A removal leaves no entry under the key. -/
theorem key_notMem_remove (h : (cache.entries.map CacheEntry.key).Nodup) :
    key ∉ (cache.remove size key).entries.map CacheEntry.key := by
  unfold remove
  split
  · rename_i found hfind
    obtain ⟨rfl, before, after, hsplit, herase⟩ := split_of_find? hfind
    rw [hsplit, List.map_append, List.map_cons, List.nodup_middle, List.nodup_cons] at h
    simpa [herase] using h.1
  · rename_i hfind
    intro hmem
    obtain ⟨found, hfound, hkey⟩ := List.mem_map.mp hmem
    have hnone := List.find?_eq_none.mp hfind found hfound
    simp [hkey] at hnone

/-- A removal keeps the weight exact. -/
theorem weight_remove (h : cache.weight = totalSize size cache.entries) :
    (cache.remove size key).weight = totalSize size (cache.remove size key).entries := by
  unfold remove
  split
  · rename_i found hfind
    obtain ⟨-, before, after, hsplit, herase⟩ := split_of_find? hfind
    have htotal : cache.weight = totalSize size before + (size found.value + totalSize size after) := by
      rw [h, hsplit, totalSize_append, totalSize_cons]
    change cache.weight - size found.value = totalSize size (cache.entries.eraseP _)
    rw [herase, totalSize_append]
    omega
  · exact h

/-- An insertion keeps a cache sound. -/
theorem Sound.insert (h : Sound size maxEntries maxWeight cache) (hpositive : 0 < maxEntries) :
    Sound size maxEntries maxWeight (cache.insert size maxEntries maxWeight key value) := by
  unfold WeightedCache.insert
  split
  · exact h
  · rename_i hsmall
    have hremoved := @weight_remove _ _ size _ key cache h.weight_eq
    obtain ⟨hsublist, hweight, hroom⟩ :=
      @evictFor_spec _ _ size maxEntries maxWeight _ (size value) _ hremoved
    constructor
    · change (List.map CacheEntry.key (_ ++ [_])).Nodup
      rw [List.map_append, List.map_singleton]
      refine List.Nodup.append ?_ (List.nodup_singleton key) ?_
      · exact h.keys_nodup.sublist ((hsublist.trans sublist_remove).map _)
      · intro other hother hkey
        rw [List.mem_singleton.mp hkey] at hother
        exact key_notMem_remove h.keys_nodup ((hsublist.map _).subset hother)
    · change _ + size value = totalSize size (_ ++ [⟨key, value⟩])
      rw [totalSize_append, totalSize_cons, totalSize_nil, hweight, Nat.add_zero]
    · change (_ ++ [_]).length ≤ maxEntries
      rw [List.length_append, List.length_singleton]
      rcases hroom with hnone | ⟨hlength, -⟩
      · rw [hnone, List.length_nil]
        omega
      · omega
    · change _ + size value ≤ maxWeight
      rcases hroom with hnone | ⟨-, hfits⟩
      · rw [hweight, hnone, totalSize_nil]
        omega
      · exact hfits

/-- After an insertion there are the new entry and entries from before. -/
theorem mem_insert (h : entry ∈ (cache.insert size maxEntries maxWeight key value).entries)
    (hweight : cache.weight = totalSize size cache.entries) :
    entry = ⟨key, value⟩ ∨ entry ∈ cache.entries := by
  unfold WeightedCache.insert at h
  split at h
  · exact .inr h
  · rcases List.mem_append.mp h with hold | hnew
    · obtain ⟨hsublist, -, -⟩ :=
        @evictFor_spec _ _ size maxEntries maxWeight _ (size value) _
          (@weight_remove _ _ size _ key cache hweight)
      exact .inr ((hsublist.trans sublist_remove).subset hold)
    · exact .inl (List.mem_singleton.mp hnew)

end WeightedCache

end SkyAutoPlayer.Foundation
