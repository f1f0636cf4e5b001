import Mathlib.Data.List.Nodup
import Mathlib.Data.List.Perm.Lattice
import Mathlib.Data.List.Range
import Mathlib.Data.List.Induction

/-!
# Press ledgers

A press stream is a list of frames. A frame releases keys, naming the press each release closes
when the key is held, and then presses keys under fresh consecutive identifiers. The ledger
keeps the holding press of every key. In a coherent stream every identifier is pressed exactly
once, a holding press was made on its own key in an earlier frame, and an identifier is
released exactly when it is no longer holding.
-/

namespace SkyAutoPlayer.Foundation

universe u

variable {κ : Type u} [DecidableEq κ]

/-- One boundary of a press stream: the released keys with the press each closes, and the
pressed keys with their identifiers. -/
structure PressFrame (κ : Type u) where
  ups : List (κ × Option ℕ)
  downs : List (κ × ℕ)

/-- The holding press of every key and the next fresh identifier. -/
structure PressLedger (κ : Type u) where
  owner : κ → Option ℕ
  next : ℕ

namespace PressLedger

/-- No key is held and no identifier is used. -/
def empty : PressLedger κ := ⟨fun _ => none, 0⟩

/-- Release the frame's keys, then press its keys. -/
def after (ledger : PressLedger κ) (frame : PressFrame κ) : PressLedger κ where
  owner key :=
    match frame.downs.find? (·.1 = key) with
    | some press => some press.2
    | none => if key ∈ frame.ups.map Prod.fst then none else ledger.owner key
  next := ledger.next + frame.downs.length

/-- A frame names the right presses: each release the key's holding press, each press a free
key and the next fresh identifier. -/
structure Admits (ledger : PressLedger κ) (frame : PressFrame κ) : Prop where
  ups_nodup : (frame.ups.map Prod.fst).Nodup
  ups_owner : ∀ up ∈ frame.ups, up.2 = ledger.owner up.1
  downs_nodup : (frame.downs.map Prod.fst).Nodup
  downs_free : ∀ down ∈ frame.downs, ledger.owner down.1 = none
  downs_fresh : frame.downs.map Prod.snd = List.range' ledger.next frame.downs.length

/-- The ledger after a stream of frames. -/
def ofFrames (frames : List (PressFrame κ)) : PressLedger κ := frames.foldl after empty

/-- The ledger after one more frame. -/
theorem ofFrames_concat (frames : List (PressFrame κ)) (frame : PressFrame κ) :
    ofFrames (frames ++ [frame]) = (ofFrames frames).after frame := by
  simp [ofFrames]

/-- Every frame is admitted by the ledger of the frames before it. -/
def Coherent (frames : List (PressFrame κ)) : Prop :=
  ∀ index frame, frames[index]? = some frame → (ofFrames (frames.take index)).Admits frame

/-- No frames are coherent. -/
theorem coherent_nil : Coherent ([] : List (PressFrame κ)) := fun _ _ h => by cases h

/-- A stream grows coherently by admitted frames. -/
theorem coherent_concat {frames : List (PressFrame κ)} {frame : PressFrame κ} :
    Coherent (frames ++ [frame]) ↔ Coherent frames ∧ (ofFrames frames).Admits frame := by
  constructor
  · intro h
    refine ⟨fun index other hother => ?_, ?_⟩
    · obtain ⟨hlt, -⟩ := List.getElem?_eq_some_iff.mp hother
      have hadmits := h index other (by rw [List.getElem?_append_left hlt, hother])
      rwa [List.take_append_of_le_length hlt.le] at hadmits
    · have hadmits := h frames.length frame (by simp)
      rwa [List.take_left] at hadmits
  · rintro ⟨hframes, hframe⟩ index other hother
    rcases Nat.lt_trichotomy index frames.length with hlt | heq | hgt
    · rw [List.getElem?_append_left hlt] at hother
      rw [List.take_append_of_le_length hlt.le]
      exact hframes index other hother
    · subst heq
      rw [List.getElem?_concat_length, Option.some.injEq] at hother
      rw [List.take_left, ← hother]
      exact hframe
    · rw [List.getElem?_eq_none (by simp; omega)] at hother
      cases hother

variable {ledger : PressLedger κ} {frame : PressFrame κ} {frames : List (PressFrame κ)}
  {key : κ} {press : ℕ}

/-- A pressed key is held by its new press. -/
theorem after_owner_of_mem (h : ledger.Admits frame) (hdown : (key, press) ∈ frame.downs) :
    (ledger.after frame).owner key = some press := by
  have hfind : frame.downs.find? (·.1 = key) = some (key, press) := by
    cases hfound : frame.downs.find? (·.1 = key) with
    | none =>
      have hnone := List.find?_eq_none.mp hfound (key, press) hdown
      simp at hnone
    | some found =>
      have hkey : found.1 = key := by simpa using List.find?_some hfound
      have hmem := List.mem_of_find?_eq_some hfound
      exact congrArg some (List.inj_on_of_nodup_map h.downs_nodup hmem hdown hkey)
  simp only [after, hfind]

/-- A key that is not pressed is released, or keeps its holding press. -/
theorem after_owner_of_notMem (hdown : key ∉ frame.downs.map Prod.fst) :
    (ledger.after frame).owner key =
      if key ∈ frame.ups.map Prod.fst then none else ledger.owner key := by
  have hfind : frame.downs.find? (·.1 = key) = none := by
    refine List.find?_eq_none.mpr fun down hmem hkey => hdown ?_
    exact List.mem_map.mpr ⟨down, hmem, of_decide_eq_true hkey⟩
  simp only [after, hfind]

/-- A holding press is new, or was holding before and was not released. -/
theorem after_owner_eq_some (h : ledger.Admits frame) :
    (ledger.after frame).owner key = some press ↔
      (key, press) ∈ frame.downs ∨
        key ∉ frame.ups.map Prod.fst ∧ ledger.owner key = some press := by
  by_cases hdown : key ∈ frame.downs.map Prod.fst
  · obtain ⟨⟨other, fresh⟩, hmem, rfl⟩ := List.mem_map.mp hdown
    have hfree := h.downs_free _ hmem
    rw [after_owner_of_mem h hmem]
    constructor
    · intro heq
      cases heq
      exact Or.inl hmem
    · rintro (hother | ⟨-, hheld⟩)
      · have heq := List.inj_on_of_nodup_map h.downs_nodup hmem hother rfl
        exact congrArg (fun down => some down.2) heq
      · dsimp only at hheld hfree
        rw [hfree] at hheld
        cases hheld
  · rw [after_owner_of_notMem hdown]
    have hnot : (key, press) ∉ frame.downs := fun hmem =>
      hdown (List.mem_map.mpr ⟨_, hmem, rfl⟩)
    by_cases hup : key ∈ frame.ups.map Prod.fst <;> simp [hup, hnot]

/-- A fresh identifier lies between the counters before and after its frame. -/
theorem Admits.press_bounds (h : ledger.Admits frame) (hdown : (key, press) ∈ frame.downs) :
    ledger.next ≤ press ∧ press < (ledger.after frame).next := by
  have hmem : press ∈ frame.downs.map Prod.snd := List.mem_map.mpr ⟨_, hdown, rfl⟩
  rw [h.downs_fresh, List.mem_range'_1] at hmem
  exact hmem

omit [DecidableEq κ] in
/-- Two presses of a frame with one identifier are the same press. -/
theorem Admits.downs_injective (h : ledger.Admits frame) {other : κ}
    (hkey : (key, press) ∈ frame.downs) (hother : (other, press) ∈ frame.downs) : key = other := by
  have hnodup : (frame.downs.map Prod.snd).Nodup := by
    rw [h.downs_fresh]
    exact List.nodup_range'
  have heq := List.inj_on_of_nodup_map hnodup hkey hother rfl
  exact congrArg Prod.fst heq

/-- Holding presses carry used identifiers. -/
theorem Coherent.owner_lt (h : Coherent frames)
    (hheld : (ofFrames frames).owner key = some press) : press < (ofFrames frames).next := by
  induction frames using List.reverseRecOn with
  | nil => cases hheld
  | append_singleton frames frame ih =>
    obtain ⟨hframes, hframe⟩ := coherent_concat.mp h
    rw [ofFrames_concat] at hheld ⊢
    rcases (after_owner_eq_some hframe).mp hheld with hdown | ⟨-, hbefore⟩
    · exact (hframe.press_bounds hdown).2
    · exact Nat.lt_of_lt_of_le (ih hframes hbefore) (Nat.le_add_right _ _)

/-- No press holds two keys. -/
theorem Coherent.owner_injective (h : Coherent frames) {other : κ}
    (hkey : (ofFrames frames).owner key = some press)
    (hother : (ofFrames frames).owner other = some press) : key = other := by
  induction frames using List.reverseRecOn with
  | nil => cases hkey
  | append_singleton frames frame ih =>
    obtain ⟨hframes, hframe⟩ := coherent_concat.mp h
    rw [ofFrames_concat] at hkey hother
    rcases (after_owner_eq_some hframe).mp hkey with hdown | ⟨-, hbefore⟩ <;>
      rcases (after_owner_eq_some hframe).mp hother with hdown' | ⟨-, hbefore'⟩
    · exact hframe.downs_injective hdown hdown'
    · have hlt := hframes.owner_lt hbefore'
      have hle := (hframe.press_bounds hdown).1
      omega
    · have hlt := hframes.owner_lt hbefore
      have hle := (hframe.press_bounds hdown').1
      omega
    · exact ih hframes hbefore hbefore'

/-- A holding press was made on its own key in an earlier frame. -/
theorem Coherent.owner_pressed (h : Coherent frames)
    (hheld : (ofFrames frames).owner key = some press) :
    ∃ (index : ℕ) (found : PressFrame κ), frames[index]? = some found ∧
      (key, press) ∈ found.downs := by
  induction frames using List.reverseRecOn with
  | nil => cases hheld
  | append_singleton frames frame ih =>
    obtain ⟨hframes, hframe⟩ := coherent_concat.mp h
    rw [ofFrames_concat] at hheld
    rcases (after_owner_eq_some hframe).mp hheld with hdown | ⟨-, hbefore⟩
    · exact ⟨frames.length, frame, by simp, hdown⟩
    · obtain ⟨index, found, hfound, hdown⟩ := ih hframes hbefore
      obtain ⟨hlt, -⟩ := List.getElem?_eq_some_iff.mp hfound
      exact ⟨index, found, by rw [List.getElem?_append_left hlt, hfound], hdown⟩

/-- A release closes a press made on its own key in a strictly earlier frame. -/
theorem Coherent.up_pressed (h : Coherent frames) {index : ℕ}
    (hframe : frames[index]? = some frame) (hup : (key, some press) ∈ frame.ups) :
    ∃ (earlier : ℕ) (found : PressFrame κ), earlier < index ∧
      frames[earlier]? = some found ∧ (key, press) ∈ found.downs := by
  have hgrows : Coherent (frames.take index) := by
    intro i other hother
    have hlt : i < index := by
      have hi := (List.getElem?_eq_some_iff.mp hother).1
      simp at hi
      omega
    rw [List.getElem?_take_of_lt hlt] at hother
    rw [List.take_take, min_eq_left hlt.le]
    exact h i other hother
  have howner := (h index frame hframe).ups_owner _ hup
  obtain ⟨earlier, found, hfound, hdown⟩ := hgrows.owner_pressed howner.symm
  have hlt := (List.getElem?_eq_some_iff.mp hfound).1
  simp only [List.length_take] at hlt
  rw [List.getElem?_take_of_lt (by omega)] at hfound
  exact ⟨earlier, found, by omega, hfound, hdown⟩

/-- Identifiers are never taken back. -/
theorem ofFrames_next_mono (first second : List (PressFrame κ)) :
    (ofFrames first).next ≤ (ofFrames (first ++ second)).next := by
  induction second using List.reverseRecOn with
  | nil => rw [List.append_nil]
  | append_singleton second frame ih =>
    rw [← List.append_assoc, ofFrames_concat]
    exact ih.trans (Nat.le_add_right _ _)

/-- An identifier is pressed in one frame and on one key only. -/
theorem Coherent.down_unique (h : Coherent frames) {i j : ℕ} {found : PressFrame κ} {other : κ}
    (hframe : frames[i]? = some frame) (hfound : frames[j]? = some found)
    (hkey : (key, press) ∈ frame.downs) (hother : (other, press) ∈ found.downs) :
    i = j ∧ key = other := by
  have hordered : ∀ {i j : ℕ} {first second : PressFrame κ}, frames[i]? = some first →
      frames[j]? = some second → ∀ {a b : κ}, (a, press) ∈ first.downs →
      (b, press) ∈ second.downs → ¬i < j := by
    intro i j first second hfirst hsecond a b ha hb hlt
    have hbefore := ((h i first hfirst).press_bounds ha).2
    have hafter := ((h j second hsecond).press_bounds hb).1
    have htake : frames.take (i + 1) = frames.take i ++ [first] := by
      rw [List.take_add_one, hfirst]
      rfl
    have hsplit : frames.take j = frames.take (i + 1) ++ (frames.take j).drop (i + 1) := by
      have hgrows := List.take_append_drop (i + 1) (frames.take j)
      rw [List.take_take, min_eq_left (by omega)] at hgrows
      exact hgrows.symm
    have hmono := ofFrames_next_mono (frames.take (i + 1)) ((frames.take j).drop (i + 1))
    rw [← hsplit, htake, ofFrames_concat] at hmono
    omega
  have heq : i = j := by
    have hij := hordered hframe hfound hkey hother
    have hji := hordered hfound hframe hother hkey
    omega
  subst heq
  rw [hframe, Option.some.injEq] at hfound
  subst hfound
  exact ⟨rfl, (h i frame hframe).downs_injective hkey hother⟩

/-- The identifiers pressed over a stream, in order. -/
def downIds (frames : List (PressFrame κ)) : List ℕ :=
  frames.flatMap fun frame => frame.downs.map Prod.snd

/-- The identifiers released over a stream, in order. -/
def upIds (frames : List (PressFrame κ)) : List ℕ :=
  frames.flatMap fun frame => frame.ups.filterMap Prod.snd

/-- A coherent stream presses exactly the used identifiers, in order. -/
theorem Coherent.downIds_eq (h : Coherent frames) :
    downIds frames = List.range (ofFrames frames).next := by
  induction frames using List.reverseRecOn with
  | nil => rfl
  | append_singleton frames frame ih =>
    obtain ⟨hframes, hframe⟩ := coherent_concat.mp h
    have hih := ih hframes
    rw [downIds] at hih
    rw [downIds, List.flatMap_append, hih, ofFrames_concat]
    simp only [List.flatMap_cons, List.flatMap_nil, List.append_nil, hframe.downs_fresh]
    rw [List.range_eq_range', List.range_eq_range', after]
    have hrange := @List.range'_append_1 0 (ofFrames frames).next frame.downs.length
    rwa [Nat.zero_add] at hrange

omit [DecidableEq κ] in
/-- A frame releases the holding presses of its released keys. -/
theorem Admits.upIds_eq (h : ledger.Admits frame) :
    frame.ups.filterMap Prod.snd = (frame.ups.map Prod.fst).filterMap ledger.owner := by
  rw [List.filterMap_map]
  exact List.filterMap_congr fun up hup => h.ups_owner up hup

/-- A coherent stream releases exactly the used identifiers that no longer hold a key. -/
theorem Coherent.mem_upIds (h : Coherent frames) :
    press ∈ upIds frames ↔
      press < (ofFrames frames).next ∧ ∀ key, (ofFrames frames).owner key ≠ some press := by
  induction frames using List.reverseRecOn with
  | nil => simp [upIds, ofFrames, empty]
  | append_singleton frames frame ih =>
    obtain ⟨hframes, hframe⟩ := coherent_concat.mp h
    have hbound : press ∈ frame.downs.map Prod.snd → (ofFrames frames).next ≤ press := by
      rw [hframe.downs_fresh, List.mem_range'_1]
      exact And.left
    have hsplit : press ∈ upIds (frames ++ [frame]) ↔ press ∈ upIds frames ∨
        ∃ key ∈ frame.ups.map Prod.fst, (ofFrames frames).owner key = some press := by
      rw [upIds, List.flatMap_append, List.mem_append, List.flatMap_singleton, hframe.upIds_eq,
        List.mem_filterMap]
      rfl
    rw [hsplit, ih hframes, ofFrames_concat]
    constructor
    · rintro (⟨hlt, hfree⟩ | ⟨key, hup, hheld⟩)
      · refine ⟨Nat.lt_of_lt_of_le hlt (Nat.le_add_right _ _), fun key hafter => ?_⟩
        rcases (after_owner_eq_some hframe).mp hafter with hdown | ⟨-, hbefore⟩
        · exact absurd (hframe.press_bounds hdown).1 (by omega)
        · exact hfree key hbefore
      · have hlt := hframes.owner_lt hheld
        refine ⟨Nat.lt_of_lt_of_le hlt (Nat.le_add_right _ _), fun other hafter => ?_⟩
        rcases (after_owner_eq_some hframe).mp hafter with hdown | ⟨hkept, hbefore⟩
        · exact absurd (hframe.press_bounds hdown).1 (by omega)
        · exact hkept (hframes.owner_injective hheld hbefore ▸ hup)
    · rintro ⟨hlt, hfree⟩
      have hold : press < (ofFrames frames).next := by
        by_contra hnew
        have hfresh : press ∈ frame.downs.map Prod.snd := by
          rw [hframe.downs_fresh, List.mem_range'_1]
          exact ⟨not_lt.mp hnew, hlt⟩
        obtain ⟨⟨key, found⟩, hdown, rfl⟩ := List.mem_map.mp hfresh
        exact hfree key (after_owner_of_mem hframe hdown)
      by_cases hheld : ∃ key, (ofFrames frames).owner key = some press
      · obtain ⟨key, hheld⟩ := hheld
        refine Or.inr ⟨key, ?_, hheld⟩
        by_contra hkept
        exact hfree key ((after_owner_eq_some hframe).mpr (Or.inr ⟨hkept, hheld⟩))
      · exact Or.inl ⟨hold, fun key hkey => hheld ⟨key, hkey⟩⟩

/-- A coherent stream releases no identifier twice. -/
theorem Coherent.upIds_nodup (h : Coherent frames) : (upIds frames).Nodup := by
  induction frames using List.reverseRecOn with
  | nil => exact List.nodup_nil
  | append_singleton frames frame ih =>
    obtain ⟨hframes, hframe⟩ := coherent_concat.mp h
    have hnew : (frame.ups.filterMap Prod.snd).Nodup := by
      rw [hframe.upIds_eq]
      exact hframe.ups_nodup.filterMap fun _ _ _ hkey hother =>
        hframes.owner_injective hkey hother
    rw [upIds, List.flatMap_append, List.flatMap_singleton]
    refine List.nodup_append'.mpr ⟨ih hframes, hnew, fun press hold hpress => ?_⟩
    rw [hframe.upIds_eq, List.mem_filterMap] at hpress
    obtain ⟨key, -, hheld⟩ := hpress
    exact (hframes.mem_upIds.mp hold).2 key hheld

/-- A coherent stream that holds no key at its end releases every identifier exactly once. -/
theorem Coherent.upIds_perm (h : Coherent frames)
    (hclosed : ∀ key, (ofFrames frames).owner key = none) :
    (upIds frames).Perm (List.range (ofFrames frames).next) := by
  refine (List.perm_ext_iff_of_nodup h.upIds_nodup List.nodup_range).mpr fun press => ?_
  rw [h.mem_upIds, List.mem_range]
  simp [hclosed]

/-- A press that holds its key held it from the frame after its own. -/
theorem Coherent.owner_take (h : Coherent frames) {pressed earlier later : ℕ}
    (hpressed : frames[pressed]? = some frame) (hdown : (key, press) ∈ frame.downs)
    (hearlier : pressed < earlier) (hle : earlier ≤ later)
    (hheld : (ofFrames (frames.take later)).owner key = some press) :
    (ofFrames (frames.take earlier)).owner key = some press := by
  induction later, hle using Nat.le_induction with
  | base => exact hheld
  | succ later hle ih =>
    apply ih
    cases hnext : frames[later]? with
    | none =>
      have hlength := List.getElem?_eq_none_iff.mp hnext
      rwa [List.take_of_length_le (by omega), ← List.take_of_length_le hlength] at hheld
    | some found =>
      rw [List.take_add_one, hnext, Option.toList_some, ofFrames_concat] at hheld
      rcases (after_owner_eq_some (h later found hnext)).mp hheld with hagain | ⟨-, hbefore⟩
      · have hsame := (h.down_unique hpressed hnext hdown hagain).1
        omega
      · exact hbefore

/-- A press holds its key until the frame that releases it. -/
theorem Coherent.owner_between (h : Coherent frames) {pressed released index : ℕ}
    {release : PressFrame κ} (hpressed : frames[pressed]? = some frame)
    (hdown : (key, press) ∈ frame.downs) (hreleased : frames[released]? = some release)
    (hup : (key, some press) ∈ release.ups) (hlt : pressed < index) (hle : index ≤ released) :
    (ofFrames (frames.take index)).owner key = some press :=
  h.owner_take hpressed hdown hlt hle ((h released release hreleased).ups_owner _ hup).symm

end PressLedger

end SkyAutoPlayer.Foundation
