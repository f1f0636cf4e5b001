import SkyAutoPlayer.Foundation.CommonSubsequence
import SkyAutoPlayer.Foundation.NearestBinary

/-!
# The score of two texts

The fuzzy search compares two texts by the length of a longest common subsequence of their
characters. The code keeps two rows of the table of all prefixes and swaps them after each character
of the first text. The score is computed in floating point, so it is exact only for texts whose
lengths have few enough digits.
-/

namespace SkyAutoPlayer.AppCore

open Foundation

/-- The value of a row at a character of the second text, from the row before. -/
def lcsCell (leftChar : Char) (previous current : List ℕ) (entry : Char × ℕ) : List ℕ :=
  current.set (entry.2 + 1)
    (if leftChar = entry.1 then previous.getD entry.2 0 + 1
    else max (previous.getD (entry.2 + 1) 0) (current.getD entry.2 0))

/-- The rows after a character of the first text: they are swapped, and the later one is cleared. -/
def lcsRow (right : List Char) (rows : List ℕ × List ℕ) (leftChar : Char) : List ℕ × List ℕ :=
  (right.zipIdx.foldl (lcsCell leftChar rows.1) rows.2, rows.1.map fun _ => 0)

/-- The length of a longest common subsequence, by the two rows of the table. -/
def lcsLength (left right : List Char) : ℕ :=
  let empty := List.replicate (right.length + 1) 0
  (left.foldl (lcsRow right) (empty, empty)).1.getD right.length 0

/-- A number in double precision, of which every value here is in the normal range. -/
def f64 (q : ℚ) : ℚ := toNearest 53 q

/-- The score of two texts in percent. -/
def indelRatio (left right : List Char) : ℚ :=
  let lengthSum := left.length + right.length
  if lengthSum = 0 then 100
  else f64 (f64 (200 * f64 (lcsLength left right)) / f64 lengthSum)

/-- A row of the table for a prefix of the first text. -/
structure PrefixRow (done right : List Char) (row : List ℕ) : Prop where
  length : row.length = right.length + 1
  cells : ∀ index ≤ right.length, LongestCommon done (right.take index) (row.getD index 0)

section Rows

variable {done right : List Char} {previous current : List ℕ} {leftChar : Char}

/-- The row before the first character. -/
theorem prefixRow_nil (right : List Char) :
    PrefixRow [] right (List.replicate (right.length + 1) 0) := by
  constructor
  · exact List.length_replicate
  · intro index hindex
    have hzero : (List.replicate (right.length + 1) 0).getD index 0 = 0 := by
      simp only [List.getD_eq_getElem?_getD, List.getElem?_replicate]
      split <;> rfl
    rw [hzero]
    exact LongestCommon.nil_left _

/-- The cell that is written holds the value, and every other one what it held. -/
theorem getD_set (row : List ℕ) (place value index : ℕ) (hplace : place < row.length) :
    (row.set place value).getD index 0 = if place = index then value else row.getD index 0 := by
  rw [List.getD_eq_getElem?_getD, List.getD_eq_getElem?_getD, List.getElem?_set]
  split_ifs <;> rfl

/-- The cells of a row are right from the first on, when those of the row before are. -/
theorem cells_foldl_lcsCell (hprevious : PrefixRow done right previous) (seen rest : List Char)
    (hright : right = seen ++ rest) (hlength : current.length = right.length + 1)
    (hcells : ∀ index ≤ seen.length,
      LongestCommon (done ++ [leftChar]) (right.take index) (current.getD index 0)) :
    PrefixRow (done ++ [leftChar]) right
      ((rest.zipIdx seen.length).foldl (lcsCell leftChar previous) current) := by
  induction rest generalizing seen current with
  | nil =>
    rw [List.append_nil] at hright
    subst hright
    exact ⟨hlength, hcells⟩
  | cons rightChar rest ih =>
    have hseen : right.take seen.length = seen := by rw [hright, List.take_left]
    have hsplit : right = (seen ++ [rightChar]) ++ rest := by
      rw [hright, List.append_assoc, List.singleton_append]
    have hnextLength : (seen ++ [rightChar]).length = seen.length + 1 := by simp
    have hnext : right.take (seen.length + 1) = seen ++ [rightChar] := by
      rw [← hnextLength, hsplit, List.take_left]
    have hroom : seen.length + 1 < right.length + 1 := by
      rw [hright]
      simp
    have habove := hprevious.cells seen.length (by omega)
    have haboveNext := hprevious.cells (seen.length + 1) (by omega)
    have hleft := hcells seen.length (Nat.le_refl _)
    rw [hseen] at habove hleft
    rw [hnext] at haboveNext
    have hcell : LongestCommon (done ++ [leftChar]) (seen ++ [rightChar])
        (if leftChar = rightChar then previous.getD seen.length 0 + 1
        else max (previous.getD (seen.length + 1) 0) (current.getD seen.length 0)) := by
      split_ifs with hsame
      · rw [hsame]
        exact habove.concat_same
      · exact LongestCommon.concat_other hsame haboveNext hleft
    rw [List.zipIdx_cons, List.foldl_cons, ← hnextLength]
    apply ih (seen ++ [rightChar]) hsplit
    · rw [lcsCell, List.length_set]
      exact hlength
    · intro index hindex
      rw [lcsCell, getD_set _ _ _ _ (by omega)]
      rw [hnextLength] at hindex
      by_cases hplace : seen.length + 1 = index
      · rw [if_pos hplace, ← hplace, hnext]
        exact hcell
      · rw [if_neg hplace]
        exact hcells index (by omega)

/-- A character of the first text takes the row of its prefix to the row of the longer prefix. -/
theorem prefixRow_lcsRow {rows : List ℕ × List ℕ} (hprevious : PrefixRow done right rows.1)
    (hclear : rows.2 = List.replicate (right.length + 1) 0) :
    PrefixRow (done ++ [leftChar]) right (lcsRow right rows leftChar).1 ∧
      (lcsRow right rows leftChar).2 = List.replicate (right.length + 1) 0 := by
  constructor
  · apply cells_foldl_lcsCell hprevious [] right rfl
    · rw [hclear, List.length_replicate]
    · intro index hindex
      have hfirst := (prefixRow_nil right).cells 0 (Nat.zero_le _)
      have hzero : index = 0 := Nat.le_zero.mp hindex
      rw [hzero, hclear, List.take_zero]
      exact LongestCommon.nil_right _
  · rw [lcsRow, List.map_const', hprevious.length]

/-- After all characters of a prefix, the first row is the row of the prefix. -/
theorem prefixRow_foldl (rows : List ℕ × List ℕ) (hprevious : PrefixRow done right rows.1)
    (hclear : rows.2 = List.replicate (right.length + 1) 0) (rest : List Char) :
    PrefixRow (done ++ rest) right (rest.foldl (lcsRow right) rows).1 := by
  induction rest generalizing done rows with
  | nil =>
    rw [List.append_nil]
    exact hprevious
  | cons leftChar rest ih =>
    have hnext := @prefixRow_lcsRow done right leftChar rows hprevious hclear
    rw [List.foldl_cons, ← List.singleton_append, ← List.append_assoc]
    exact ih _ hnext.1 hnext.2

end Rows

/-- The two rows compute the length of a longest common subsequence. -/
theorem longestCommon_lcsLength (left right : List Char) :
    LongestCommon left right (lcsLength left right) := by
  have hrow := prefixRow_foldl (_, _) (prefixRow_nil right) rfl left
  have hlast := hrow.cells right.length (Nat.le_refl _)
  rw [List.nil_append, List.take_length] at hlast
  exact hlast

/-- The length does not depend on the order of the texts. -/
theorem lcsLength_comm (left right : List Char) : lcsLength left right = lcsLength right left :=
  (longestCommon_lcsLength left right).unique (longestCommon_lcsLength right left).symm

/-- The score does not depend on the order of the texts. -/
theorem indelRatio_comm (left right : List Char) : indelRatio left right = indelRatio right left := by
  unfold indelRatio
  rw [lcsLength_comm left right, Nat.add_comm left.length right.length]

/-- A text has the length of itself. -/
theorem lcsLength_self (text : List Char) : lcsLength text text = text.length :=
  (longestCommon_lcsLength text text).unique (LongestCommon.self text)

/-- While the lengths have few digits, only the quotient is rounded. -/
theorem indelRatio_of_few {left right : List Char} (hsum : left.length + right.length ≠ 0)
    (hfew : 25 * (left.length + right.length) ≤ 2 ^ 54) :
    indelRatio left right =
      f64 (200 * lcsLength left right / (left.length + right.length : ℕ)) := by
  have hleft := (longestCommon_lcsLength left right).le_left
  have hright := (longestCommon_lcsLength left right).le_right
  have hlength : f64 (lcsLength left right) = lcsLength left right :=
    toNearest_natCast (by omega)
  have hlengths : f64 (left.length + right.length : ℕ) = (left.length + right.length : ℕ) :=
    toNearest_natCast (by omega)
  have hproduct : f64 (200 * lcsLength left right) = 200 * lcsLength left right := by
    apply toNearest_of_hasDigits
    · -- two hundred is twenty-five times eight
      refine ⟨25 * lcsLength left right, 3, by omega, ?_⟩
      push_cast
      ring
    · exact mul_nonneg (by norm_num) (Nat.cast_nonneg _)
  unfold indelRatio
  rw [if_neg hsum, hlength, hproduct, hlengths]

/-- The greatest double below one hundred. -/
theorem hasDigits_below : HasDigits 53 (100 - 2 ^ (-46 : ℤ)) := by
  refine ⟨100 * 2 ^ 46 - 1, -46, by norm_num, ?_⟩
  norm_num

theorem hasDigits_hundred : HasDigits 53 100 :=
  ⟨100, 0, by norm_num, by norm_num⟩

/-- The score of texts that are not too long is at most one hundred, which only equal texts have. -/
theorem indelRatio_le {left right : List Char}
    (hfew : 25 * (left.length + right.length) ≤ 2 ^ 54) :
    indelRatio left right ≤ 100 ∧ (indelRatio left right = 100 ↔ left = right) := by
  have hcommon := longestCommon_lcsLength left right
  have hleft := hcommon.le_left
  have hright := hcommon.le_right
  by_cases hsum : left.length + right.length = 0
  · have hleftNil : left = [] := List.length_eq_zero_iff.mp (by omega)
    have hrightNil : right = [] := List.length_eq_zero_iff.mp (by omega)
    subst hleftNil hrightNil
    exact ⟨le_rfl, iff_of_true rfl rfl⟩
  · rw [indelRatio_of_few hsum hfew]
    have hpos : (0 : ℚ) < (left.length + right.length : ℕ) := by exact_mod_cast Nat.pos_of_ne_zero hsum
    have hnonneg : (0 : ℚ) ≤ 200 * lcsLength left right / (left.length + right.length : ℕ) :=
      div_nonneg (mul_nonneg (by norm_num) (Nat.cast_nonneg _)) (le_of_lt hpos)
    rcases Nat.lt_or_ge (2 * lcsLength left right) (left.length + right.length) with hless | hall
    · -- a character is left over, so that the quotient is below the doubles next to one hundred
      have hle : (200 * lcsLength left right / (left.length + right.length : ℕ) : ℚ) ≤
          100 - 2 ^ (-46 : ℤ) := by
        have hcast : (2 * lcsLength left right + 1 : ℚ) ≤ (left.length + right.length : ℕ) := by
          exact_mod_cast hless
        have hcastFew : (25 * (left.length + right.length : ℕ) : ℚ) ≤ 2 ^ 54 := by
          exact_mod_cast hfew
        rw [div_le_iff₀ hpos]
        norm_num at hcast hcastFew ⊢
        linarith
      have hbelow := toNearest_le (by norm_num) hnonneg hasDigits_below hle
      have hlt : (100 : ℚ) - 2 ^ (-46 : ℤ) < 100 := by norm_num
      have hne : left ≠ right := by
        intro hsame
        subst hsame
        rw [lcsLength_self] at hless
        omega
      exact ⟨le_of_lt (lt_of_le_of_lt hbelow hlt),
        iff_of_false (ne_of_lt (lt_of_le_of_lt hbelow hlt)) hne⟩
    · have hdouble : 2 * lcsLength left right = left.length + right.length := by omega
      have hquotient : (200 * lcsLength left right / (left.length + right.length : ℕ) : ℚ) = 100 := by
        rw [div_eq_iff (ne_of_gt hpos), ← hdouble]
        push_cast
        ring
      have hexact : f64 100 = 100 := toNearest_of_hasDigits hasDigits_hundred (by norm_num)
      rw [hquotient, hexact]
      exact ⟨le_rfl, iff_of_true rfl (hcommon.eq_of_double hdouble)⟩

/-- The rows compute the length of a longest common subsequence, and the score is symmetric. It is at
most one hundred, and one hundred exactly for equal texts, as long as the texts together have at most
`2 ^ 54 / 25` characters. -/
theorem indel_ratio_of_lcs (left right : List Char) :
    LongestCommon left right (lcsLength left right) ∧
      indelRatio left right = indelRatio right left ∧
        (25 * (left.length + right.length) ≤ 2 ^ 54 →
          indelRatio left right ≤ 100 ∧ (indelRatio left right = 100 ↔ left = right)) :=
  ⟨longestCommon_lcsLength left right, indelRatio_comm left right, indelRatio_le⟩

/-- Two short texts with a common character each side of another. -/
theorem indel_ratio_of_short :
    LongestCommon ['s', 'k', 'y'] ['s', 'y'] (lcsLength ['s', 'k', 'y'] ['s', 'y']) ∧
      lcsLength ['s', 'k', 'y'] ['s', 'y'] = 2 ∧ indelRatio ['s', 'k', 'y'] ['s', 'y'] ≤ 100 :=
  have h := indel_ratio_of_lcs ['s', 'k', 'y'] ['s', 'y']
  ⟨h.1, by decide, (h.2.2 (by decide)).1⟩

/-- The product of a long text's length is rounded down, and with it the score of equal texts. -/
theorem long_texts_lose_a_digit :
    ¬∀ left right : List Char, LongestCommon left right (lcsLength left right) ∧
      indelRatio left right = indelRatio right left ∧ indelRatio left right ≤ 100 ∧
        (indelRatio left right = 100 ↔ left = right) := by
  intro h
  have hscore := ((h (List.replicate 360287970189641 'a')
    (List.replicate 360287970189641 'a')).2.2.2).mpr rfl
  have hrounded : f64 (f64 (200 * f64 360287970189641) / f64 720575940379282) =
      100 - 2 ^ (-46 : ℤ) := by decide +kernel
  unfold indelRatio at hscore
  rw [lcsLength_self, List.length_replicate] at hscore
  norm_num at hscore
  rw [hrounded] at hscore
  norm_num at hscore

end SkyAutoPlayer.AppCore
