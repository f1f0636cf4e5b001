import SkyAutoPlayer.NativeAdapters.CalibrationEvidence

/-!
# What is believed of calibration evidence

A reserve is taken from a document only if the quantiles of every required bucket are ordered and of a
size that is believed, and the reserve covers them all. The one document that is not refused with the
default reserve has a shrink whose least quantile is the least word: its magnitude overflows.
-/

namespace SkyAutoPlayer.NativeAdapters

open Foundation

variable {hostMatchesCurrent : JsonObject → Bool} {bucket buckets : JsonObject} {field key : String}

/-- A shrink of a bucket that is believed. -/
def ShrinkBelieved (bucket : JsonObject) (field : String) : Prop :=
  ∃ quantiles, signedQuantiles field bucket = some quantiles ∧ quantiles.IsOrdered ∧
    quantiles.WithinShrink

/-- A call duration of a bucket that is believed. -/
def CallBelieved (bucket : JsonObject) (field : String) : Prop :=
  ∃ quantiles, signedQuantiles field bucket = some quantiles ∧ quantiles.IsOrdered ∧
    ∀ value ∈ quantiles.ordered, 0 ≤ value

/-- A bucket that is believed. -/
def BucketBelieved (buckets : JsonObject) (key : String) : Prop :=
  ∃ bucket, buckets.members key = some bucket ∧
    Publishable (bucket.unsigned "clean_pair_count") bucket ∧
    (∀ field ∈ shrinkQuantiles, ShrinkBelieved bucket field) ∧
    ∀ field ∈ callQuantiles, CallBelieved bucket field

/-- A shrink of a bucket whose least quantile is the least word. -/
def LeastShrink (bucket : JsonObject) (field : String) : Prop :=
  ∃ quantiles, signedQuantiles field bucket = some quantiles ∧ quantiles.IsOrdered ∧
    quantiles.min = -2 ^ 63

/-- A bucket with such a shrink, before which nothing is refused. -/
def BucketLeast (buckets : JsonObject) (key : String) : Prop :=
  ∃ bucket, buckets.members key = some bucket ∧
    Publishable (bucket.unsigned "clean_pair_count") bucket ∧
    FirstBad (ShrinkBelieved bucket) (LeastShrink bucket) shrinkQuantiles

/-- A document with such a bucket, before which nothing is refused. -/
def ReachesLeastShrink (document : JsonValue) : Prop :=
  ∃ root buckets, document.asObject = some root ∧ compatibleHeader root = true ∧
    (root.members "qualification").isSome ∧
    (validHostFingerprint (root.get "host_fingerprint")).isSome ∧
    validProvenance root = true ∧ validSchedulingAids (root.get "scheduling_aids") = true ∧
    requiredListed root = true ∧ root.members "pair_buckets" = some buckets ∧
    bucketsComplete buckets = true ∧
    FirstBad (BucketBelieved buckets) (BucketLeast buckets) calibrationRequiredBuckets

/-! ## One measurement -/

/-- A shrink passes if it is of a size that is believed. -/
theorem checkShrink_eq_ok {value : ℤ} :
    checkShrink value = .ok () ↔ value.natAbs ≤ calibrationMaxShrinkUs := by
  simp only [checkShrink, Except.bind_eq_ok, okOr_eq_ok, failIf_eq_ok, checkedAbs]
  unfold calibrationMaxShrinkUs
  split
  · simp
    omega
  · simp

/-- The program stops at the least word. -/
theorem checkShrink_eq_stops {value : ℤ} : checkShrink value = .error .stops ↔ value = -2 ^ 63 := by
  simp only [checkShrink, Except.bind_eq_error, okOr_eq_ok, okOr_eq_error, failIf_eq_error, checkedAbs]
  split <;> simp_all

/-- The shrinks of a measurement pass if all are of a size that is believed. -/
theorem forM_checkShrink_eq_ok {quantiles : Quantiles ℤ} :
    quantiles.ordered.forM checkShrink = .ok () ↔ quantiles.WithinShrink := by
  rw [Except.forM_eq_ok]
  simp only [checkShrink_eq_ok, Quantiles.WithinShrink]

/-- The program stops at a measurement if its least quantile is the least word. -/
theorem forM_checkShrink_eq_stops {quantiles : Quantiles ℤ} (h : quantiles.IsOrdered) :
    quantiles.ordered.forM checkShrink = .error .stops ↔ quantiles.min = -2 ^ 63 := by
  rw [forM_eq_error (fun _ => checkShrink_eq_ok) fun _ => checkShrink_eq_stops]
  constructor
  · intro hfirst
    obtain ⟨before, value, after, hsplit, hbefore, hvalue⟩ := hfirst
    have hmem : value ∈ quantiles.ordered := by rw [hsplit]; simp
    have hmin := h.min_le value hmem
    cases before with
    | nil =>
      obtain ⟨hhead, -⟩ := List.cons.inj hsplit
      rw [hhead, hvalue]
    | cons head before =>
      -- The least quantile was checked first, and it cannot have passed.
      obtain ⟨hhead, -⟩ := List.cons.inj hsplit
      have hpassed : head.natAbs ≤ calibrationMaxShrinkUs := hbefore head List.mem_cons_self
      rw [← hhead, calibrationMaxShrinkUs] at hpassed
      omega
  · intro hmin
    exact ⟨[], quantiles.min, _, rfl, by simp, hmin⟩

/-- A shrink passes if it is believed. -/
theorem validSignedQuantiles_shrink_eq_ok :
    validSignedQuantiles bucket false field = .ok () ↔ ShrinkBelieved bucket field := by
  simp only [validSignedQuantiles, ShrinkBelieved, Except.bind_eq_ok, okOr_eq_ok, failIf_eq_ok,
    not_not, exists_const, Bool.false_eq_true, if_false, forM_checkShrink_eq_ok]

/-- A call duration passes if it is believed. -/
theorem validSignedQuantiles_call_eq_ok :
    validSignedQuantiles bucket true field = .ok () ↔ CallBelieved bucket field := by
  simp only [validSignedQuantiles, CallBelieved, Except.bind_eq_ok, okOr_eq_ok, failIf_eq_ok,
    not_not, exists_const, if_true, Except.forM_eq_ok, Int.not_lt]

/-- The program stops at a shrink if its least quantile is the least word. -/
theorem validSignedQuantiles_shrink_eq_stops :
    validSignedQuantiles bucket false field = .error .stops ↔ LeastShrink bucket field := by
  simp only [validSignedQuantiles, LeastShrink, Except.bind_eq_error, okOr_eq_ok, okOr_eq_error,
    failIf_eq_ok, failIf_eq_error, not_not, exists_const, Bool.false_eq_true, if_false, reduceCtorEq,
    and_false, false_or]
  apply exists_congr
  intro quantiles
  apply and_congr_right'
  apply and_congr_right
  exact forM_checkShrink_eq_stops

/-- The program stops at no call duration. -/
theorem validSignedQuantiles_call_ne_stops :
    validSignedQuantiles bucket true field ≠ .error .stops := by
  simp only [validSignedQuantiles, ne_eq, Except.bind_eq_error, okOr_eq_ok, okOr_eq_error,
    failIf_eq_ok, failIf_eq_error, not_not, exists_const, if_true, reduceCtorEq, and_false, false_or]
  intro h
  obtain ⟨quantiles, -, -, hstops⟩ := h
  obtain ⟨value, -, hvalue⟩ := exists_of_forM_eq_error hstops
  simp [failIf_eq_error] at hvalue

/-! ## One bucket -/

/-- The counters pass if the bucket is publishable. -/
theorem checkCounters_eq_ok :
    checkCounters bucket = .ok () ↔ Publishable (bucket.unsigned "clean_pair_count") bucket := by
  simp only [checkCounters, Publishable, Except.bind_eq_ok, okOr_eq_ok, failIf_eq_ok, exists_const]
  constructor
  · intro h
    obtain ⟨attempted, hattempted, clean, hclean, rejected, hrejected, hcount, hothers⟩ := h
    push Not at hcount hothers
    obtain ⟨hrange, rfl, rfl⟩ := hcount
    exact ⟨attempted, _, hattempted, hrejected, hclean, hrange.1, hrange.2, rfl, hothers⟩
  · intro h
    obtain ⟨attempted, rejected, hattempted, hrejected, hclean, hlow, hhigh, rfl, hothers⟩ := h
    refine ⟨attempted, hattempted, _, hclean, _, hrejected, ?_, ?_⟩
    · simp [hlow, hhigh]
    · push Not
      exact hothers

/-- The program stops at no counter. -/
theorem checkCounters_ne_stops : checkCounters bucket ≠ .error .stops := by
  simp [checkCounters, Except.bind_eq_error, okOr_eq_error, failIf_eq_error]

/-- The greatest of the quantiles is the field of that name. -/
theorem signed_max_of_signedQuantiles {quantiles : Quantiles ℤ}
    (h : signedQuantiles field bucket = some quantiles) :
    (bucket.members field).bind (JsonObject.signed "max") = some quantiles.max := by
  simp only [signedQuantiles, Quantiles.read, Option.bind_eq_some_iff, Option.bind_eq_bind] at h ⊢
  obtain ⟨values, hvalues, min, -, p50, -, p90, -, p95, -, p99, -, max, hmax, mean, -, hquantiles⟩ := h
  obtain rfl := Option.some.inj hquantiles
  exact ⟨values, hvalues, hmax⟩

/-- A bucket passes if it is believed. -/
theorem checkBucket_eq_ok :
    (∃ bucketMax, checkBucket buckets key = .ok bucketMax) ↔ BucketBelieved buckets key := by
  simp only [checkBucket, BucketBelieved, Except.bind_eq_ok, okOr_eq_ok, checkCounters_eq_ok,
    Except.exists_done, Except.forM_eq_ok, validSignedQuantiles_shrink_eq_ok,
    validSignedQuantiles_call_eq_ok]
  constructor
  · intro h
    obtain ⟨bucketMax, bucket, hbucket, hcounters, hshrinks, hcalls, -⟩ := h
    exact ⟨bucket, hbucket, hcounters, hshrinks, hcalls⟩
  · intro h
    obtain ⟨bucket, hbucket, hcounters, hshrinks, hcalls⟩ := h
    obtain ⟨quantiles, hquantiles, -⟩ := hshrinks "sendinput_shrink_us" (by decide)
    exact ⟨quantiles.max, bucket, hbucket, hcounters, hshrinks, hcalls,
      signed_max_of_signedQuantiles hquantiles⟩

/-- The program stops at a bucket with a least shrink. -/
theorem checkBucket_eq_stops :
    checkBucket buckets key = .error .stops ↔ BucketLeast buckets key := by
  simp only [checkBucket, BucketLeast, Except.bind_eq_error, Except.exists_done, okOr_eq_ok,
    okOr_eq_error, checkCounters_eq_ok, checkCounters_ne_stops, reduceCtorEq, and_false, false_or,
    exists_false, or_false]
  apply exists_congr
  intro bucket
  apply and_congr_right'
  apply and_congr_right'
  rw [forM_eq_error (fun _ => validSignedQuantiles_shrink_eq_ok)
    fun _ => validSignedQuantiles_shrink_eq_stops]
  have hcalls : callQuantiles.forM (validSignedQuantiles bucket true) ≠ .error .stops := by
    intro hstops
    obtain ⟨field, -, hfield⟩ := exists_of_forM_eq_error hstops
    exact validSignedQuantiles_call_ne_stops hfield
  rw [or_iff_left fun h => hcalls h.2]

/-- The greatest shrink of the calls of a bucket is of a size that is believed. -/
theorem bucketMax_le {bucketMax : ℤ} (h : checkBucket buckets key = .ok bucketMax) :
    bucketMax ≤ calibrationMaxShrinkUs := by
  simp only [checkBucket, Except.bind_eq_ok, Except.exists_done, okOr_eq_ok, Except.forM_eq_ok,
    validSignedQuantiles_shrink_eq_ok] at h
  obtain ⟨bucket, -, -, hshrinks, -, hmax⟩ := h
  obtain ⟨quantiles, hquantiles, -, hwithin⟩ := hshrinks "sendinput_shrink_us" (by decide)
  rw [signed_max_of_signedQuantiles hquantiles] at hmax
  obtain rfl := Option.some.inj hmax
  have hsize := hwithin quantiles.max (by simp [Quantiles.ordered])
  omega

/-! ## All buckets -/

/-- The greatest shrink grows from bucket to bucket. -/
theorem le_raiseWorst {worst : ℤ × String} {bucketMax : ℤ} :
    worst.1 ≤ (raiseWorst worst key bucketMax).1 ∧ bucketMax ≤ (raiseWorst worst key bucketMax).1 := by
  unfold raiseWorst
  split <;> omega

/-- The greatest shrink is none that no bucket has. -/
theorem raiseWorst_le {worst : ℤ × String} {bucketMax bound : ℤ} (hworst : worst.1 ≤ bound)
    (hmax : bucketMax ≤ bound) : (raiseWorst worst key bucketMax).1 ≤ bound := by
  unfold raiseWorst
  split
  · exact hmax
  · exact hworst

/-- The greatest shrink is at least that of every bucket, and at least what the loop began with. -/
theorem worst_of_foldlM {keys : List String} {start worst : ℤ × String}
    (h : keys.foldlM (fun worst key => raiseWorst worst key <$> checkBucket buckets key) start =
      .ok worst) :
    start.1 ≤ worst.1 ∧
      ∀ key ∈ keys, ∃ bucketMax, checkBucket buckets key = .ok bucketMax ∧ bucketMax ≤ worst.1 := by
  induction keys generalizing start with
  | nil =>
    obtain rfl := Except.pure_eq_ok.mp h
    simp
  | cons key rest ih =>
    rw [List.foldlM_cons, Except.bind_eq_ok] at h
    obtain ⟨next, hnext, hrest⟩ := h
    obtain ⟨bucketMax, hbucket, rfl⟩ := Except.map_eq_ok.mp hnext
    obtain ⟨hle, hall⟩ := ih hrest
    have hgrows := @le_raiseWorst key start bucketMax
    constructor
    · omega
    · exact List.forall_mem_cons.mpr ⟨⟨bucketMax, hbucket, by omega⟩, hall⟩

/-- What the buckets of a document give. -/
theorem validPairBuckets_eq_ok {root : JsonObject} {worst : ℤ × String}
    (h : validPairBuckets root = .ok worst) : 0 ≤ worst.1 ∧ worst.1 ≤ calibrationMaxShrinkUs ∧
      ∃ buckets, root.members "pair_buckets" = some buckets ∧
        ∀ key ∈ calibrationRequiredBuckets,
          ∃ bucketMax, checkBucket buckets key = .ok bucketMax ∧ bucketMax ≤ worst.1 := by
  simp only [validPairBuckets, Except.bind_eq_ok, exists_const, okOr_eq_ok, failIf_eq_ok,
    Except.pure_eq_ok] at h
  obtain ⟨-, buckets, hbuckets, -, found, hfound, rfl⟩ := h
  have hbounds := worst_of_foldlM hfound
  have hsize : found.1 ≤ calibrationMaxShrinkUs := by
    have hkeeps := @foldlM_keeps _ _ _ _ calibrationRequiredBuckets (checkBucket buckets) raiseWorst
      (0, "1/hot") found (fun worst => worst.1 ≤ (calibrationMaxShrinkUs : ℤ))
    apply hkeeps _ (by decide) hfound
    intro state key hkey bucketMax hle hmax
    exact raiseWorst_le hle (bucketMax_le hmax)
  have hmax : max found.1 0 = found.1 := Int.max_eq_left hbounds.1
  rw [hmax]
  exact ⟨hbounds.1, hsize, buckets, hbuckets, hbounds.2⟩

/-- The program stops at the buckets of a document where it reaches a least shrink. -/
theorem validPairBuckets_eq_stops {root : JsonObject} :
    validPairBuckets root = .error .stops ↔
      requiredListed root = true ∧ ∃ buckets, root.members "pair_buckets" = some buckets ∧
        bucketsComplete buckets = true ∧
        FirstBad (BucketBelieved buckets) (BucketLeast buckets) calibrationRequiredBuckets := by
  simp only [validPairBuckets, Except.bind_eq_error, exists_const, okOr_eq_ok, okOr_eq_error,
    failIf_eq_ok, failIf_eq_error, reduceCtorEq, and_false, false_or, or_false, Bool.not_eq_false, pure, Except.pure,
    foldlM_eq_error (fun _ => checkBucket_eq_ok) (fun _ => checkBucket_eq_stops)]

/-! ## The document -/

/-- A shrink of a believed size gives a reserve, or leaves the envelope. -/
theorem qualificationValues_eq_some {globalTransport : ℤ}
    (h : globalTransport ≤ calibrationMaxShrinkUs) :
    qualificationValues globalTransport =
      some (if 2000 < globalTransport.toNat + 100
        then ("out_of_envelope", globalTransport.toNat + 100, none)
        else ("valid", globalTransport.toNat + 100, some (max 300 (globalTransport.toNat + 100)))) := by
  unfold calibrationMaxShrinkUs at h
  have hfits : checkedAdd 64 globalTransport.toNat 100 = some (globalTransport.toNat + 100) := by
    rw [checkedAdd_eq_some]
    exact ⟨by omega, rfl⟩
  rw [qualificationValues, hfits]
  rfl

/-- The status of an admitted qualification is the one that follows from its evidence. -/
theorem status_of_qualificationMatches {root qualification : JsonObject} {values : QualificationValues}
    (h : qualificationMatches root qualification values = true) :
    values.status = some values.expectedStatus := by
  unfold qualificationMatches at h
  exact (of_decide_eq_true h).2.2.2.2.2.2.2.2.1

/-- A qualification that follows from its evidence has a reserve if it is not out of the envelope. -/
theorem qualifiedMargin_ne_stops {root qualification host : JsonObject} {worst : ℤ × String}
    (h : worst.1 ≤ calibrationMaxShrinkUs) :
    qualifiedMargin hostMatchesCurrent root qualification host worst ≠ .error .stops := by
  intro hstops
  simp only [qualifiedMargin, Except.bind_eq_error, okOr_eq_ok, okOr_eq_error, failIf_eq_ok,
    failIf_eq_error, reduceCtorEq, and_false, false_or, or_false, exists_false, exists_const, pure,
    Except.pure, and_true] at hstops
  rw [qualificationValues_eq_some h] at hstops
  cases hstops with
  | inl habsent => cases habsent
  | inr hrest =>
    obtain ⟨values, hvalues, -, henvelope, hagrees, habsent⟩ := hrest
    push Not at hagrees
    have hstatus := status_of_qualificationMatches ((Bool.not_eq_false _).mp hagrees.1)
    obtain rfl := Option.some.inj hvalues
    split at habsent
    case isTrue hout =>
      rw [if_pos hout] at hstatus
      exact henvelope hstatus
    case isFalse => cases habsent

/-- The program stops at a document where it reaches a least shrink. -/
theorem readMargin_eq_stops {document : JsonValue} :
    readMargin hostMatchesCurrent document = .error .stops ↔ ReachesLeastShrink document := by
  simp only [readMargin, ReachesLeastShrink, Except.bind_eq_error, okOr_eq_ok, okOr_eq_error,
    failIf_eq_ok, failIf_eq_error, reduceCtorEq, and_false, false_or, exists_const,
    Bool.not_eq_false, Bool.and_eq_true, validPairBuckets_eq_stops]
  constructor
  · intro h
    obtain ⟨root, hroot, hheader, qualification, hqualification, host, hhost, hchecks, hstops⟩ := h
    cases hstops with
    | inl hbuckets =>
      obtain ⟨hlisted, buckets, hbuckets⟩ := hbuckets
      exact ⟨root, buckets, hroot, hheader, Option.isSome_of_mem hqualification,
        Option.isSome_of_mem hhost, hchecks.1, hchecks.2, hlisted, hbuckets⟩
    | inr hmargin =>
      obtain ⟨worst, hworst, hmargin⟩ := hmargin
      have hsize := (validPairBuckets_eq_ok hworst).2.1
      exact absurd hmargin (qualifiedMargin_ne_stops hsize)
  · intro h
    obtain ⟨root, buckets, hroot, hheader, hqualification, hhost, hprovenance, haids, hlisted,
      hbuckets⟩ := h
    obtain ⟨qualification, hqualification⟩ := Option.isSome_iff_exists.mp hqualification
    obtain ⟨host, hhost⟩ := Option.isSome_iff_exists.mp hhost
    exact ⟨root, hroot, hheader, qualification, hqualification, host, hhost, ⟨hprovenance, haids⟩,
      .inl ⟨hlisted, buckets, hbuckets⟩⟩

/-- A reserve is at least the floor, at most the ceiling and greater than the worst shrink by the
guard. -/
theorem qualifiedMargin_eq_ok {root qualification host : JsonObject} {worst : ℤ × String} {margin : ℕ}
    (hnonneg : 0 ≤ worst.1) (hsize : worst.1 ≤ calibrationMaxShrinkUs)
    (h : qualifiedMargin hostMatchesCurrent root qualification host worst = .ok margin) :
    300 ≤ margin ∧ margin ≤ 2000 ∧ worst.1 + 100 ≤ margin := by
  simp only [qualifiedMargin, Except.bind_eq_ok, okOr_eq_ok, failIf_eq_ok, exists_const,
    Except.pure_eq_ok, qualificationValues_eq_some hsize, Option.some.injEq, exists_eq_left'] at h
  obtain ⟨-, -, -, applied, happlied, -, rfl⟩ := h
  split at happlied
  case isTrue => cases happlied
  case isFalse hceiling =>
    obtain rfl := Option.some.inj happlied
    omega

/-- The quantiles of a bucket are believed, and a reserve covers its calls with the guard. -/
def BucketCovered (buckets : JsonObject) (reserveUs : ℕ) (key : String) : Prop :=
  ∃ bucket, buckets.members key = some bucket ∧
    (∀ field ∈ shrinkQuantiles, ShrinkBelieved bucket field) ∧
    (∀ field ∈ callQuantiles, CallBelieved bucket field) ∧
    ∃ quantiles, signedQuantiles "sendinput_shrink_us" bucket = some quantiles ∧
      quantiles.max + 100 ≤ reserveUs

/-- A document gives a reserve. It is a qualified one that covers every required bucket, or it is the
default one. -/
def CheckedSafely (hostMatchesCurrent : JsonObject → Bool) (document : JsonValue) : Prop :=
  ∃ resolution, loadCalibrationResolution hostMatchesCurrent (.document document) = some resolution ∧
    (resolution.qualified = true →
      300 ≤ resolution.transportReserveUs ∧ resolution.transportReserveUs ≤ 2000 ∧
        ∃ root buckets, document.asObject = some root ∧ root.members "pair_buckets" = some buckets ∧
          ∀ key ∈ calibrationRequiredBuckets,
            BucketCovered buckets resolution.transportReserveUs key) ∧
    (resolution.qualified = false → resolution.transportReserveUs = defaultTransportMarginUs)

/-- A bucket that passes is covered by what is at least its greatest shrink and the guard. -/
theorem bucketCovered_of_checkBucket {bucketMax : ℤ} {reserveUs : ℕ}
    (h : checkBucket buckets key = .ok bucketMax) (hreserve : bucketMax + 100 ≤ reserveUs) :
    BucketCovered buckets reserveUs key := by
  simp only [checkBucket, Except.bind_eq_ok, Except.exists_done, okOr_eq_ok, Except.forM_eq_ok,
    validSignedQuantiles_shrink_eq_ok, validSignedQuantiles_call_eq_ok] at h
  obtain ⟨bucket, hbucket, -, hshrinks, hcalls, hmax⟩ := h
  obtain ⟨quantiles, hquantiles, -⟩ := hshrinks "sendinput_shrink_us" (by decide)
  rw [signed_max_of_signedQuantiles hquantiles] at hmax
  obtain rfl := Option.some.inj hmax
  exact ⟨bucket, hbucket, hshrinks, hcalls, quantiles, hquantiles, hreserve⟩

/-- The reserve of a qualified document covers every required bucket. -/
theorem readMargin_eq_ok {document : JsonValue} {margin : ℕ}
    (h : readMargin hostMatchesCurrent document = .ok margin) : 300 ≤ margin ∧ margin ≤ 2000 ∧
      ∃ root buckets, document.asObject = some root ∧ root.members "pair_buckets" = some buckets ∧
        ∀ key ∈ calibrationRequiredBuckets, BucketCovered buckets margin key := by
  simp only [readMargin, Except.bind_eq_ok, okOr_eq_ok, failIf_eq_ok, exists_const] at h
  obtain ⟨root, hroot, -, qualification, -, host, -, -, worst, hworst, hmargin⟩ := h
  obtain ⟨hnonneg, hsize, buckets, hbuckets, hall⟩ := validPairBuckets_eq_ok hworst
  obtain ⟨hfloor, hceiling, hguard⟩ := qualifiedMargin_eq_ok hnonneg hsize hmargin
  refine ⟨hfloor, hceiling, root, buckets, hroot, hbuckets, ?_⟩
  intro key hkey
  obtain ⟨bucketMax, hbucket, hle⟩ := hall key hkey
  apply bucketCovered_of_checkBucket hbucket
  omega

/-- A document is checked safely unless it reaches a shrink whose least quantile is the least word. -/
theorem calibration_checked_safely (hostMatchesCurrent : JsonObject → Bool) (document : JsonValue) :
    CheckedSafely hostMatchesCurrent document ↔ ¬ReachesLeastShrink document := by
  rw [← @readMargin_eq_stops hostMatchesCurrent]
  cases hread : readMargin hostMatchesCurrent document with
  | ok margin =>
    simp only [reduceCtorEq, not_false_eq_true, iff_true, CheckedSafely, loadCalibrationResolution, hread]
    exact ⟨_, rfl, fun _ => readMargin_eq_ok hread, nofun⟩
  | error failure =>
    cases failure with
    | stops =>
      simp only [not_true_eq_false, iff_false, CheckedSafely, loadCalibrationResolution, hread]
      intro h
      obtain ⟨resolution, habsent, -⟩ := h
      cases habsent
    | fallback source =>
      simp only [Except.error.injEq, reduceCtorEq, not_false_eq_true, iff_true, CheckedSafely,
        loadCalibrationResolution, hread]
      exact ⟨_, rfl, nofun, fun _ => rfl⟩

/-! ## A document with the least word -/

/-- Quantiles between two words. -/
def sampleQuantiles (least greatest : ℤ) : JsonValue := .object
  [("min", .ofInt least), ("p50", .ofInt greatest), ("p90", .ofInt greatest),
    ("p95", .ofInt greatest), ("p99", .ofInt greatest), ("max", .ofInt greatest),
    ("mean", .ofInt greatest)]

/-- A bucket of a hundred clean samples whose shrinks lie between two words. -/
def sampleBucket (least greatest : ℤ) (longestCall : JsonValue) : JsonValue := .object
  [("attempted", .ofNat 100), ("clean_pair_count", .ofNat 100), ("rejected", .ofNat 0),
    ("anomaly_count", .ofNat 0), ("class_mismatch_count", .ofNat 0), ("timeout_count", .ofNat 0),
    ("partial_send", .ofNat 0), ("pair_sender_hold_shrink_us", sampleQuantiles least greatest),
    ("scheduler_shrink_us", sampleQuantiles least greatest),
    ("sendinput_shrink_us", sampleQuantiles least greatest),
    ("down_call_duration_us", longestCall), ("up_call_duration_us", sampleQuantiles 5 9)]

/-- What a document says about its host, its build and the scheduling aids. -/
def sampleSurroundings : JsonObject :=
  [("host_fingerprint", .object
      [("host_fingerprint_version", .ofNat 2), ("qpc_frequency_hz", .ofNat 10000000),
        ("win32_build", .string "10.0.26100"), ("processor_architecture", .string "x64"),
        ("cpu_vendor", .string "GenuineIntel"), ("cpu_family", .ofNat 6), ("cpu_model", .ofNat 154),
        ("cpu_stepping", .ofNat 3), ("logical_processor_count", .ofNat 16),
        ("processor_group_count", .ofNat 1), ("cpu_set_efficiency_classes", .array [.ofNat 0])]),
    ("source_git_sha", .string "4fc1d2"), ("native_build_id", .string "4fc1d2"),
    ("native_source_fingerprint", .string "91ab"), ("rustc_version", .string "rustc 1.90.0"),
    ("dirty_worktree", .bool false),
    ("scheduling_aids", .object
      [("mmcss_acquired", .string "mmcss:Games"), ("mmcss_active", .bool true),
        ("power_throttling_active", .bool true),
        ("waiter_mode", .string "event+high_resolution_timer")]),
    ("evidence_kind", .string calibrationEvidenceKind), ("measurement_protocol_version", .ofNat 10)]

/-- A cache whose first shrink goes down to the least word. -/
def leastShrinkCache : JsonValue := .object <|
  ([("version", .ofNat 8), ("artifact_schema_version", .ofNat 11),
    ("native_calibration_version", .ofNat 15), ("source", .string "device_cache"),
    ("source_formula_version", .ofNat 6), ("qualification", .object []),
    ("required_buckets", .array (calibrationRequiredBuckets.map .string)),
    ("pair_buckets", .object (calibrationRequiredBuckets.map fun key =>
      (key, sampleBucket (-2 ^ 63) 40 (sampleQuantiles 5 9))))] : JsonObject) ++ sampleSurroundings

/-- The program stops at a cache whose first shrink goes down to the least word. -/
theorem least_shrink_stops :
    ¬∀ hostMatchesCurrent document, CheckedSafely hostMatchesCurrent document := by
  intro h
  obtain ⟨resolution, hloaded, -⟩ := h (fun _ => true) leastShrinkCache
  have hstops : loadCalibrationResolution (fun _ => true) (.document leastShrinkCache) = none := by
    decide +kernel
  rw [hstops] at hloaded
  cases hloaded

end SkyAutoPlayer.NativeAdapters
