import SkyAutoPlayer.Desktop.CalibrationCache

/-!
# The writer and the reader of the calibration cache

Both reduce the same buckets. A bucket that the writer flattens passes the checks of the reader exactly if
its call durations are signed words, and the two loops then find the same greatest shrink in the same
bucket. So the reader finds in the cache what the writer put there, and its margin is the writer's.
-/

namespace SkyAutoPlayer.Desktop

open Foundation NativeAdapters

variable {hostMatchesCurrent : JsonObject → Bool} {bucket buckets source flat : JsonObject}
  {field key : String} {shrink : ℤ}

/-- What the writer promises of a bucket that it flattens. -/
structure FlatBucket (flat : JsonObject) (shrink : ℤ) : Prop where
  counters : Publishable (flat.unsigned "clean_pair_count") flat
  shrinks : ∀ field ∈ shrinkQuantiles, ShrinkBelieved flat field
  calls : ∀ field ∈ callQuantiles, ∃ quantiles, unsignedQuantiles field flat = some quantiles ∧
    quantiles.IsOrdered
  greatest : (flat.members "sendinput_shrink_us").bind (JsonObject.signed "max") = some shrink

/-- The call durations of a bucket are signed words. -/
def CallsFit (bucket : JsonObject) : Prop :=
  ∀ field ∈ callQuantiles, ∀ quantiles, unsignedQuantiles field bucket = some quantiles →
    quantiles.max < 2 ^ 63

/-! ## One bucket -/

/-- A shrink passes the writer if it is believed. -/
theorem validateSignedQuantiles_eq_ok {message : String} :
    validateSignedQuantiles bucket field message = .ok () ↔ ShrinkBelieved bucket field := by
  simp only [validateSignedQuantiles, ShrinkBelieved, Except.bind_eq_ok, okOr_eq_ok, failIf_eq_ok, not_or,
    not_not]

/-- A call duration passes the writer if it is ordered. -/
theorem validateUnsignedQuantiles_eq_ok {message : String} :
    validateUnsignedQuantiles bucket field message = .ok () ↔
      ∃ quantiles, unsignedQuantiles field bucket = some quantiles ∧ quantiles.IsOrdered := by
  simp only [validateUnsignedQuantiles, Except.bind_eq_ok, okOr_eq_ok, failIf_eq_ok, not_not]

/-- The count that the writer adds changes no measurement. -/
theorem measurement_insert {value : JsonValue} (h : field ≠ "clean_pair_count") :
    signedQuantiles field (bucket.insert "clean_pair_count" value) = signedQuantiles field bucket ∧
      unsignedQuantiles field (bucket.insert "clean_pair_count" value) =
        unsignedQuantiles field bucket := by
  simp only [signedQuantiles, unsignedQuantiles, JsonObject.members_insert_of_ne h, and_self]

/-- The counters are publishable under the reader's name if they are under the writer's. -/
theorem publishable_insert {clean : ℕ} (h : Publishable (some clean) bucket) :
    Publishable ((bucket.insert "clean_pair_count" (.ofNat clean)).unsigned "clean_pair_count")
      (bucket.insert "clean_pair_count" (.ofNat clean)) := by
  have hclean : (bucket.insert "clean_pair_count" (.ofNat clean)).unsigned "clean_pair_count" =
      some clean := by
    obtain ⟨-, -, -, -, hclean, -⟩ := h
    obtain rfl := Option.some.inj hclean
    rw [JsonObject.unsigned, JsonObject.get_insert_self]
    decide
  have hother : ∀ other, other ≠ "clean_pair_count" →
      (bucket.insert "clean_pair_count" (.ofNat clean)).unsigned other = bucket.unsigned other :=
    fun other hne => JsonObject.unsigned_insert_of_ne hne
  rw [hclean]
  unfold Publishable at h ⊢
  rw [hother "attempted" (by decide), hother "rejected" (by decide),
    hother "anomaly_count" (by decide), hother "class_mismatch_count" (by decide),
    hother "timeout_count" (by decide), hother "partial_send" (by decide)]
  exact h

/-- What the writer has checked of a bucket. -/
theorem flatBucket_of_prepareBucket {prepared : JsonObject × ℤ × ℕ}
    (h : prepareBucket source key = .ok prepared) : FlatBucket prepared.1 prepared.2.1 := by
  simp only [prepareBucket, Except.bind_eq_ok, okOr_eq_ok, failIf_eq_ok, exists_const,
    Except.exists_done, Except.forM_eq_ok, validateSignedQuantiles_eq_ok,
    validateUnsignedQuantiles_eq_ok, Except.pure_eq_ok] at h
  obtain ⟨parts, -, bucket, -, clean, -, attempted, hattempted, hcount, rejected, hrejected, hothers,
    hshrinks, hcalls, shrink, hgreatest, rfl⟩ := h
  push Not at hcount hothers
  obtain ⟨hrange, rfl⟩ := hcount
  have hpublishable : Publishable (some calibrationSampleCount) bucket :=
    ⟨attempted, rejected, hattempted, hrejected, rfl, hrange.1, hrange.2, hothers⟩
  have hnames : ∀ field ∈ shrinkQuantiles ++ callQuantiles, field ≠ "clean_pair_count" := by decide
  constructor
  case counters => exact publishable_insert hpublishable
  case shrinks =>
    intro field hfield
    have hne := hnames field (List.mem_append_left _ hfield)
    unfold ShrinkBelieved
    rw [(measurement_insert hne).1]
    exact hshrinks field hfield
  case calls =>
    intro field hfield
    have hne := hnames field (List.mem_append_right _ hfield)
    rw [(measurement_insert hne).2]
    exact hcalls field hfield
  case greatest => exact hgreatest

/-! ## Call durations -/

/-- A field that is an unsigned word is a signed one if that can hold it. -/
theorem signed_of_unsigned {values : JsonObject} {word : ℕ} (h : values.unsigned key = some word) :
    values.signed key = if word < 2 ^ 63 then some (word : ℤ) else none := by
  simp only [JsonObject.unsigned, JsonObject.signed, Option.bind_eq_some_iff] at h ⊢
  obtain ⟨value, hvalue, hword⟩ := h
  rw [hvalue, Option.bind_some, JsonValue.asI64_of_asU64 hword]

/-- A call duration is believed if its greatest quantile is a signed word. -/
theorem callBelieved_iff {quantiles : Quantiles ℕ}
    (h : unsignedQuantiles field bucket = some quantiles) (hordered : quantiles.IsOrdered) :
    CallBelieved bucket field ↔ quantiles.max < 2 ^ 63 := by
  simp only [unsignedQuantiles, Quantiles.read, Option.bind_eq_bind, Option.bind_eq_some_iff,
    Option.pure_def, Option.some.injEq] at h
  obtain ⟨values, hvalues, min, hmin, p50, hp50, p90, hp90, p95, hp95, p99, hp99, max, hmax, mean,
    hmean, rfl⟩ := h
  simp only [Quantiles.IsOrdered] at hordered
  constructor
  · intro hbelieved
    obtain ⟨found, hfound, -⟩ := hbelieved
    have hsigned := signed_max_of_signedQuantiles hfound
    rw [hvalues, Option.bind_some, signed_of_unsigned hmax] at hsigned
    by_contra hlarge
    rw [if_neg hlarge] at hsigned
    cases hsigned
  · intro hfits
    have hword : ∀ {key : String} {word : ℕ}, values.unsigned key = some word → word ≤ max →
        values.signed key = some (word : ℤ) := by
      intro key word hunsigned hle
      rw [signed_of_unsigned hunsigned, if_pos (Nat.lt_of_le_of_lt hle hfits)]
    refine ⟨⟨min, p50, p90, p95, p99, max, mean⟩, ?_, ?_, ?_⟩
    · rw [signedQuantiles, hvalues, Option.bind_some, Quantiles.read, hword hmin (by omega),
        hword hp50 (by omega), hword hp90 (by omega), hword hp95 (by omega), hword hp99 (by omega),
        hword hmax (by omega), hword hmean (by omega)]
      rfl
    · simp only [Quantiles.IsOrdered]
      omega
    · simp [Quantiles.ordered]

/-- What the reader says of a call duration that it does not believe. -/
theorem invalid_of_validSignedQuantiles {failure : ReadFailure}
    (h : validSignedQuantiles bucket true field = .error failure) : failure = .invalid := by
  simp only [validSignedQuantiles, Except.bind_eq_error, okOr_eq_ok, okOr_eq_error, failIf_eq_error,
    if_true] at h
  cases h with
  | inl habsent => exact habsent.2.symm
  | inr hrest =>
    obtain ⟨quantiles, -, hrest⟩ := hrest
    cases hrest with
    | inl hdisorder => exact hdisorder.2.symm
    | inr hnegative =>
      obtain ⟨done, -, hforM⟩ := hnegative
      obtain ⟨value, -, hvalue⟩ := exists_of_forM_eq_error hforM
      exact (failIf_eq_error.mp hvalue).2.symm

/-- A flattened bucket passes the reader if its call durations are signed words. -/
theorem checkBucket_of_flat (hmem : buckets.members key = some flat) (h : FlatBucket flat shrink)
    (hfit : CallsFit flat) : checkBucket buckets key = .ok shrink := by
  simp only [checkBucket, Except.bind_eq_ok, Except.exists_done, okOr_eq_ok, checkCounters_eq_ok,
    Except.forM_eq_ok, validSignedQuantiles_shrink_eq_ok, validSignedQuantiles_call_eq_ok]
  refine ⟨flat, hmem, h.counters, h.shrinks, ?_, h.greatest⟩
  intro field hfield
  obtain ⟨quantiles, hquantiles, hordered⟩ := h.calls field hfield
  rw [callBelieved_iff hquantiles hordered]
  exact hfit field hfield quantiles hquantiles

/-- A flattened bucket does not pass the reader if a call duration is no signed word. -/
theorem checkBucket_of_flat_of_not_fit (hmem : buckets.members key = some flat)
    (h : FlatBucket flat shrink) (hfit : ¬CallsFit flat) :
    checkBucket buckets key = .error .invalid := by
  unfold CallsFit at hfit
  push Not at hfit
  obtain ⟨field, hfield, quantiles, hquantiles, hlarge⟩ := hfit
  have hshrinks : shrinkQuantiles.forM (validSignedQuantiles flat false) = .ok () :=
    Except.forM_eq_ok.mpr fun field hfield =>
      validSignedQuantiles_shrink_eq_ok.mpr (h.shrinks field hfield)
  have hcalls : callQuantiles.forM (validSignedQuantiles flat true) = .error .invalid := by
    cases hforM : callQuantiles.forM (validSignedQuantiles flat true) with
    | ok done =>
      have hbelieved := validSignedQuantiles_call_eq_ok.mp (Except.forM_eq_ok.mp hforM field hfield)
      obtain ⟨found, hfound, hordered⟩ := h.calls field hfield
      obtain rfl := Option.some.inj (hquantiles.symm.trans hfound)
      rw [callBelieved_iff hquantiles hordered] at hbelieved
      omega
    | error failure =>
      obtain ⟨failing, -, hfails⟩ := exists_of_forM_eq_error hforM
      rw [invalid_of_validSignedQuantiles hfails]
  simp only [checkBucket, Except.bind_eq_error, Except.exists_done, okOr_eq_ok, checkCounters_eq_ok]
  exact .inr ⟨flat, hmem, .inr ⟨h.counters, .inr ⟨hshrinks, .inl hcalls⟩⟩⟩

/-! ## All buckets -/

section Loops

variable {keys : List String} {published result : PublishedBuckets}

/-- A flattened bucket stays as it is while others are flattened. -/
theorem flattened_get_of_notMem (hkey : key ∉ keys)
    (h : keys.foldlM (fun published key => published.publish key <$> prepareBucket source key)
      published = .ok result) :
    result.flattened.get key = published.flattened.get key := by
  have hkeeps := @foldlM_keeps _ _ _ _ keys (prepareBucket source) PublishedBuckets.publish published
    result (fun state => state.flattened.get key = published.flattened.get key)
  apply hkeeps _ rfl h
  intro state other hother prepared hstate hprepared
  have hne : key ≠ other := by
    intro heq
    rw [heq] at hkey
    exact hkey hother
  rw [PublishedBuckets.publish, JsonObject.get_insert_of_ne hne]
  exact hstate

/-- The flattened buckets are those of the keys. -/
theorem flattened_keys
    (h : keys.foldlM (fun published key => published.publish key <$> prepareBucket source key)
      published = .ok result) :
    result.flattened.map Prod.fst = keys.reverse ++ published.flattened.map Prod.fst := by
  induction keys generalizing published with
  | nil =>
    obtain rfl := Except.pure_eq_ok.mp h
    rfl
  | cons key rest ih =>
    rw [List.foldlM_cons, Except.bind_eq_ok] at h
    obtain ⟨next, hnext, hrest⟩ := h
    obtain ⟨prepared, -, rfl⟩ := Except.map_eq_ok.mp hnext
    rw [ih hrest, List.reverse_cons, List.append_assoc]
    rfl

/-- A bucket that has just been flattened is found in the finished buckets. -/
theorem flattened_members_of_publish {prepared : JsonObject × ℤ × ℕ} (hkey : key ∉ keys)
    (h : keys.foldlM (fun published key => published.publish key <$> prepareBucket source key)
      (published.publish key prepared) = .ok result) :
    result.flattened.members key = some prepared.1 := by
  rw [JsonObject.members, flattened_get_of_notMem hkey h, PublishedBuckets.publish,
    JsonObject.get_insert_self]
  rfl

/-- What the writer has flattened, found again in the finished buckets. -/
theorem flatBucket_of_foldlM (hnodup : keys.Nodup)
    (h : keys.foldlM (fun published key => published.publish key <$> prepareBucket source key)
      published = .ok result) :
    ∀ key ∈ keys, ∃ flat shrink, result.flattened.members key = some flat ∧ FlatBucket flat shrink := by
  induction keys generalizing published with
  | nil => simp
  | cons key rest ih =>
    obtain ⟨hkey, hrests⟩ := List.nodup_cons.mp hnodup
    rw [List.foldlM_cons, Except.bind_eq_ok] at h
    obtain ⟨next, hnext, hrest⟩ := h
    obtain ⟨prepared, hprepared, rfl⟩ := Except.map_eq_ok.mp hnext
    have hget := flattened_members_of_publish hkey hrest
    exact List.forall_mem_cons.mpr
      ⟨⟨prepared.1, prepared.2.1, hget, flatBucket_of_prepareBucket hprepared⟩, ih hrests hrest⟩

/-- The reader's loop over the flattened buckets finds what the writer's loop found. -/
theorem foldlM_checkBucket_eq_ok (hnodup : keys.Nodup)
    (h : keys.foldlM (fun published key => published.publish key <$> prepareBucket source key)
      published = .ok result)
    (hfit : ∀ key ∈ keys, ∀ flat, result.flattened.members key = some flat → CallsFit flat) :
    keys.foldlM (fun worst key => raiseWorst worst key <$> checkBucket result.flattened key)
      (published.worst, published.worstBucket) = .ok (result.worst, result.worstBucket) := by
  induction keys generalizing published with
  | nil =>
    obtain rfl := Except.pure_eq_ok.mp h
    rfl
  | cons key rest ih =>
    obtain ⟨hkey, hrests⟩ := List.nodup_cons.mp hnodup
    rw [List.foldlM_cons, Except.bind_eq_ok] at h
    obtain ⟨next, hnext, hrest⟩ := h
    obtain ⟨prepared, hprepared, rfl⟩ := Except.map_eq_ok.mp hnext
    have hget := flattened_members_of_publish hkey hrest
    have hcheck : checkBucket result.flattened key = .ok prepared.2.1 :=
      checkBucket_of_flat hget (flatBucket_of_prepareBucket hprepared)
        (hfit key List.mem_cons_self prepared.1 hget)
    have hworst : raiseWorst (published.worst, published.worstBucket) key prepared.2.1 =
        ((published.publish key prepared).worst, (published.publish key prepared).worstBucket) := by
      unfold raiseWorst PublishedBuckets.publish
      split <;> simp_all
    rw [List.foldlM_cons, hcheck, Except.bind_eq_ok]
    refine ⟨_, rfl, ?_⟩
    rw [hworst]
    exact ih hrests hrest fun key hmem => hfit key (List.mem_cons_of_mem _ hmem)

/-- The reader's loop refuses the flattened buckets if a call duration is no signed word. -/
theorem foldlM_checkBucket_eq_invalid {start : ℤ × String}
    (hflat : ∀ key ∈ keys, ∃ flat shrink, buckets.members key = some flat ∧ FlatBucket flat shrink)
    (hfit : ∃ key ∈ keys, ∃ flat, buckets.members key = some flat ∧ ¬CallsFit flat) :
    keys.foldlM (fun worst key => raiseWorst worst key <$> checkBucket buckets key) start =
      .error .invalid := by
  rw [foldlM_eq_error (fun _ => Iff.rfl) fun _ => Iff.rfl]
  apply firstBad_of_exists
  · intro key hkey
    obtain ⟨flat, shrink, hmem, hflat⟩ := hflat key hkey
    by_cases hfits : CallsFit flat
    · exact .inl ⟨shrink, checkBucket_of_flat hmem hflat hfits⟩
    · exact .inr (checkBucket_of_flat_of_not_fit hmem hflat hfits)
  · obtain ⟨key, hkey, flat, hmem, hfits⟩ := hfit
    obtain ⟨found, shrink, hfound, hflat⟩ := hflat key hkey
    obtain rfl := Option.some.inj (hmem.symm.trans hfound)
    exact ⟨key, hkey, checkBucket_of_flat_of_not_fit hmem hflat hfits⟩

end Loops

/-! ## The cache -/

variable {published : PublishedBuckets} {root : JsonObject}

/-- A field that the cache has of its own hides the one of the evidence. -/
theorem get_own (key : String) {value : JsonValue} (h : published.cacheFields.get key = some value) :
    JsonObject.get key (published.cacheFields ++ root) = some value := by
  rw [JsonObject.get_append, h]
  rfl

/-- A field that the cache does not have of its own is that of the evidence. -/
theorem get_inherited (key : String) (h : published.cacheFields.get key = none) :
    JsonObject.get key (published.cacheFields ++ root) = root.get key := by
  rw [JsonObject.get_append, h]
  rfl

/-- The header of the cache is the present one. -/
theorem compatibleHeader_cache (h : compatibleEvidence root = true) :
    compatibleHeader (published.cacheFields ++ root) = true := by
  unfold compatibleEvidence at h
  obtain ⟨-, hprotocol, hkind, -⟩ := of_decide_eq_true h
  unfold compatibleHeader
  apply decide_eq_true
  unfold JsonObject.unsigned JsonObject.text at *
  rw [get_own "version" rfl, get_inherited "evidence_kind" rfl, get_own "artifact_schema_version" rfl,
    get_own "native_calibration_version" rfl, get_inherited "measurement_protocol_version" rfl,
    get_own "source" rfl, get_own "source_formula_version" rfl]
  exact ⟨by decide, hkind, by decide, by decide, hprotocol, by decide, by decide⟩

/-- The cache is of the build that the evidence is of. -/
theorem validProvenance_cache :
    validProvenance (published.cacheFields ++ root) = validProvenance root := by
  unfold validProvenance nonemptyString JsonObject.text JsonObject.truth
  simp only [List.all_cons, List.all_nil]
  rw [get_inherited "source_git_sha" rfl, get_inherited "native_build_id" rfl,
    get_inherited "native_source_fingerprint" rfl, get_inherited "rustc_version" rfl,
    get_inherited "dirty_worktree" rfl]

/-- The cache lists the required buckets. -/
theorem requiredListed_cache : requiredListed (published.cacheFields ++ root) = true := by
  rw [requiredListed, get_own "required_buckets" rfl]
  decide

/-- The margin of the cache as the reader reads it. -/
theorem asU64_appliedValue :
    published.appliedValue.asU64 =
      if published.valid then some published.applied.toNat else none := by
  unfold PublishedBuckets.appliedValue
  split
  · apply JsonValue.asU64_ofInt <;> unfold PublishedBuckets.applied <;> omega
  · rfl

/-- The status that the writer gives the cache. -/
def PublishedBuckets.status (published : PublishedBuckets) : String :=
  if published.valid then "valid" else "out_of_envelope"

/-- The writer's margin follows from the greatest shrink by the reader's formula. -/
theorem qualificationValues_worst (hnonneg : 0 ≤ published.worst)
    (hsize : published.worst ≤ calibrationMaxShrinkUs) :
    qualificationValues published.worst =
      some (published.status, published.worst.toNat + 100,
        if published.valid then some published.applied.toNat else none) := by
  rw [qualificationValues_eq_some hsize]
  unfold calibrationMaxShrinkUs at hsize
  unfold PublishedBuckets.status PublishedBuckets.valid PublishedBuckets.applied
    PublishedBuckets.candidate
  by_cases hvalid : published.worst + 100 ≤ 2000
  · have hcandidate : min (published.worst + 100) (2 ^ 63 - 1) ≤ 2000 := by omega
    rw [if_neg (by omega)]
    simp only [hcandidate, decide_true, if_true]
    congr 4
    omega
  · have hcandidate : ¬min (published.worst + 100) (2 ^ 63 - 1) ≤ 2000 := by omega
    rw [if_pos (by omega)]
    simp only [hcandidate, decide_false, Bool.false_eq_true, if_false]

/-- What the cache says of its margin is what the reader computes. -/
theorem qualificationMatches_cache (hnonneg : 0 ≤ published.worst)
    (hsize : published.worst ≤ calibrationMaxShrinkUs) :
    qualificationMatches (published.cacheFields ++ root) published.qualification
      ⟨some published.status, published.worstBucket, published.worst, published.worst.toNat + 100,
        if published.valid then some published.applied.toNat else none, published.status⟩ = true := by
  unfold calibrationMaxShrinkUs at hsize
  have hworst : (JsonValue.ofInt (max published.worst 0)).asI64 = some published.worst := by
    rw [Int.max_eq_left hnonneg]
    exact JsonValue.asI64_ofInt hnonneg (by omega)
  have hcandidate : (JsonValue.ofInt published.candidate).asU64 =
      some (published.worst.toNat + 100) := by
    unfold PublishedBuckets.candidate
    rw [JsonValue.asU64_ofInt (by omega) (by omega)]
    congr 1
    omega
  have hqualified : published.valid = (published.status == "valid") := by
    unfold PublishedBuckets.status
    cases published.valid <;> rfl
  unfold qualificationMatches
  apply decide_eq_true
  unfold JsonObject.unsigned JsonObject.signed JsonObject.text JsonObject.truth
  rw [get_own "status" rfl, get_own "transport_margin_us" rfl, get_own "transport_margin_source" rfl,
    get_own "transport_worst_positive_us" rfl, get_own "transport_guard_us" rfl,
    get_own "transport_floor_us" rfl, get_own "transport_ceiling_us" rfl,
    get_own "calibration_timing_qualified" rfl]
  have hguard : (JsonValue.ofNat 100).asU64 = some 100 := JsonValue.asU64_ofNat (by decide)
  have hfloor : (JsonValue.ofNat 300).asU64 = some 300 := JsonValue.asU64_ofNat (by decide)
  have hceiling : (JsonValue.ofNat 2000).asU64 = some 2000 := JsonValue.asU64_ofNat (by decide)
  refine ⟨rfl, rfl, hworst, hguard, hfloor, hceiling, hcandidate, asU64_appliedValue, rfl, rfl,
    asU64_appliedValue, rfl, hworst, hguard, hfloor, hceiling, ?_⟩
  rw [← hqualified]
  rfl

/-! ## Reading the cache back -/

/-- The host, the build and the scheduling aids of the evidence are those that the reader wants. -/
structure SurroundingsValid (hostMatchesCurrent : JsonObject → Bool) (root : JsonObject) : Prop where
  host : ∃ host, validHostFingerprint (root.get "host_fingerprint") = some host ∧
    hostMatchesCurrent host = true
  provenance : validProvenance root = true
  aids : validSchedulingAids (root.get "scheduling_aids") = true

/-- The call durations of all flattened buckets are signed words. -/
def AllCallsFit (published : PublishedBuckets) : Prop :=
  ∀ key ∈ calibrationRequiredBuckets, ∀ flat, published.flattened.members key = some flat →
    CallsFit flat

/-- The required buckets are all flattened. -/
theorem bucketsComplete_flattened (h : publishBuckets root = .ok published) :
    bucketsComplete published.flattened = true := by
  simp only [publishBuckets, Except.bind_eq_ok, okOr_eq_ok, failIf_eq_ok, exists_const] at h
  obtain ⟨-, source, -, hloop⟩ := h
  have hkeys : published.flattened.map Prod.fst = calibrationRequiredBuckets.reverse ++ [] :=
    flattened_keys hloop
  have hflat := flatBucket_of_foldlM (by decide) hloop
  unfold bucketsComplete JsonObject.len
  rw [hkeys, Bool.and_eq_true, List.all_eq_true]
  constructor
  · decide
  · intro key hkey
    obtain ⟨flat, shrink, hmem, -⟩ := hflat key hkey
    rw [JsonObject.members, Option.bind_eq_some_iff] at hmem
    obtain ⟨value, hvalue, -⟩ := hmem
    rw [hvalue]
    rfl

/-- The reader finds the writer's greatest shrink in the cache. -/
theorem validPairBuckets_cache (h : publishBuckets root = .ok published)
    (hfit : AllCallsFit published) : validPairBuckets (published.cacheFields ++ root) =
      .ok (published.worst, published.worstBucket) := by
  have hcomplete := bucketsComplete_flattened h
  simp only [publishBuckets, Except.bind_eq_ok, okOr_eq_ok, failIf_eq_ok, exists_const] at h
  obtain ⟨-, source, -, hloop⟩ := h
  have hread := foldlM_checkBucket_eq_ok (by decide) hloop hfit
  have hnonneg : 0 ≤ published.worst := (worst_of_foldlM hread).1
  simp only [validPairBuckets, Except.bind_eq_ok, okOr_eq_ok, failIf_eq_ok, exists_const,
    Except.pure_eq_ok, requiredListed_cache]
  refine ⟨by decide, published.flattened, ?_, by simp [hcomplete], _, hread, ?_⟩
  · rw [JsonObject.members, get_own "pair_buckets" rfl]
    rfl
  · rw [Int.max_eq_left hnonneg]

/-- The reader refuses the cache if a call duration is no signed word. -/
theorem validPairBuckets_cache_of_not_fit (h : publishBuckets root = .ok published)
    (hfit : ¬AllCallsFit published) :
    validPairBuckets (published.cacheFields ++ root) = .error .invalid := by
  have hcomplete := bucketsComplete_flattened h
  simp only [publishBuckets, Except.bind_eq_ok, okOr_eq_ok, failIf_eq_ok, exists_const] at h
  obtain ⟨-, source, -, hloop⟩ := h
  unfold AllCallsFit at hfit
  push Not at hfit
  have hread := @foldlM_checkBucket_eq_invalid published.flattened calibrationRequiredBuckets
    (0, "1/hot") (flatBucket_of_foldlM (by decide) hloop) hfit
  have hbuckets : JsonObject.members "pair_buckets" (published.cacheFields ++ root) =
      some published.flattened := by
    rw [JsonObject.members, get_own "pair_buckets" rfl]
    rfl
  simp only [validPairBuckets, Except.bind_eq_error, okOr_eq_ok, failIf_eq_ok, exists_const,
    requiredListed_cache]
  exact .inr ⟨by decide, .inr ⟨published.flattened, hbuckets, .inr ⟨by simp [hcomplete], .inl hread⟩⟩⟩

/-- The checks before the buckets pass, and the host is the current one. -/
theorem readMargin_cache (hvalid : SurroundingsValid hostMatchesCurrent root)
    (h : publishBuckets root = .ok published) :
    ∃ host, hostMatchesCurrent host = true ∧
      readMargin hostMatchesCurrent (.object (published.cacheFields ++ root)) =
        validPairBuckets (published.cacheFields ++ root) >>=
          qualifiedMargin hostMatchesCurrent (published.cacheFields ++ root) published.qualification
            host := by
  obtain ⟨host, hhost, hcurrent⟩ := hvalid.host
  simp only [publishBuckets, Except.bind_eq_ok, failIf_eq_ok, exists_const] at h
  have hheader := @compatibleHeader_cache published root ((Bool.not_eq_false _).mp h.1)
  have hqualification : JsonObject.members "qualification" (published.cacheFields ++ root) =
      some published.qualification := by
    rw [JsonObject.members, get_own "qualification" rfl]
    rfl
  refine ⟨host, hcurrent, ?_⟩
  have haids := hvalid.aids
  rw [← @get_inherited published root "scheduling_aids" rfl] at haids
  rw [← @get_inherited published root "host_fingerprint" rfl] at hhost
  have hbuild := hvalid.provenance
  rw [← @validProvenance_cache published] at hbuild
  simp only [readMargin, JsonValue.asObject, okOr_some_bind]
  rw [failIf_bind_of_not (by simp [hheader]), hqualification, okOr_some_bind, hhost, okOr_some_bind,
    failIf_bind_of_not (by simp [hbuild, haids])]

/-- The reader's verdict on a flattened cache with a greatest shrink of a believed size. -/
theorem qualifiedMargin_cache {host : JsonObject} (hnonneg : 0 ≤ published.worst)
    (hsize : published.worst ≤ calibrationMaxShrinkUs) (hhost : hostMatchesCurrent host = true) :
    qualifiedMargin hostMatchesCurrent (published.cacheFields ++ root) published.qualification host
        (published.worst, published.worstBucket) =
      if published.valid then .ok published.applied.toNat else .error .outOfEnvelope := by
  have hstatus : (JsonObject.text "status" published.qualification).or
      (JsonObject.text "status" (published.cacheFields ++ root)) = some published.status := by
    unfold JsonObject.text
    rw [get_own "status" rfl]
    rfl
  have hmatches := @qualificationMatches_cache published root hnonneg hsize
  simp only [qualifiedMargin, qualificationValues_worst hnonneg hsize, hstatus]
  rw [okOr_some_bind]
  cases hvalid : published.valid with
  | true =>
    have hname : published.status = "valid" := by simp [PublishedBuckets.status, hvalid]
    rw [hvalid, hname, if_pos rfl] at hmatches
    simp only [hname, if_true]
    rw [failIf_bind_of_not (by simp), failIf_bind_of_not (by simp),
      failIf_bind_of_not (by simp [hmatches]), okOr_some_bind, failIf_bind_of_not (by simp [hhost])]
    rfl
  | false =>
    have hname : published.status = "out_of_envelope" := by simp [PublishedBuckets.status, hvalid]
    rw [hvalid, hname, if_neg (by decide)] at hmatches
    simp only [hname, if_false, Bool.false_eq_true]
    rw [failIf_bind_of_not (by simp [hmatches]), failIf_bind_of trivial]

/-- What the writer says of its margin. -/
def PreparedCalibrationCache.resolution (prepared : PreparedCalibrationCache) : CalibrationResolution :=
  match prepared.marginUs with
  | some marginUs => ⟨marginUs, true, calibrationMarginSourceDevice⟩
  | none => .fallback calibrationMarginSourceOutOfEnvelope

/-- The greatest shrink of flattened buckets with signed call durations is of a size that is believed. -/
theorem worst_of_publishBuckets (h : publishBuckets root = .ok published)
    (hfit : AllCallsFit published) :
    0 ≤ published.worst ∧ published.worst ≤ calibrationMaxShrinkUs := by
  have hbounds := validPairBuckets_eq_ok (validPairBuckets_cache h hfit)
  exact ⟨hbounds.1, hbounds.2.1⟩

/-- The reader gives back what the writer says of its margin. -/
theorem load_cache (hvalid : SurroundingsValid hostMatchesCurrent root)
    (h : publishBuckets root = .ok published) (hfit : AllCallsFit published) :
    loadCalibrationResolution hostMatchesCurrent (.document (.object (published.cacheFields ++ root))) =
      some (published.prepared root).resolution := by
  obtain ⟨host, hcurrent, hread⟩ := readMargin_cache hvalid h
  have hworst := worst_of_publishBuckets h hfit
  have hpairs := validPairBuckets_cache h hfit
  have hmargin : readMargin hostMatchesCurrent (.object (published.cacheFields ++ root)) =
      if published.valid then .ok published.applied.toNat else .error .outOfEnvelope := by
    rw [hread, hpairs]
    exact qualifiedMargin_cache hworst.1 hworst.2 hcurrent
  unfold loadCalibrationResolution PreparedCalibrationCache.resolution PublishedBuckets.prepared
  cases hstatus : published.valid with
  | true =>
    rw [hstatus] at hmargin
    simp [hmargin]
  | false =>
    rw [hstatus] at hmargin
    simp [hmargin]

/-- The reader refuses the cache if a call duration is no signed word. -/
theorem load_cache_of_not_fit (hvalid : SurroundingsValid hostMatchesCurrent root)
    (h : publishBuckets root = .ok published) (hfit : ¬AllCallsFit published) :
    loadCalibrationResolution hostMatchesCurrent (.document (.object (published.cacheFields ++ root))) =
      some (.fallback calibrationMarginSourceInvalid) := by
  obtain ⟨host, -, hread⟩ := readMargin_cache hvalid h
  have hpairs := validPairBuckets_cache_of_not_fit h hfit
  have hmargin : readMargin hostMatchesCurrent (.object (published.cacheFields ++ root)) =
      .error .invalid := by
    rw [hread, hpairs]
    rfl
  simp [loadCalibrationResolution, hmargin]

/-- The recommended margin is the least step that covers a reserve with the guard. -/
theorem recommended_isLeast {reserveUs : ℕ} (h : reserveUs ≤ 2000) :
    ∃ recommendedUs, recommendedCalibratedTimingMarginUs reserveUs = some recommendedUs ∧
      IsLeast {marginUs | timingMarginStepUs ∣ marginUs ∧
        reserveUs + calibrationTimingMarginGuardUs ≤ marginUs} recommendedUs := by
  have hguard : checkedAdd 64 reserveUs 100 = some (reserveUs + 100) := by
    rw [checkedAdd_eq_some]
    exact ⟨by omega, rfl⟩
  have hsteps : checkedMul 64 ((reserveUs + 100 + 100 - 1) / 100) 100 =
      some ((reserveUs + 100 + 100 - 1) / 100 * 100) := by
    rw [checkedMul_eq_some]
    exact ⟨by omega, rfl⟩
  refine ⟨(reserveUs + 100 + 100 - 1) / 100 * 100, ?_, ⟨⟨_, Nat.mul_comm _ _⟩, ?_⟩, ?_⟩
  · unfold recommendedCalibratedTimingMarginUs timingMarginStepUs calibrationTimingMarginGuardUs
      maxTimingMarginUs
    rw [hguard, Option.bind_eq_bind, Option.bind_some, hsteps, Option.bind_some, if_pos (by omega)]
  · unfold calibrationTimingMarginGuardUs
    omega
  · intro marginUs hmargin
    obtain ⟨⟨steps, rfl⟩, hle⟩ := hmargin
    unfold calibrationTimingMarginGuardUs timingMarginStepUs at hle
    unfold timingMarginStepUs
    omega

/-- The writer's margin is the greatest shrink with the guard, raised to the floor, if that is within the
ceiling. -/
def MarginComputed (prepared : PreparedCalibrationCache) : Prop :=
  ∃ worst, prepared.document.signed "transport_worst_positive_us" = some worst ∧
    prepared.marginUs = if worst + 100 ≤ 2000 then some (max 300 (worst + 100)).toNat else none

/-- The margin of a cache is one that the writer computes. -/
theorem marginComputed_prepared (h : publishBuckets root = .ok published)
    (hfit : AllCallsFit published) : MarginComputed (published.prepared root) := by
  obtain ⟨hnonneg, hsize⟩ := worst_of_publishBuckets h hfit
  unfold calibrationMaxShrinkUs at hsize
  refine ⟨published.worst, ?_, ?_⟩
  · unfold PublishedBuckets.prepared JsonObject.signed
    rw [get_own "transport_worst_positive_us" rfl, Int.max_eq_left hnonneg]
    exact JsonValue.asI64_ofInt hnonneg (by omega)
  · unfold PublishedBuckets.prepared PublishedBuckets.valid PublishedBuckets.applied
      PublishedBuckets.candidate
    rw [Int.min_eq_left (by omega)]
    by_cases hvalid : published.worst + 100 ≤ 2000
    · simp [hvalid]
    · simp [hvalid]

/-- An accepted cache is read back as what the writer says of its margin, whose recommendation is the
least step that covers it. What the writer has checked is accepted unless a call duration is no signed
word. -/
theorem calibration_cache_agrees {raw : JsonValue} (hroot : raw.asObject = some root)
    (hvalid : SurroundingsValid hostMatchesCurrent root) :
    (∀ written prepared, prepareCalibrationCache hostMatchesCurrent written raw = .ok prepared →
      MarginComputed prepared ∧
        loadCalibrationResolution hostMatchesCurrent (.document (.object prepared.document)) =
          some prepared.resolution ∧
        ∀ marginUs, prepared.marginUs = some marginUs →
          ∃ recommendedUs, recommendedCalibratedTimingMarginUs marginUs = some recommendedUs ∧
            IsLeast {timingUs | timingMarginStepUs ∣ timingUs ∧
              marginUs + calibrationTimingMarginGuardUs ≤ timingUs} recommendedUs) ∧
      ∀ published, publishBuckets root = .ok published →
        ((∃ prepared, prepareCalibrationCache hostMatchesCurrent (.ok ()) raw = .ok prepared) ↔
          AllCallsFit published) := by
  constructor
  · intro written prepared h
    simp only [prepareCalibrationCache, Except.bind_eq_ok, Except.exists_done, okOr_eq_ok, hroot,
      Option.some.injEq, exists_eq_left', failIf_eq_ok, exists_const, Except.pure_eq_ok] at h
    obtain ⟨published, hpublished, -, resolution, hresolution, hsource, rfl⟩ := h
    have hfit : AllCallsFit published := by
      by_contra hfit
      have hinvalid := load_cache_of_not_fit hvalid hpublished hfit
      obtain rfl := Option.some.inj (hinvalid.symm.trans hresolution)
      exact hsource (by decide)
    refine ⟨marginComputed_prepared hpublished hfit, load_cache hvalid hpublished hfit, ?_⟩
    intro marginUs hmargin
    apply recommended_isLeast
    obtain ⟨worst, -, hcomputed⟩ := marginComputed_prepared hpublished hfit
    rw [hmargin] at hcomputed
    split at hcomputed
    case isTrue hceiling =>
      obtain rfl := Option.some.inj hcomputed
      omega
    case isFalse => cases hcomputed
  · intro published hpublished
    constructor
    · intro h
      obtain ⟨prepared, h⟩ := h
      by_contra hfit
      simp only [prepareCalibrationCache, Except.bind_eq_ok, Except.exists_done, okOr_eq_ok, hroot,
        Option.some.injEq, exists_eq_left', failIf_eq_ok, exists_const, Except.pure_eq_ok, hpublished,
        Except.ok.injEq] at h
      obtain ⟨-, resolution, hresolution, hsource, -⟩ := h
      have hinvalid := load_cache_of_not_fit hvalid hpublished hfit
      obtain rfl := Option.some.inj (hinvalid.symm.trans hresolution)
      exact hsource (by decide)
    · intro hfit
      refine ⟨published.prepared root, ?_⟩
      simp only [prepareCalibrationCache, Except.bind_eq_ok, Except.exists_done, okOr_eq_ok, hroot,
        Option.some.injEq, exists_eq_left', failIf_eq_ok, exists_const, Except.pure_eq_ok, hpublished,
        Except.ok.injEq]
      refine ⟨rfl, _, load_cache hvalid hpublished hfit, ?_, trivial⟩
      unfold PreparedCalibrationCache.resolution
      split
      · simp
      · simp [CalibrationResolution.fallback]

/-! ## Two measurements -/

/-- The evidence of a measurement with a greatest shrink. -/
def sampleEvidence (greatest : ℤ) : JsonObject :=
  ([("version", .ofNat 15), ("pair_buckets", .object (["1", "5", "15"].map fun polyphony =>
    (polyphony, .object (["hot", "cold"].map fun className =>
      (className, sampleBucket (-40) greatest (sampleQuantiles 5 9))))))] : JsonObject) ++ sampleSurroundings

/-- The measurements were made on this host. -/
theorem sampleEvidence_valid (greatest : ℤ) :
    SurroundingsValid (fun _ => true) (sampleEvidence greatest) where
  host := by
    have hhost : (validHostFingerprint ((sampleEvidence 0).get "host_fingerprint")).isSome := by
      decide +kernel
    obtain ⟨host, hhost⟩ := Option.isSome_iff_exists.mp hhost
    exact ⟨host, hhost, rfl⟩
  provenance := by
    have hbuild : validProvenance (sampleEvidence 0) = true := by decide +kernel
    exact hbuild
  aids := by
    have haids : validSchedulingAids ((sampleEvidence 0).get "scheduling_aids") = true := by
      decide +kernel
    exact haids

/-- A measured shrink of 440 µs gives a margin of 540 µs, and the reader agrees. -/
theorem measured_cache_agrees : ∃ prepared,
    prepareCalibrationCache (fun _ => true) (.ok ()) (.object (sampleEvidence 440)) = .ok prepared ∧
      loadCalibrationResolution (fun _ => true) (.document (.object prepared.document)) =
        some ⟨540, true, calibrationMarginSourceDevice⟩ := by
  have hmargin : (prepareCalibrationCache (fun _ => true) (.ok ())
      (.object (sampleEvidence 440))).toOption.any (·.marginUs = some 540) = true := by
    decide +kernel
  obtain ⟨prepared, hprepared, hmargin⟩ := Except.exists_of_any hmargin
  have hagrees := (calibration_cache_agrees rfl (sampleEvidence_valid 440)).1 (.ok ()) prepared hprepared
  refine ⟨prepared, hprepared, ?_⟩
  rw [hagrees.2.1, PreparedCalibrationCache.resolution, of_decide_eq_true hmargin]

/-- A measured shrink of 1950 µs is accepted, and there is no margin to give back. -/
theorem slow_cache_not_qualified :
    ¬∀ hostMatchesCurrent raw root written prepared, raw.asObject = some root →
      SurroundingsValid hostMatchesCurrent root →
      prepareCalibrationCache hostMatchesCurrent written raw = .ok prepared →
      ∃ marginUs, prepared.marginUs = some marginUs ∧
        loadCalibrationResolution hostMatchesCurrent (.document (.object prepared.document)) =
          some ⟨marginUs, true, calibrationMarginSourceDevice⟩ := by
  intro h
  have hmargin : (prepareCalibrationCache (fun _ => true) (.ok ())
      (.object (sampleEvidence 1950))).toOption.any (·.marginUs = none) = true := by
    decide +kernel
  obtain ⟨prepared, hprepared, hmargin⟩ := Except.exists_of_any hmargin
  obtain ⟨marginUs, hsome, -⟩ := h (fun _ => true) (.object (sampleEvidence 1950)) _ (.ok ()) prepared rfl
    (sampleEvidence_valid 1950) hprepared
  rw [of_decide_eq_true hmargin] at hsome
  cases hsome

end SkyAutoPlayer.Desktop
