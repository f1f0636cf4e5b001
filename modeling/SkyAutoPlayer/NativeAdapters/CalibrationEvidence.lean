import SkyAutoPlayer.AppCore.LibraryManifest
import SkyAutoPlayer.Foundation.CheckSequence
import SkyAutoPlayer.Foundation.JsonDocument

/-!
# Calibration evidence

The cache of the sender calibration is evidence for a reserve. It is read without trust: its schema, its
host, its provenance, the quantiles of every required bucket and the reserve that follows from them are
all checked, and a document that fails a check gives the default reserve.

The reader takes the magnitude of signed words, which the least one does not have. The program stops
there, as it does on every overflow. Whether the host of the document is the present one is a parameter,
since that asks the operating system.
-/

namespace SkyAutoPlayer.NativeAdapters

open Foundation AppCore

def calibrationCacheVersion : ℕ := 8

def calibrationEvidenceKind : String := "sender_completion_hold_shrink"

def calibrationArtifactSchemaVersion : ℕ := 11

def calibrationNativeVersion : ℕ := 15

def calibrationMeasurementProtocolVersion : ℕ := 10

def calibrationSourceFormulaVersion : ℕ := 6

def calibrationHostFingerprintVersion : ℕ := 2

def calibrationSampleCount : ℕ := 100

def calibrationMaxShrinkUs : ℕ := 100000

def calibrationRequiredBuckets : List String :=
  ["1/hot", "1/cold", "5/hot", "5/cold", "15/hot", "15/cold"]

def defaultTransportMarginUs : ℕ := 300

def calibrationMarginSourceDefault : String := "default_transport_300"

def calibrationMarginSourceDevice : String := "device_cache"

def calibrationMarginSourceInvalid : String := "invalid_cache_transport_300"

def calibrationMarginSourceIncompatible : String := "incompatible_host_transport_300"

def calibrationMarginSourceOutOfEnvelope : String := "out_of_envelope_transport_300"

/-- The measurements of a bucket that may be negative. -/
def shrinkQuantiles : List String :=
  ["pair_sender_hold_shrink_us", "scheduler_shrink_us", "sendinput_shrink_us"]

/-- The measurements of a bucket that may not. -/
def callQuantiles : List String := ["down_call_duration_us", "up_call_duration_us"]

/-- The reserve for the transport, whether a device was measured for it, and where it is from. -/
structure CalibrationResolution where
  transportReserveUs : ℕ
  qualified : Bool
  source : String
  deriving DecidableEq, Repr

/-- The default reserve. -/
def CalibrationResolution.fallback (source : String) : CalibrationResolution :=
  ⟨defaultTransportMarginUs, false, source⟩

/-- Why a document gives no reserve: the program stops, or the default is taken. -/
inductive ReadFailure where
  | stops
  | fallback (source : String)
  deriving DecidableEq, Repr

namespace ReadFailure

/-- The document is not one that a calibration writes. -/
abbrev invalid : ReadFailure := .fallback calibrationMarginSourceInvalid

/-- The document is not for this program or this host. -/
abbrev incompatible : ReadFailure := .fallback calibrationMarginSourceIncompatible

/-- The measured host is too slow. -/
abbrev outOfEnvelope : ReadFailure := .fallback calibrationMarginSourceOutOfEnvelope

end ReadFailure

/-- The quantiles of one measurement, and its mean. -/
structure Quantiles (Word : Type) where
  min : Word
  p50 : Word
  p90 : Word
  p95 : Word
  p99 : Word
  max : Word
  mean : Word
  deriving DecidableEq, Repr

namespace Quantiles

variable {Word : Type}

/-- The quantiles whose seven fields are all read. -/
def read (word : String → Option Word) : Option (Quantiles Word) := do
  let min ← word "min"
  let p50 ← word "p50"
  let p90 ← word "p90"
  let p95 ← word "p95"
  let p99 ← word "p99"
  let max ← word "max"
  let mean ← word "mean"
  pure ⟨min, p50, p90, p95, p99, max, mean⟩

/-- The quantiles without the mean. -/
def ordered (quantiles : Quantiles Word) : List Word :=
  [quantiles.min, quantiles.p50, quantiles.p90, quantiles.p95, quantiles.p99, quantiles.max]

/-- No quantile is below an earlier one, and the mean lies between the outer ones. -/
def IsOrdered [LE Word] (quantiles : Quantiles Word) : Prop :=
  quantiles.min ≤ quantiles.p50 ∧ quantiles.p50 ≤ quantiles.p90 ∧ quantiles.p90 ≤ quantiles.p95 ∧
    quantiles.p95 ≤ quantiles.p99 ∧ quantiles.p99 ≤ quantiles.max ∧
    quantiles.min ≤ quantiles.mean ∧ quantiles.mean ≤ quantiles.max

instance [LE Word] [DecidableLE Word] (quantiles : Quantiles Word) : Decidable quantiles.IsOrdered :=
  inferInstanceAs (Decidable (_ ∧ _))

/-- No quantile is greater than a shrink that is believed. -/
def WithinShrink (quantiles : Quantiles ℤ) : Prop :=
  ∀ value ∈ quantiles.ordered, value.natAbs ≤ calibrationMaxShrinkUs

/-- Ordered quantiles are not below the least one. -/
theorem IsOrdered.min_le {quantiles : Quantiles ℤ} (h : quantiles.IsOrdered) :
    ∀ value ∈ quantiles.ordered, quantiles.min ≤ value := by
  unfold IsOrdered at h
  simp only [ordered, List.forall_mem_cons, List.not_mem_nil, false_imp_iff, implies_true, and_true]
  omega

end Quantiles

/-- The signed quantiles of a measurement. -/
def signedQuantiles (field : String) (bucket : JsonObject) : Option (Quantiles ℤ) :=
  (bucket.members field).bind fun values => Quantiles.read (JsonObject.signed · values)

/-- A text that says something. -/
def nonemptyString (object : JsonObject) (key : String) : Bool :=
  (object.text key).any fun value => decide (trimText value ≠ "" ∧ value ≠ "unknown")

/-- A value that is left out, or is an unsigned word. -/
def absentOrUnsigned (object : JsonObject) (key : String) : Bool :=
  (object.get key).all fun value => value.isNull || value.asU64.isSome

/-- The host of a document, if it is described as the program describes one. -/
def validHostFingerprint (value : Option JsonValue) : Option JsonObject := do
  let host ← value.bind JsonValue.asObject
  guard (host.unsigned "host_fingerprint_version" = some calibrationHostFingerprintVersion ∧
    (host.unsigned "qpc_frequency_hz").isSome)
  guard (nonemptyString host "win32_build" ∧ nonemptyString host "processor_architecture" ∧
    nonemptyString host "cpu_vendor")
  guard (["cpu_family", "cpu_model", "cpu_stepping", "logical_processor_count",
    "processor_group_count"].all fun key => (host.unsigned key).isSome)
  let efficiency ← (host.get "cpu_set_efficiency_classes").bind JsonValue.asArray
  guard (efficiency.all fun value => value.asU64.isSome)
  guard (["highest_efficiency_class", "lowest_efficiency_class"].all (absentOrUnsigned host))
  guard (absentOrUnsigned host "sampled_at_us")
  pure host

/-- The document says which build it is from, and that build was clean. The build id and the revision
are texts once they are not empty, and so they are compared as texts. -/
def validProvenance (root : JsonObject) : Bool :=
  ["source_git_sha", "native_build_id", "native_source_fingerprint", "rustc_version"].all
      (nonemptyString root) &&
    decide (root.text "source_git_sha" = root.text "native_build_id" ∧
      root.truth "dirty_worktree" = some false)

/-- The scheduling aids of the measurement are those that the program plays with. -/
def validSchedulingAids (value : Option JsonValue) : Bool :=
  let aids := value.bind JsonValue.asObject
  let mmcss := aids.bind (JsonObject.text "mmcss_acquired")
  let mmcssActive := aids.bind (JsonObject.truth "mmcss_active")
  let powerActive := aids.bind (JsonObject.truth "power_throttling_active")
  let waiterMode := aids.bind (JsonObject.text "waiter_mode")
  powerActive.isSome && mmcss.any fun mmcss => mmcssActive.any fun mmcssActive =>
    waiterMode.any fun waiterMode =>
      ["off", "mmcss:Games", "thread:highest", "thread:time_critical"].contains mmcss &&
      mmcssActive == (mmcss != "off") &&
      ["event+high_resolution_timer", "high_resolution_timer", "event+timer_resolution_fallback",
        "timer_resolution_fallback"].contains waiterMode &&
      ["off", "mmcss:Games", "thread:highest"].contains mmcss &&
      waiterMode == "event+high_resolution_timer"

/-- The document is of the present schema, protocol and formula. -/
def compatibleHeader (root : JsonObject) : Bool := decide
  (root.unsigned "version" = some calibrationCacheVersion ∧
    root.text "evidence_kind" = some calibrationEvidenceKind ∧
    root.unsigned "artifact_schema_version" = some calibrationArtifactSchemaVersion ∧
    root.unsigned "native_calibration_version" = some calibrationNativeVersion ∧
    root.unsigned "measurement_protocol_version" = some calibrationMeasurementProtocolVersion ∧
    root.text "source" = some "device_cache" ∧
    root.unsigned "source_formula_version" = some calibrationSourceFormulaVersion)

/-- The magnitude of a signed word, which overflows for the least one. -/
def checkedAbs (value : ℤ) : Option ℕ := if value = -2 ^ 63 then none else some value.natAbs

/-- A shrink is one that is believed. -/
def checkShrink (value : ℤ) : Except ReadFailure Unit := do
  let magnitude ← okOr .stops (checkedAbs value)
  failIf (calibrationMaxShrinkUs < magnitude) .invalid

/-- The quantiles of a measurement are complete, ordered and of a size that is believed. -/
def validSignedQuantiles (bucket : JsonObject) (unsignedValues : Bool) (field : String) :
    Except ReadFailure Unit := do
  let parsed ← okOr .invalid (signedQuantiles field bucket)
  failIf (¬parsed.IsOrdered) .invalid
  parsed.ordered.forM fun value =>
    if unsignedValues then failIf (value < 0) .invalid else checkShrink value

/-- The counters of a bucket with enough clean samples and without a lost one. -/
def Publishable (clean : Option ℕ) (bucket : JsonObject) : Prop :=
  ∃ attempted rejected, bucket.unsigned "attempted" = some attempted ∧
    bucket.unsigned "rejected" = some rejected ∧ clean = some calibrationSampleCount ∧
    calibrationSampleCount ≤ attempted ∧ attempted ≤ calibrationSampleCount * 2 ∧
    rejected = attempted - calibrationSampleCount ∧
    bucket.unsigned "anomaly_count" = some rejected ∧
    bucket.unsigned "class_mismatch_count" = some rejected ∧
    bucket.unsigned "timeout_count" = some 0 ∧ bucket.unsigned "partial_send" = some 0

/-- The counters of a bucket are those of a complete measurement. -/
def checkCounters (bucket : JsonObject) : Except ReadFailure Unit := do
  let attempted ← okOr .invalid (bucket.unsigned "attempted")
  let clean ← okOr .invalid (bucket.unsigned "clean_pair_count")
  let rejected ← okOr .invalid (bucket.unsigned "rejected")
  failIf (¬(calibrationSampleCount ≤ attempted ∧ attempted ≤ calibrationSampleCount * 2) ∨
    clean ≠ calibrationSampleCount ∨ rejected ≠ attempted - clean) .invalid
  failIf (bucket.unsigned "anomaly_count" ≠ some rejected ∨
    bucket.unsigned "class_mismatch_count" ≠ some rejected ∨
    bucket.unsigned "timeout_count" ≠ some 0 ∨ bucket.unsigned "partial_send" ≠ some 0) .invalid

/-- One required bucket, with the greatest shrink of its calls. -/
def checkBucket (buckets : JsonObject) (key : String) : Except ReadFailure ℤ := do
  let bucket ← okOr .invalid (buckets.members key)
  checkCounters bucket
  shrinkQuantiles.forM (validSignedQuantiles bucket false)
  callQuantiles.forM (validSignedQuantiles bucket true)
  okOr .invalid ((bucket.members "sendinput_shrink_us").bind (JsonObject.signed "max"))

/-- The greatest shrink so far and its bucket, after one more bucket. -/
def raiseWorst (worst : ℤ × String) (key : String) (bucketMax : ℤ) : ℤ × String :=
  if worst.1 < bucketMax then (bucketMax, key) else worst

/-- The document lists the required buckets, in their order. -/
def requiredListed (root : JsonObject) : Bool :=
  ((root.get "required_buckets").bind JsonValue.asArray).any fun required =>
    decide (required.map JsonValue.asStr = calibrationRequiredBuckets.map some)

/-- The buckets of a document are the required ones. -/
def bucketsComplete (buckets : JsonObject) : Bool :=
  decide (buckets.len = calibrationRequiredBuckets.length) &&
    calibrationRequiredBuckets.all fun key => (buckets.get key).isSome

/-- The greatest shrink of all buckets that is not negative, and the bucket it is from. -/
def validPairBuckets (root : JsonObject) : Except ReadFailure (ℤ × String) := do
  failIf (requiredListed root = false) .invalid
  let buckets ← okOr .invalid (root.members "pair_buckets")
  failIf (bucketsComplete buckets = false) .invalid
  let worst ← calibrationRequiredBuckets.foldlM
    (fun worst key => raiseWorst worst key <$> checkBucket buckets key) (0, "1/hot")
  pure (max worst.1 0, worst.2)

/-- What the evidence says about the reserve. -/
structure QualificationValues where
  status : Option String
  worstBucket : String
  globalTransport : ℤ
  candidate : ℕ
  applied : Option ℕ
  expectedStatus : String
  deriving DecidableEq, Repr

/-- The status, the candidate and the reserve that follow from the greatest shrink. -/
def qualificationValues (globalTransport : ℤ) : Option (String × ℕ × Option ℕ) :=
  (checkedAdd 64 globalTransport.toNat 100).map fun candidate =>
    if 2000 < candidate then ("out_of_envelope", candidate, none)
    else ("valid", candidate, some (max 300 candidate))

/-- The document repeats what follows from its evidence. -/
def qualificationMatches (root qualification : JsonObject) (values : QualificationValues) : Bool :=
  decide (qualification.text "worst_bucket" = some values.worstBucket ∧
    qualification.text "basis" = some "max_required_bucket_max_positive_sendinput_shrink" ∧
    qualification.signed "transport_worst_positive_us" = some values.globalTransport ∧
    qualification.unsigned "guard_us" = some 100 ∧ qualification.unsigned "floor_us" = some 300 ∧
    qualification.unsigned "ceiling_us" = some 2000 ∧
    qualification.unsigned "candidate_transport_margin_us" = some values.candidate ∧
    qualification.unsigned "applied_transport_margin_us" = values.applied ∧
    values.status = some values.expectedStatus ∧ root.text "status" = values.status ∧
    root.unsigned "transport_margin_us" = values.applied ∧
    root.text "transport_margin_source" = some calibrationMarginSourceDevice ∧
    root.signed "transport_worst_positive_us" = some values.globalTransport ∧
    root.unsigned "transport_guard_us" = some 100 ∧
    root.unsigned "transport_floor_us" = some 300 ∧
    root.unsigned "transport_ceiling_us" = some 2000 ∧
    root.truth "calibration_timing_qualified" = some (values.expectedStatus == "valid"))

/-- The reserve that the evidence gives, if the document says the same and is for this host. -/
def qualifiedMargin (hostMatchesCurrent : JsonObject → Bool) (root qualification host : JsonObject)
    (worst : ℤ × String) : Except ReadFailure ℕ := do
  let (expectedStatus, candidate, applied) ← okOr .stops (qualificationValues worst.1)
  let status := (qualification.text "status").or (root.text "status")
  let agrees := qualificationMatches root qualification
    ⟨status, worst.2, worst.1, candidate, applied, expectedStatus⟩
  failIf (status = some "out_of_envelope" ∧ agrees = false) .invalid
  failIf (status = some "out_of_envelope") .outOfEnvelope
  failIf (agrees = false ∨ status ≠ some "valid") .invalid
  let margin ← okOr .stops applied
  failIf (hostMatchesCurrent host = false) .incompatible
  pure margin

/-- The reserve of a document. -/
def readMargin (hostMatchesCurrent : JsonObject → Bool) (document : JsonValue) :
    Except ReadFailure ℕ := do
  let root ← okOr .invalid document.asObject
  failIf (compatibleHeader root = false) .incompatible
  let qualification ← okOr .invalid (root.members "qualification")
  let host ← okOr .invalid (validHostFingerprint (root.get "host_fingerprint"))
  failIf ((validProvenance root && validSchedulingAids (root.get "scheduling_aids")) = false) .invalid
  let worst ← validPairBuckets root
  qualifiedMargin hostMatchesCurrent root qualification host worst

/-- What is found where the cache is kept. -/
inductive CacheFile where
  | unreadable
  | malformed
  | document (value : JsonValue)

/-- The reserve that the cache gives, or none if the program stops. -/
def loadCalibrationResolution (hostMatchesCurrent : JsonObject → Bool) :
    CacheFile → Option CalibrationResolution
  | .unreadable => some (.fallback calibrationMarginSourceDefault)
  | .malformed => some (.fallback calibrationMarginSourceInvalid)
  | .document value =>
    match readMargin hostMatchesCurrent value with
    | .ok margin => some ⟨margin, true, calibrationMarginSourceDevice⟩
    | .error (.fallback source) => some (.fallback source)
    | .error .stops => none

end SkyAutoPlayer.NativeAdapters
