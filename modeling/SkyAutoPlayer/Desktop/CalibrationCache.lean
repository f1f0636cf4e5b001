import Mathlib.Order.Bounds.Defs
import SkyAutoPlayer.Desktop.Calibration
import SkyAutoPlayer.NativeAdapters.CalibrationBounds

/-!
# Writing the calibration cache

The evidence of the child process is checked and turned into the cache that the reader accepts. The
buckets are flattened, the greatest shrink of their calls gives the margin, and the document is written to
a temporary file. That file is read back before it takes the place of the cache.

The two sides were written apart. The writer takes call durations as unsigned words and magnitudes
without overflow, where the reader takes signed words and stops at the least one. Creating the directory,
naming the file, serialising and writing are one answer of the environment.
-/

namespace SkyAutoPlayer.Desktop

open Foundation NativeAdapters

/-- Why no cache is prepared: the program stops, or the evidence is refused. -/
inductive PublishFailure where
  | stops
  | refused (message : String)
  deriving DecidableEq, Repr

/-- The unsigned quantiles of a measurement. -/
def unsignedQuantiles (field : String) (bucket : JsonObject) : Option (Quantiles ℕ) :=
  (bucket.members field).bind fun values => Quantiles.read (JsonObject.unsigned · values)

/-- The parts of a key before and after the first slash. -/
def splitOnce (key : String) : Option (String × String) :=
  match key.toList.dropWhile (· ≠ '/') with
  | [] => none
  | _ :: rest => some (String.ofList (key.toList.takeWhile (· ≠ '/')), String.ofList rest)

instance (quantiles : Quantiles ℤ) : Decidable quantiles.WithinShrink :=
  inferInstanceAs (Decidable (∀ _ ∈ _, _))

/-- The quantiles of a shrink are complete, ordered and of a size that is believed. -/
def validateSignedQuantiles (bucket : JsonObject) (field message : String) :
    Except PublishFailure Unit := do
  let values ← okOr (.refused message) (signedQuantiles field bucket)
  failIf (¬values.IsOrdered ∨ ¬values.WithinShrink) (.refused message)

/-- The quantiles of a call duration are complete and ordered. -/
def validateUnsignedQuantiles (bucket : JsonObject) (field message : String) :
    Except PublishFailure Unit := do
  let values ← okOr (.refused message) (unsignedQuantiles field bucket)
  failIf (¬values.IsOrdered) (.refused message)

/-- A bucket of the child with its clean samples under the reader's name, the greatest shrink of its calls
and the number of its clean samples. -/
def prepareBucket (source : JsonObject) (key : String) :
    Except PublishFailure (JsonObject × ℤ × ℕ) := do
  let (polyphony, className) ← okOr .stops (splitOnce key)
  let bucket ← okOr (.refused s!"calibration bucket is missing: {key}")
    ((source.members polyphony).bind (JsonObject.members className))
  let clean ← okOr (.refused s!"calibration clean count is missing: {key}")
    ((bucket.unsigned "clean").or (bucket.unsigned "clean_pair_count"))
  let attempted ← okOr (.refused s!"calibration attempted count is missing: {key}")
    (bucket.unsigned "attempted")
  failIf (¬(calibrationSampleCount ≤ attempted ∧ attempted ≤ calibrationSampleCount * 2) ∨
    clean ≠ calibrationSampleCount) (.refused s!"calibration bucket is not publishable: {key}")
  let rejected ← okOr (.refused s!"calibration rejected count is missing: {key}")
    (bucket.unsigned "rejected")
  failIf (rejected ≠ attempted - clean ∨ bucket.unsigned "anomaly_count" ≠ some rejected ∨
    bucket.unsigned "class_mismatch_count" ≠ some rejected ∨
    bucket.unsigned "timeout_count" ≠ some 0 ∨ bucket.unsigned "partial_send" ≠ some 0)
    (.refused s!"calibration bucket counters are not publishable: {key}")
  shrinkQuantiles.forM fun quantiles =>
    validateSignedQuantiles bucket quantiles s!"calibration {quantiles} is invalid: {key}"
  callQuantiles.forM fun quantiles =>
    validateUnsignedQuantiles bucket quantiles s!"calibration {quantiles} is invalid: {key}"
  let flat := bucket.insert "clean_pair_count" (.ofNat clean)
  let shrink ← okOr (.refused s!"calibration sendinput quantile is missing: {key}")
    ((flat.members "sendinput_shrink_us").bind (JsonObject.signed "max"))
  pure (flat, shrink, clean)

/-- The buckets that are flattened, their greatest shrink, its bucket and all clean samples. -/
structure PublishedBuckets where
  flattened : JsonObject
  worst : ℤ
  worstBucket : String
  samples : ℕ

/-- Before the first bucket. -/
def PublishedBuckets.start : PublishedBuckets := ⟨[], 0, "1/hot", 0⟩

/-- With one more bucket. -/
def PublishedBuckets.publish (published : PublishedBuckets) (key : String)
    (prepared : JsonObject × ℤ × ℕ) : PublishedBuckets where
  flattened := published.flattened.insert key (.object prepared.1)
  worst := if published.worst < prepared.2.1 then prepared.2.1 else published.worst
  worstBucket := if published.worst < prepared.2.1 then key else published.worstBucket
  samples := saturatingAdd 64 published.samples prepared.2.2

namespace PublishedBuckets

/-- The greatest shrink with the guard. -/
def candidate (published : PublishedBuckets) : ℤ := min (published.worst + 100) (2 ^ 63 - 1)

/-- The greatest shrink gives a margin. -/
def valid (published : PublishedBuckets) : Bool := decide (published.candidate ≤ 2000)

/-- The margin that is applied. -/
def applied (published : PublishedBuckets) : ℤ := max 300 (min published.candidate 2000)

/-- The margin that is applied, or none out of the envelope. -/
def appliedValue (published : PublishedBuckets) : JsonValue :=
  if published.valid then .ofInt published.applied else .null

/-- What the cache says about its margin. -/
def qualification (published : PublishedBuckets) : JsonObject :=
  [("basis", .string "max_required_bucket_max_positive_sendinput_shrink"),
    ("worst_bucket", .string published.worstBucket),
    ("transport_worst_positive_us", .ofInt (max published.worst 0)), ("guard_us", .ofNat 100),
    ("floor_us", .ofNat 300), ("ceiling_us", .ofNat 2000),
    ("candidate_transport_margin_us", .ofInt published.candidate),
    ("applied_transport_margin_us", published.appliedValue)]

/-- What the cache says of its own, where the evidence may have said something else. -/
def cacheFields (published : PublishedBuckets) : JsonObject :=
  [("version", .ofNat calibrationCacheVersion),
    ("calibration_schema_version", .ofNat calibrationNativeVersion),
    ("artifact_schema_version", .ofNat calibrationArtifactSchemaVersion),
    ("native_calibration_version", .ofNat calibrationNativeVersion),
    ("source_formula_version", .ofNat calibrationSourceFormulaVersion),
    ("source", .string calibrationMarginSourceDevice),
    ("status", .string (if published.valid then "valid" else "out_of_envelope")),
    ("transport_margin_us", published.appliedValue),
    ("transport_margin_source", .string "device_cache"),
    ("transport_worst_positive_us", .ofInt (max published.worst 0)),
    ("transport_guard_us", .ofNat 100), ("transport_floor_us", .ofNat 300),
    ("transport_ceiling_us", .ofNat 2000), ("calibration_timing_qualified", .bool published.valid),
    ("required_buckets", .array (calibrationRequiredBuckets.map .string)),
    ("pair_buckets", .object published.flattened), ("qualification", .object published.qualification)]

end PublishedBuckets

/-- The evidence is of the present protocol, from a clean build. -/
def compatibleEvidence (root : JsonObject) : Bool := decide
  (root.unsigned "version" = some calibrationNativeVersion ∧
    root.unsigned "measurement_protocol_version" = some calibrationMeasurementProtocolVersion ∧
    root.text "evidence_kind" = some calibrationEvidenceKind ∧
    root.truth "dirty_worktree" = some false)

/-- The buckets of the evidence. -/
def publishBuckets (root : JsonObject) : Except PublishFailure PublishedBuckets := do
  failIf (compatibleEvidence root = false)
    (.refused "calibration evidence metadata is incompatible")
  let source ← okOr (.refused "calibration pair buckets are missing") (root.members "pair_buckets")
  calibrationRequiredBuckets.foldlM
    (fun published key => published.publish key <$> prepareBucket source key) .start

/-- A cache in its temporary file. -/
structure PreparedCalibrationCache where
  document : JsonObject
  marginUs : Option ℕ
  sampleCount : ℕ

/-- The cache that the buckets give. -/
def PublishedBuckets.prepared (published : PublishedBuckets) (root : JsonObject) :
    PreparedCalibrationCache where
  document := published.cacheFields ++ root
  marginUs := if published.valid then some published.applied.toNat else none
  sampleCount := published.samples

/-- The cache that the evidence gives, once the reader has accepted the file. -/
def prepareCalibrationCache (hostMatchesCurrent : JsonObject → Bool) (written : Except String Unit)
    (raw : JsonValue) : Except PublishFailure PreparedCalibrationCache := do
  let root ← okOr (.refused "calibration evidence root must be an object") raw.asObject
  let published ← publishBuckets root
  written.mapError .refused
  let prepared := published.prepared root
  let resolution ← okOr .stops
    (loadCalibrationResolution hostMatchesCurrent (.document (.object prepared.document)))
  failIf (resolution.source ≠ calibrationMarginSourceDevice ∧
      resolution.source ≠ calibrationMarginSourceOutOfEnvelope)
    (.refused "published calibration cache failed its compatibility validation")
  pure prepared

end SkyAutoPlayer.Desktop
