import MacroLoader.Calendar
import MacroLoader.GoldDelta
import MacroLoader.GoldCatalogRepository

/-!
# The manifest of a build

A build is three files: the data, a manifest that describes it, and a picture.
The manifest is written by one set of functions and read by another, in another
process and perhaps years later, and all they share is the JSON value. So the
value is what is modelled: `GoldBuildManifest.asDict` is what the writer puts
there, and the reader of `GoldSyncSource` looks it up key by key.

Parquet, JSON texts, the picture and SHA-256 are the formats of others. They
are the fields of `GoldFormats`, and what is assumed of them is said where it
is used.
-/

/-! ## JSON values -/

/-- A JSON value, without fractional numbers, of which no manifest has any. -/
inductive Json
  | null
  | bool (value : Bool)
  | int (value : ℤ)
  | string (value : String)
  | array (items : List Json)
  | object (fields : List (String × Json))

namespace Json

/-- `bool` is a kind of `int` in Python, and a truth value is the number that it is. -/
def asInt? : Json → Option ℤ
  | bool value => some (if value then 1 else 0)
  | int value => some value
  | _ => none

def asString? : Json → Option String
  | string value => some value
  | _ => none

/-- The value of a key, if the JSON value is an object and has the key. -/
def get? (value : Json) (key : String) : Option Json :=
  match value with
  | object fields => (fields.find? (fun field => field.1 == key)).map Prod.snd
  | _ => none

/-- `payload.get(key) == text`. -/
def hasString (value : Json) (key text : String) : Bool :=
  (value.get? key).any (fun item => item.asString? == some text)

/-- `payload.get(key) == number`. -/
def hasInt (value : Json) (key : String) (number : ℤ) : Bool :=
  (value.get? key).any (fun item => item.asInt? == some number)

/-- `payload.get(key) is None`. -/
def hasNone (value : Json) (key : String) : Bool :=
  match value.get? key with
  | none | some null => true
  | _ => false

/-- `payload.get(key) == texts`, of a list of texts. -/
def hasStrings (value : Json) (key : String) (texts : List String) : Bool :=
  match value.get? key with
  | some (array items) => items.map asString? == texts.map some
  | _ => false

/-- The value of an optional text. -/
def ofString? : Option String → Json
  | none => null
  | some text => string text

/-- `payload.get(key) == text`, of a text that may be `None`. -/
def hasString? (value : Json) (key : String) : Option String → Bool
  | none => value.hasNone key
  | some text => value.hasString key text

end Json

/-! ## Formats -/

/-- `re.fullmatch(r"[0-9a-f]{40,64}", text)`. -/
def isGitHash (text : String) : Bool :=
  decide (40 ≤ text.length ∧ text.length ≤ 64)
    && text.toList.all (fun c => c ∈ "0123456789abcdef".toList)

/-- **The formats of others**, and the two settings that a builder of manifests
is constructed with. -/
structure GoldFormats where
  /-- `frame.write_parquet`. -/
  encodeFrame : GoldFrame → Bytes
  /-- `polars.read_parquet`, and whether the columns and their types are the
  canonical ones. -/
  decodeFrame : Bytes → Except PyError GoldFrame
  /-- `json.dumps` with sorted keys, and a line feed. -/
  dumps : Json → Bytes
  /-- `json.loads`. -/
  loads : Bytes → Except PyError Json
  sha256 : Bytes → Sha256Hex
  /-- The feature profile, a picture. -/
  renderProfile : GoldFrame → Except PyError Bytes
  /-- `git_commit_hash`, which the constructor of the builder checks. -/
  gitCommitHash : { text : String // isGitHash text = true }
  /-- `GOLD_FORMULA_PARAMETERS`. -/
  formulaParameters : Json

/-- `_PNG_SIGNATURE`. -/
def pngSignature : Bytes := [0x89, 0x50, 0x4E, 0x47, 0x0D, 0x0A, 0x1A, 0x0A]

/-- `payload.startswith(_PNG_SIGNATURE)`. -/
def isPng (payload : Bytes) : Bool := pngSignature.isPrefixOf payload

/-- `_utc_text`, under the message of the module it is in. -/
def utcText (message : String) (value : PyDatetime) : Except PyError String :=
  if value.isAware then .ok (instantText value.instant) else .error (.valueError message)

/-- `_utc`, under the message of the module it is in. -/
def utcDatetime (message : String) (value : PyDatetime) : Except PyError PyDatetime :=
  if value.isAware then .ok value else .error (.valueError message)

theorem utcDatetime_eq_ok {message : String} {value value' : PyDatetime}
    (h : utcDatetime message value = .ok value') : value' = value ∧ value.isAware = true := by
  unfold utcDatetime at h
  split_ifs at h with haware
  exact ⟨(Except.ok.inj h).symm, haware⟩

/-! ## Frames -/

/-- `GOLD_COLUMNS`. -/
def goldColumnNames : List String := "timestamp_m1" :: rawFeatureColumns.map GoldColumn.name

namespace GoldFrame

/-- `_validate_frame`, of a frame with the canonical columns and types. -/
def validate (frame : GoldFrame) : Except PyError Unit := do
  check (frame.rows.all (fun row => row.1.isSome) = true)
    (.valueError "Gold timestamp_m1 cannot be null")
  check frame.timestamps.Nodup (.valueError "Gold timestamp_m1 must be unique")
  -- a frame without duplicates is equal to its sorted self if it is increasing
  check (frame.timestamps.Pairwise (· < ·))
    (.valueError "Gold timestamp_m1 must be strictly increasing")

/-- A bound of the timestamps as a Python date-time, if there is one. -/
def loadBound : Option Timestamp → Except PyError (Option PyDatetime)
  | none => .ok none
  | some t => (loadDatetime t).map (fun t => some (.utc t))

/-- The least and the greatest timestamp. -/
def bounds (frame : GoldFrame) : Except PyError (Option PyDatetime × Option PyDatetime) := do
  let minimum ← loadBound frame.timestamps.min?
  let maximum ← loadBound frame.timestamps.max?
  return (minimum, maximum)

end GoldFrame

/-! ## The manifest -/

/-- `SilverInputSignature`: which Silver rows a build was made of. -/
structure SilverInputSignature where
  seriesId : String
  rowCount : ℤ
  minObservationDate : Option Date
  maxObservationDate : Option Date
  sha256 : String
  deriving DecidableEq

/-- **The manifest of a build.** -/
structure GoldBuildManifest where
  datasetId : String
  buildId : String
  artifactState : String
  manifestVersion : ℤ
  schemaVersion : ℤ
  featureVersion : ℤ
  startedAtUtc : String
  completedAtUtc : String
  rowCount : ℤ
  columns : List String
  minTimestamp : Option String
  maxTimestamp : Option String
  dataPath : String
  dataSha256 : String
  featureSetHash : String
  gitCommitHash : String
  inputs : List SilverInputSignature
  plotPath : String
  deriving DecidableEq

/-- `CURRENT_MANIFEST_VERSION`. -/
def currentManifestVersion : ℤ := 2

/-- `LEGACY_MANIFEST_VERSION`. -/
def legacyManifestVersion : ℤ := 1

/-- The entry of an input. -/
def SilverInputSignature.asDict (signature : SilverInputSignature) : Json :=
  .object
    [("max_observation_date", .ofString? (signature.maxObservationDate.map dateText)),
      ("min_observation_date", .ofString? (signature.minObservationDate.map dateText)),
      ("row_count", .int signature.rowCount), ("series_id", .string signature.seriesId),
      ("sha256", .string signature.sha256)]

namespace GoldBuildManifest

/-- `provenance_certified`. -/
def provenanceCertified (m : GoldBuildManifest) : Bool :=
  m.manifestVersion == currentManifestVersion && !m.inputs.isEmpty

/-- `as_dict`. -/
def asDict (m : GoldBuildManifest) : Json :=
  .object
    [("artifact_state", .string m.artifactState), ("build_id", .string m.buildId),
      ("columns", .array (m.columns.map .string)), ("completed_at_utc", .string m.completedAtUtc),
      ("data_path", .string m.dataPath), ("data_sha256", .string m.dataSha256),
      ("dataset_id", .string m.datasetId), ("feature_set_hash", .string m.featureSetHash),
      ("feature_version", .int m.featureVersion), ("git_commit_hash", .string m.gitCommitHash),
      ("inputs", .array (m.inputs.map SilverInputSignature.asDict)),
      ("manifest_version", .int m.manifestVersion), ("max_timestamp", .ofString? m.maxTimestamp),
      ("min_timestamp", .ofString? m.minTimestamp), ("plot_path", .string m.plotPath),
      ("row_count", .int m.rowCount), ("schema_version", .int m.schemaVersion),
      ("started_at_utc", .string m.startedAtUtc)]

end GoldBuildManifest

/-- `expected_manifest_keys()`. -/
def expectedManifestKeys : List String :=
  ["artifact_state", "build_id", "columns", "completed_at_utc", "data_path", "data_sha256",
    "dataset_id", "feature_set_hash", "feature_version", "git_commit_hash", "inputs",
    "manifest_version", "max_timestamp", "min_timestamp", "plot_path", "row_count",
    "schema_version", "started_at_utc"]

/-- The keys of an object, in order. -/
def Json.keys : Json → List String
  | object fields => (fields.map Prod.fst).insertionSort (· ≤ ·)
  | _ => []

section Builder

variable (formats : GoldFormats)

/-- `feature_set_sha256`: a digest of the versions, the columns and the formulas.
The frame enters it by its columns alone, which are the canonical ones. -/
def featureSetSha256 (schemaVersion featureVersion : ℤ) : Sha256Hex :=
  formats.sha256 (formats.dumps (.object
    [("columns", .array (goldColumnNames.map (fun name => .object
        [("dtype", .string (if name = "timestamp_m1" then
            "Datetime(time_unit='us', time_zone='UTC')" else "Float64")),
          ("name", .string name)]))),
      ("feature_version", .int featureVersion), ("formula_parameters", formats.formulaParameters),
      ("schema_version", .int schemaVersion)]))

/-- `_validate_inputs`. -/
def validateInputs (inputs : List SilverInputSignature) : Except PyError Unit := do
  check (inputs.map (·.seriesId) = goldSourceSeries.map Series.id)
    (.valueError "Gold input provenance series order mismatch")
  inputs.forM (fun signature => do
    check (0 ≤ signature.rowCount)
      (.valueError "Gold input provenance row count cannot be negative")
    check (isSha256Hex signature.sha256 = true)
      (.valueError "Gold input provenance SHA-256 is invalid")
    check (∀ a ∈ signature.minObservationDate, ∀ b ∈ signature.maxObservationDate, a ≤ b)
      (.valueError "Gold input provenance date bounds are invalid"))

/-- `_utc_text` of the sidecars. -/
def sidecarText (value : PyDatetime) : Except PyError String :=
  utcText "Gold sidecar timestamps must be timezone-aware" value

/-- `_utc_text` of the sidecars on a bound. -/
def sidecarText? : Option PyDatetime → Except PyError (Option String)
  | none => .ok none
  | some value => (sidecarText value).map some

/-- **`GoldSidecarBuilder.build`.** -/
def buildManifest (frame : GoldFrame) (buildId : String) (startedAtUtc completedAtUtc : PyDatetime)
    (dataPath : String) (dataSha256 : Sha256Hex) (plotPath : String)
    (inputs : List SilverInputSignature) : Except PyError GoldBuildManifest := do
  let started ← sidecarText startedAtUtc
  let completed ← sidecarText completedAtUtc
  check (startedAtUtc.instant ≤ completedAtUtc.instant)
    (.valueError "Gold build completion cannot precede start")
  let (minimum, maximum) ← frame.bounds
  if inputs.isEmpty then pure () else validateInputs inputs
  let minTimestamp ← sidecarText? minimum
  let maxTimestamp ← sidecarText? maximum
  return {
    datasetId := postgresDatasetId
    buildId := buildId
    artifactState := "built"
    manifestVersion := if inputs.isEmpty then legacyManifestVersion else currentManifestVersion
    schemaVersion := goldSchemaVersion
    featureVersion := goldFeatureVersion
    startedAtUtc := started
    completedAtUtc := completed
    rowCount := frame.rows.length
    columns := goldColumnNames
    minTimestamp := minTimestamp
    maxTimestamp := maxTimestamp
    dataPath := dataPath
    dataSha256 := dataSha256
    featureSetHash := featureSetSha256 formats goldSchemaVersion goldFeatureVersion
    gitCommitHash := formats.gitCommitHash
    inputs := inputs
    plotPath := plotPath }

end Builder
