import MacroLoader.GoldCatalog
import MacroLoader.Replica

/-!
# Synchronizing the replica with the current build

The synchronizer finds the current build in the catalog, reads its data file,
compares it with the stored digests, and writes the difference, all the writes
in one locked transaction. What it may meet there is arbitrary: the tables, the
index and the state can each have drifted from the others. It trusts none of
them. After the writes it reads the tables and the index again, and it commits
only if both agree with the source (`wp_syncLocked`), so that no analysis of what
the drift was is needed to know what a commit leaves behind.
-/

open Transaction Program

/-- The data files of the builds. The files of a build never change, so reading
one twice gives the same bytes. -/
structure GoldSource where
  /-- `validate_bundle`: the integrity of the bundle of a record. -/
  validateBundle : GoldCatalogRecord → Except PyError Unit
  /-- The bytes under a path. -/
  readBytes : String → Except PyError Bytes

/-- What a synchronization is given: the catalog, the data files, whether the
schema of the database passes the preflight, and the clock. -/
structure GoldPostgresDeltaSync where
  catalog : Except PyError (List GoldCatalogRecord)
  source : GoldSource
  preflightSchema : Except PyError Unit
  now : PyDatetime

section Checks

/-- `GoldSyncSourceError`. -/
abbrev goldSyncSourceError (message : String) : PyError := ⟨.goldSyncSourceError, message⟩

/-- `GoldSyncVerificationError`. -/
abbrev goldSyncVerificationError (message : String) : PyError :=
  ⟨.goldSyncVerificationError, message⟩

/-- `select_current_sync_record`. -/
def selectCurrentSyncRecord (records : List GoldCatalogRecord) :
    Except PyError GoldCatalogRecord := do
  let compatibility : GoldCompatibility := ⟨goldSchemaVersion, goldFeatureVersion⟩
  let record ← strictCurrent records compatibility
  check (record.datasetId = postgresDatasetId)
    (.lookupError "Gold current row belongs to unsupported PostgreSQL dataset")
  check (compatibility.matches record = true)
    (.lookupError "Gold current row semantic versions are not PostgreSQL-sync compatible")
  return record

/-- `_validate_bundle`: an error of a class that a broken bundle raises becomes a
source error. -/
def validateBundle (source : GoldSource) (record : GoldCatalogRecord) : Except PyError Unit :=
  match source.validateBundle record with
  | .ok () => .ok ()
  | .error e =>
    if e.kind ∈ [ErrorKind.osError, .typeError, .valueError] then
      .error (goldSyncSourceError "current Gold bundle integrity verification failed")
    else .error e

/-- `_required_data_path`. -/
def requiredDataPath (record : GoldCatalogRecord) : Except PyError String :=
  match record.dataPath with
  | none => .error (goldSyncSourceError "current complete Gold catalog row has no data path")
  | some path =>
    if path = "" then
      .error (goldSyncSourceError "current complete Gold catalog row has no data path")
    else .ok path

/-- `_utc` on a date-time of the catalog, which is in UTC if it is aware. -/
def utcInstant (value : PyDatetime) : Except PyError Timestamp :=
  if value.isAware then .ok value.instant
  else .error (.valueError "PostgreSQL Gold sync timestamps must be zero-offset UTC")

/-- `_utc` on a nullable date-time. -/
def utcInstant? : Option PyDatetime → Except PyError (Option Timestamp)
  | none => .ok none
  | some value => (utcInstant value).map some

/-- `_desired_state`: the state the replica is to have for a record. -/
def desiredState (record : GoldCatalogRecord) (dataSha256 : Sha256Hex) (now : PyDatetime) :
    Except PyError GoldSyncState :=
  match record.rowCount with
  | none => .error (goldSyncSourceError "current complete Gold catalog row has no row_count")
  | some rowCount => do
    check (now.isAware = true)
      (goldSyncSourceError "Gold PostgreSQL sync clock must be timezone-aware")
    check (0 ≤ rowCount) (.valueError "row_count cannot be negative")
    let minTimestamp ← utcInstant? record.minTimestamp
    let maxTimestamp ← utcInstant? record.maxTimestamp
    GoldSyncState.validate
      { datasetId := postgresDatasetId
        sourceBuildId := record.buildId
        dataSha256 := dataSha256
        schemaVersion := record.schemaVersion
        featureVersion := record.featureVersion
        rowCount := rowCount
        minTimestamp := minTimestamp
        maxTimestamp := maxTimestamp
        syncedAtUtc := now.instant }

/-- `_is_schema_only_upgrade`. -/
def isSchemaOnlyUpgrade (prior desired : GoldSyncState) : Bool :=
  prior.featureVersion == desired.featureVersion
    && desired.featureVersion == goldFeatureVersion
    && decide (7 ≤ prior.schemaVersion) && decide (prior.schemaVersion < desired.schemaVersion)
    && decide (desired.schemaVersion ≤ goldSchemaVersion)

/-- Whether two states are one supported step of schema and feature version
apart. -/
def isVersionStep (prior desired : GoldSyncState) (schema feature : ℤ) : Bool :=
  prior.schemaVersion == schema && desired.schemaVersion == schema + 1
    && prior.featureVersion == feature && desired.featureVersion == feature + 1

/-- The steps from schema 2 to schema 7, each with the feature version it starts
from. -/
def versionSteps : List (ℤ × ℤ) := [(2, 1), (3, 2), (4, 3), (5, 4), (6, 5)]

/-- `_require_state_compatible`. -/
def stateCompatible (prior : Option GoldSyncState) (desired : GoldSyncState) : Bool :=
  match prior with
  | none => true
  | some prior =>
    (prior.schemaVersion == 1 && desired.schemaVersion == 2
        && prior.featureVersion == desired.featureVersion)
      || versionSteps.any (fun step => isVersionStep prior desired step.1 step.2)
      || isSchemaOnlyUpgrade prior desired
      || (prior.schemaVersion == desired.schemaVersion
        && prior.featureVersion == desired.featureVersion)

/-- `_is_schema_upgrade`. -/
def isSchemaUpgrade (prior : Option GoldSyncState) (desired : GoldSyncState) : Bool :=
  match prior with
  | none => false
  | some prior =>
    versionSteps.any (fun step => isVersionStep prior desired step.1 step.2)
      || isSchemaOnlyUpgrade prior desired

/-- `_same_data`. -/
def sameData (prior desired : GoldSyncState) : Bool :=
  prior.dataSha256.1 == desired.dataSha256.1
    && prior.schemaVersion == desired.schemaVersion
    && prior.featureVersion == desired.featureVersion
    && prior.rowCount == desired.rowCount
    && prior.minTimestamp == desired.minTimestamp
    && prior.maxTimestamp == desired.maxTimestamp

/-- `_validate_frame_metadata`. -/
def validateFrameMetadata (frame : GoldFrame) (record : GoldCatalogRecord) :
    Except PyError Unit :=
  match record.rowCount with
  | none => .error (goldSyncSourceError "current complete Gold catalog row has no row_count")
  | some rowCount =>
    if (frame.rows.length : ℤ) ≠ rowCount then
      .error (goldSyncSourceError "current Gold row count differs from catalog metadata")
    else if frame.timestamps.min?.map PyDatetime.utc ≠ record.minTimestamp
        ∨ frame.timestamps.max?.map PyDatetime.utc ≠ record.maxTimestamp then
      .error (goldSyncSourceError "current Gold timestamp bounds differ from catalog metadata")
    else .ok ()

end Checks

section Sync

variable (sha256 : Bytes → Sha256Hex) (decodeFrame : Bytes → Except PyError GoldFrame)

/-- `_require_matching_digests`: two digest maps must be the same. -/
def requireMatchingDigests (source target : KeyedTable Timestamp Sha256Hex)
    (targetName : String) : Transaction Unit :=
  require (source = target)
    (goldSyncVerificationError ("PostgreSQL Gold " ++ targetName
      ++ " do not match canonical source"))

/-- The checks of the stored state against the index and the consumer rows. -/
def verifyTarget (prior : Option GoldSyncState) (desired : GoldSyncState)
    (targetDigests consumerDigests : KeyedTable Timestamp Sha256Hex) : Transaction Unit := do
  require (prior = none → targetDigests.rows = [])
    (goldSyncVerificationError "PostgreSQL Gold digests exist without authoritative sync state")
  require (prior = none → consumerDigests.rows = [])
    (goldSyncVerificationError
      "PostgreSQL Gold consumer rows exist without authoritative sync state")
  require (∀ state ∈ prior, (targetDigests.rows.length : ℤ) = state.rowCount)
    (goldSyncVerificationError
      "PostgreSQL Gold digest count does not match authoritative sync state")
  if isSchemaUpgrade prior desired then pure ()
  else requireMatchingDigests targetDigests consumerDigests "consumer rows"

/-- The checks of the plan against the stored state. -/
def verifyPlan (prior : Option GoldSyncState) (desired : GoldSyncState)
    (targetDigests : KeyedTable Timestamp Sha256Hex) (plan : GoldDeltaPlan) :
    Transaction Unit := do
  match prior with
  | none => pure ()
  | some state =>
    if sameData state desired then
      requireMatchingDigests plan.sourceDigests targetDigests "digest index"
    else
      require (plan.isEmpty = false ∨ isSchemaUpgrade prior desired = true)
        (goldSyncVerificationError "PostgreSQL Gold sync state does not match canonical source")

/-- The frame of the current build, with its metadata checked. Reading the file as
a frame with the canonical columns and types is the part of the file format. -/
def readSourceFrame (source : GoldSource) (path : String) (record : GoldCatalogRecord) :
    Except PyError GoldFrame := do
  let bytes ← source.readBytes path
  let frame ← decodeFrame bytes
  validateFrameMetadata frame record
  return frame

/-- **`_sync_locked`.** -/
def syncLocked (source : GoldSource) (record : GoldCatalogRecord) (path : String)
    (desired : GoldSyncState) : Transaction GoldSyncResult := do
  let prior ← readState postgresDatasetId
  require (stateCompatible prior desired = true)
    ⟨.goldSyncCompatibilityError,
      "PostgreSQL Gold semantic versions differ from current canonical Gold"⟩
  let targetDigests ← readDigests postgresDatasetId
  let consumerDigests ← readConsumerDigests sha256
  verifyTarget prior desired targetDigests consumerDigests
  let frame ← ofExcept (readSourceFrame decodeFrame source path record)
  let plan ← ofExcept (planGoldDelta sha256 frame targetDigests prior)
  verifyPlan prior desired targetDigests plan
  applyDelta sha256 postgresDatasetId plan desired
  return ⟨record.buildId, plan.inserts.length, plan.updates.length, plan.deletes.length,
    plan.unchanged.length⟩

/-- What `sync` finds out before it locks the replica: the record of the current
build, the path of its data, and the state the replica is to have. -/
def prepareSync (env : GoldPostgresDeltaSync) :
    Except PyError (GoldCatalogRecord × String × GoldSyncState) := do
  let records ← env.catalog
  let record ← selectCurrentSyncRecord records
  validateBundle env.source record
  env.preflightSchema
  let path ← requiredDataPath record
  let bytes ← env.source.readBytes path
  let desired ← desiredState record (sha256 bytes) env.now
  return (record, path, desired)

/-- **`GoldPostgresDeltaSync.sync`.** -/
def sync (env : GoldPostgresDeltaSync) : Transaction GoldSyncResult := do
  let prepared ← ofExcept (prepareSync sha256 env)
  runLocked (syncLocked sha256 decodeFrame env.source prepared.1 prepared.2.1 prepared.2.2)

end Sync
