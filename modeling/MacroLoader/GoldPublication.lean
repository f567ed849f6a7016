import MacroLoader.GoldBundle

/-!
# Publishing and pruning

Publication is a state machine on the catalog: an attempt is registered as
building, and it ends as the current complete build or as a failed one. The
replacement of the catalog is the only commit point. Retention takes the oldest
complete builds out of the catalog first, and their files away afterwards, on
the next run if need be.

Both are cut at any effect by the faults that a program is run with. A run of
the system is a list of calls, each with its own clock readings and its own
faults, and what a call raises is not seen by the next one.
-/

namespace GoldProgram

open Program

variable (formats : GoldFormats)

/-! ## The publisher -/

/-- `_utc` of the publication. -/
def publicationUtc (value : PyDatetime) : Except PyError PyDatetime :=
  utcDatetime "Gold publication clock must be timezone-aware" value

/-- The record of an attempt that has failed. -/
def failedAttempt (record : GoldCatalogRecord) (failedAt : PyDatetime) : GoldCatalogRecord :=
  { record with
    status := .failed
    current := false
    completedAtUtc := some failedAt
    minTimestamp := none
    maxTimestamp := none
    rowCount := none
    dataPath := none
    buildManifestPath := none
    plotPath := none
    prunedAtUtc := none }

/-- An attempt that was left building. -/
def isStale (record : GoldCatalogRecord) : Bool := record.status == .building && !record.current

/-- The part of `reconcile` that finalizes the attempts that were left building. -/
def failStale (records : List GoldCatalogRecord) (clock : PyDatetime) :
    GoldProgram (List GoldCatalogRecord) :=
  let staleIds := (records.filter isStale).map (·.buildId)
  if staleIds.isEmpty then pure records
  else do
    let failedAt ← ofExcept (publicationUtc clock)
    let failed := records.map (fun r =>
      if r.buildId ∈ staleIds then failedAttempt r failedAt else r)
    replaceCatalog .staleFailed failed
    signal "catalog:stale-building-failed"
    pure failed

/-- **`GoldPublisher.reconcile`.** -/
def reconcile (clock : PyDatetime) : GoldProgram (List GoldCatalogRecord) := do
  let onDisk ← readRecords
  require (¬ onDisk.any (fun r => r.current && r.status == .building) = true)
    (.valueError "current Gold building row is invalid and requires manual recovery")
  let records ← failStale onDisk clock
  refreshViews formats records
  signal "views:reconciled"
  return records

/-- `GoldBuildStore.next_build_id`. -/
def nextBuildId (clock : PyDatetime) : GoldProgram String := do
  require (clock.isAware = true) (.valueError "Gold build clock must be timezone-aware")
  return buildIdText clock.instant

/-- The record of a new attempt. -/
def buildingAttempt (buildId : String) (startedAt : PyDatetime) : GoldCatalogRecord where
  datasetId := postgresDatasetId
  buildId := buildId
  status := .building
  current := false
  startedAtUtc := startedAt
  completedAtUtc := none
  schemaVersion := goldSchemaVersion
  featureVersion := goldFeatureVersion
  minTimestamp := none
  maxTimestamp := none
  rowCount := none
  dataPath := none
  buildManifestPath := none
  plotPath := none
  prunedAtUtc := none

/-- The record of an attempt that has completed. -/
def completedAttempt (attempt : GoldCatalogRecord) (candidate : GoldPublicationBundle)
    (completedAt : PyDatetime) : GoldCatalogRecord :=
  { attempt with
    status := .complete
    current := true
    completedAtUtc := some completedAt
    schemaVersion := candidate.schemaVersion
    featureVersion := candidate.featureVersion
    minTimestamp := candidate.minTimestamp
    maxTimestamp := candidate.maxTimestamp
    rowCount := some candidate.rowCount
    dataPath := some candidate.dataPath
    buildManifestPath := some candidate.buildManifestPath
    plotPath := some candidate.plotPath
    prunedAtUtc := none }

/-- `_promoted_records`. -/
def promotedRecords (registered : List GoldCatalogRecord) (candidate : GoldPublicationBundle) :
    Except PyError (List GoldCatalogRecord) := do
  check (candidate.schemaVersion = goldSchemaVersion)
    (.valueError "Gold candidate schema_version mismatch")
  check (candidate.featureVersion = goldFeatureVersion)
    (.valueError "Gold candidate feature_version mismatch")
  match registered.filter (fun r => r.buildId == candidate.buildId) with
  | [attempt] => do
    check (attempt.status = .building ∧ attempt.current = false)
      (.valueError "Gold candidate attempt is not a non-current building row")
    let completedAt ← publicationUtc candidate.completedAtUtc
    let complete := completedAttempt attempt candidate completedAt
    return registered.map (fun r =>
      if r.buildId = candidate.buildId then complete
      else if r.current then { r with current := false } else r)
  | _ => .error (.valueError "Gold candidate build_id does not match exactly one registered attempt")

/-- `_finalize_failed_if_uncommitted`: the catalog decides whether the attempt is
still open. -/
def finalizeFailedIfUncommitted (buildId : String) (clock : PyDatetime) : GoldProgram Unit := do
  let records ← readRecords
  match records.find? (fun r => r.buildId == buildId) with
  | none => pure ()
  | some target =>
    if target.status ≠ .building then pure ()
    else do
      let failedAt ← ofExcept (publicationUtc clock)
      let replaced := records.map (fun r =>
        if r.buildId = buildId then failedAttempt target failedAt else r)
      replaceCatalog .attemptFailed replaced
      signal "catalog:failed"
      tryCatch (do
        refreshViews formats replaced
        signal "views:failed") (fun _ => signal "views:failed-refresh-error")

/-- What a publication is given: the frame, or the error of one whose columns or
types are not the canonical ones; the provenance of its rows; whether there is a
mirror; and what the clocks read where they are read. -/
structure PublishCall where
  frame : Except PyError GoldFrame
  inputs : List SilverInputSignature
  hasMirror : Bool
  reconcileClock : PyDatetime
  buildIdClock : PyDatetime
  startClock : PyDatetime
  completionClock : PyDatetime
  failureClock : PyDatetime

/-- The part of a publication that ends with its commit. -/
def publishCandidate (call : PublishCall) (buildId : String) (startedAt : PyDatetime)
    (registered : List GoldCatalogRecord) : GoldProgram (List GoldCatalogRecord) := do
  refreshViews formats registered
  signal "views:building"
  let candidate ← createAndValidate formats call.frame buildId startedAt call.completionClock
    call.inputs
  signal "bundle:validated"
  let promoted ← ofExcept (promotedRecords registered candidate)
  replaceCatalog .promoted promoted
  signal "catalog:promoted"
  return promoted

/-- `next(record for record in promoted if record.build_id == build_id)`. -/
def findBuild (records : List GoldCatalogRecord) (buildId : String) :
    GoldProgram GoldCatalogRecord :=
  match records.find? (fun r => r.buildId == buildId) with
  | some record => pure record
  | none => throw (.lookupError "StopIteration")

/-- The synchronization of the mirror, which copies the files and changes none. -/
def syncMirror : GoldProgram Unit := do
  signal "mirror:sync"
  signal "mirror:synchronized"

/-- **`GoldPublisher.publish`.** -/
def publish (call : PublishCall) : GoldProgram GoldCatalogRecord := do
  let records ← reconcile formats call.reconcileClock
  let buildId ← nextBuildId call.buildIdClock
  let startedAt ← ofExcept (publicationUtc call.startClock)
  let building := buildingAttempt buildId startedAt
  let registered := records ++ [building]
  replaceCatalog .registered registered
  signal "catalog:building"
  let promoted ← tryCatch (publishCandidate formats call buildId startedAt registered) (fun e => do
    finalizeFailedIfUncommitted formats buildId call.failureClock
    throw e)
  let current ← findBuild promoted buildId
  tryCatch (do
    refreshViews formats promoted
    signal "views:promoted") (fun e => do
      signal "views:promoted-failed"
      throw e)
  onlyIf call.hasMirror syncMirror
  return current

/-! ## Retention -/

/-- `GoldRetentionPolicy`. -/
structure RetentionPolicy where
  retainSuccessfulBuilds : ℕ
  retain_pos : 1 ≤ retainSuccessfulBuilds

/-- A build that counts for retention: complete, unpruned and with its artifacts. -/
def isRetained (record : GoldCatalogRecord) : Bool :=
  record.status == .complete && record.prunedAtUtc.isNone && record.artifactPathsComplete

/-- The versions of a record. -/
def versions (record : GoldCatalogRecord) : ℤ × ℤ := (record.schemaVersion, record.featureVersion)

/-- The order of versions. -/
def versionsLE (a b : ℤ × ℤ) : Bool := decide (a.1 < b.1) || (a.1 == b.1 && decide (a.2 ≤ b.2))

/-- The order of some records by a date-time and then by their build ids. -/
def recordLE (key : GoldCatalogRecord → Option PyDatetime) (a b : GoldCatalogRecord) : Bool :=
  let instant := fun r => ((key r).map (·.instant)).getD 0
  decide (instant a < instant b) || (instant a == instant b && decide (a.buildId ≤ b.buildId))

/-- `records.sort(key=…)`, by a date-time and then by the build id. -/
def sortRecords (key : GoldCatalogRecord → Option PyDatetime) (records : List GoldCatalogRecord) :
    List GoldCatalogRecord :=
  records.insertionSort (fun a b => recordLE key a b)

/-- The builds of one pair of versions that are to be marked: the oldest ones of
those that are not current. -/
def selectGroup (policy : RetentionPolicy) (group : List GoldCatalogRecord) :
    Except PyError (List String) :=
  let excess := group.length - policy.retainSuccessfulBuilds
  if excess = 0 then .ok []
  else do
    let candidates := group.filter (fun r => !r.current)
    check (candidates.all (fun r => r.completedAtUtc.isSome) = true)
      (.valueError "complete Gold retention candidate requires completed_at_utc")
    check (excess ≤ candidates.length)
      (.valueError "Gold retention cannot satisfy policy without pruning current")
    return ((sortRecords (·.completedAtUtc) candidates).take excess).map (·.buildId)

/-- `select_for_mark`. -/
def selectForMark (policy : RetentionPolicy) (records : List GoldCatalogRecord) :
    Except PyError (List String) := do
  let eligible := records.filter isRetained
  let keys := (eligible.map versions).dedup.insertionSort (fun a b => versionsLE a b)
  let selected ← keys.mapM (fun key => selectGroup policy (eligible.filter (versions · == key)))
  return selected.flatten

/-- `_mark`. -/
def markRecord (record : GoldCatalogRecord) (markedAt : PyDatetime) :
    Except PyError GoldCatalogRecord := do
  check (record.status = .complete)
    (.valueError "only complete Gold builds may be marked for retention")
  check (record.current = false)
    (.valueError "current Gold build cannot be marked for retention")
  check (record.prunedAtUtc = none)
    (.valueError "already-pruned Gold build cannot be marked again")
  check (record.artifactPathsComplete = true)
    (.valueError "Gold retention mark requires complete artifact paths")
  return { record with
    current := false
    dataPath := none
    buildManifestPath := none
    plotPath := none
    prunedAtUtc := some markedAt }

/-- A build whose files are to go. -/
def isMarked (record : GoldCatalogRecord) : Bool :=
  record.status == .complete && !record.current && record.prunedAtUtc.isSome
    && record.dataPath.isNone && record.buildManifestPath.isNone && record.plotPath.isNone

/-- The removal of one file by the sweeper, which is remembered. -/
def sweepFile (buildId : String) (artifact : GoldArtifact) : GoldProgram Unit := do
  signal "before_delete"
  write (fun s =>
    match s.lake.file buildId artifact with
    | some _ =>
      { setFile buildId artifact none s with
        events := .removed buildId artifact s.lake.records :: s.events }
    | none => s)
  signal "after_delete"

/-- **`GoldBundleSweeper.sweep`.** -/
def sweep (buildId : String) : GoldProgram Unit := do
  update (fun s => { s with events := .sweeping buildId s.lake.records :: s.events })
  goldBuildRoot buildId
  sweepFile buildId .data
  sweepFile buildId .manifest
  sweepFile buildId .plot
  signal "before_remove_dir"
  let exists_ ← query (fun s => .ok (s.lake.builds buildId).isSome)
  onlyIf exists_ (removeBuildDirectory buildId)
  signal "after_remove_dir"

/-- `GoldRetentionResult`. -/
structure RetentionResult where
  markedBuildIds : List String
  sweptBuildIds : List String

/-- The marking of the builds that retention selects. -/
def markSelected (records : List GoldCatalogRecord) (markIds : List String) (clock : PyDatetime) :
    GoldProgram (List GoldCatalogRecord) :=
  if markIds.isEmpty then pure records
  else do
    let markedAt ← ofExcept (utcDatetime "Gold retention clock must be timezone-aware" clock)
    let marked ← ofExcept
      (records.mapM (fun r => if r.buildId ∈ markIds then markRecord r markedAt else .ok r))
    replaceCatalog .marked marked
    refreshViews formats marked
    pure marked

/-- **`GoldRetentionService.run`.** -/
def retain (policy : RetentionPolicy) (clock : PyDatetime) : GoldProgram RetentionResult := do
  let onDisk ← readRecords
  let markIds ← ofExcept (selectForMark policy onDisk)
  let records ← markSelected formats onDisk markIds clock
  let marked := sortRecords (·.prunedAtUtc) (records.filter isMarked)
  onlyIf (!marked.isEmpty && markIds.isEmpty) (refreshViews formats records)
  forEach marked (fun r => sweep r.buildId)
  return ⟨markIds, marked.map (·.buildId)⟩

end GoldProgram

/-! ## Runs -/

/-- **A call of the system**, with what the clocks read during it. -/
inductive GoldCall
  | reconcile (clock : PyDatetime)
  | publish (call : GoldProgram.PublishCall)
  | retain (policy : GoldProgram.RetentionPolicy) (clock : PyDatetime)

/-- The program of a call. -/
def GoldCall.program (formats : GoldFormats) : GoldCall → GoldProgram Unit
  | reconcile clock => do let _ ← GoldProgram.reconcile formats clock
  | publish call => do let _ ← GoldProgram.publish formats call
  | retain policy clock => do let _ ← GoldProgram.retain formats policy clock

/-- **A run**: calls one after the other, each with its faults. A call that raises
or is cut leaves its files to the next one. -/
def runCalls (formats : GoldFormats) (session : GoldSession)
    (calls : List (GoldCall × List (Fault PyError))) : GoldSession :=
  calls.foldl (fun s call => (call.1.program formats s call.2).2.1) session
