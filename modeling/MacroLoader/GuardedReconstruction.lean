import MacroLoader.LoaderRuns
import MacroLoader.ProductionReconstruction

/-!
# The guarded reconstruction

A reconstruction and the daily job keep out of each other's way by two files and a lock on the
server. The maintenance marker says that the daily job is disabled; it is there from the first
stage of a reconstruction until all its stages have passed. The lock on the runner file is
held by one process at a time, and the operating system takes it back when that process ends,
however it ends; the lock on the server is another one of the same kind. The marker stays.

Here are the operations of the stages, on the machine as far as these processes share it, and
the script of the daily job.
-/

open Program

/-! ## The machine -/

/-- The number of a process. -/
abbrev ProcessId := ℕ

/-- A backup that is complete: the copy of the lake, and the dump of the database. -/
structure ReconstructionBackup where
  lake : MedallionLake
  dump : Replica

/-- **What the processes share.** -/
structure Site where
  loader : Loader
  /-- Whether `.maintenance/macro-loader-reconstruction` is there. -/
  marker : Bool
  /-- Who holds `.locks/macro-loader-daily.lock`. -/
  runnerLock : Option ProcessId
  /-- Whose session holds the advisory lock on the server. -/
  maintenanceLock : Option ProcessId
  /-- The directories below `reconstruction-backups` that are complete. -/
  backups : List ReconstructionBackup

namespace Site

/-- No files, and nothing at work. -/
def initial : Site := ⟨.empty, false, none, none, []⟩

/-- The lake and the database. -/
def loaderPart : StatePart Site Loader where
  get s := s.loader
  set loader s := { s with loader := loader }
  get_set _ _ := rfl
  set_get _ := rfl
  set_set _ _ _ := rfl

variable (p : ProcessId) (s : Site)

/-- The runner file is closed. -/
def freeRunnerLock : Site :=
  { s with runnerLock := if s.runnerLock = some p then none else s.runnerLock }

/-- The session on the server is closed. -/
def freeMaintenanceLock : Site :=
  { s with maintenanceLock := if s.maintenanceLock = some p then none else s.maintenanceLock }

/-- **The process ends**: the operating system closes its files, and the server its session. -/
def exit : Site := (s.freeMaintenanceLock p).freeRunnerLock p

/-- A backup of what there is now. -/
def backup : ReconstructionBackup := ⟨s.loader.lake, s.loader.session.replica⟩

end Site

section Locks

variable (p : ProcessId)

/-- `flock` on the runner file, without waiting. -/
def tryRunnerLock : Program Site PyError Bool :=
  effect (fun s =>
    if s.runnerLock = none then (.ok true, { s with runnerLock := some p }) else (.ok false, s))

/-- `pg_try_advisory_lock`, on a session of its own. -/
def tryMaintenanceLock : Program Site PyError Bool :=
  effect (fun s =>
    if s.maintenanceLock = none then (.ok true, { s with maintenanceLock := some p })
    else (.ok false, s))

end Locks

/-! ## The daily job -/

/-- A daily job that is started: what it is given from outside. -/
structure DailyCall (pipeline : DailyMedallionPipeline) where
  pool : Pool
  serves : pool.Serves pipeline
  inputs : JobInputs

/-- **`ops/run-macro-loader-daily.sh`**, with its exit code. A command that fails ends the
script. -/
def DailyCall.script {pipeline : DailyMedallionPipeline} (call : DailyCall pipeline)
    (p : ProcessId) : Program Site PyError ℕ := do
  let locked ← tryRunnerLock p
  if ¬ locked then pure 3 else
    let disabled ← query (fun s => .ok s.marker)
    if disabled then pure 4 else
      let _ ← onPart Site.loaderPart (dailyJob pipeline call.pool call.inputs)
      pure 0

/-! ## The stages of a reconstruction -/

/-- `POSTGRES_HOST` and `POSTGRES_PORT`. -/
def postgresEndpoint : String × ℕ := ("10.10.1.3", 54321)

/-- What the operations of one reconstruction keep: whether the runner file is open, and
whether there is a session for the lock on the server. -/
structure Handles where
  runnerHandle : Bool
  maintenanceConnection : Bool

/-- `GuardedProductionReconstructionOperations`: the process, and what it is given from
outside. -/
structure GuardedReconstruction (pipeline : DailyMedallionPipeline) where
  process : ProcessId
  pool : Pool
  serves : pool.Serves pipeline
  runtimeEndpoint : String × ℕ
  adminEndpoint : String × ℕ
  today : Date
  reconcileInputs : CommandInputs
  silverInputs : CommandInputs
  goldInputs : CommandInputs
  publish : SyncInputs
  replay : SyncInputs
  inspect : Except PyError PostgresDatabaseConformanceEvidence

namespace GuardedReconstruction

variable {pipeline : DailyMedallionPipeline} (guarded : GuardedReconstruction pipeline)

/-- What the operations work on. -/
abbrev Operation (α : Type) := Program (Site × Handles) PyError α

/-- Run on the lake and the database. -/
def onLoader {α : Type} (m : Program Loader PyError α) : Operation α :=
  onPart .fst (onPart Site.loaderPart m)

/-- A command of the pipeline. -/
def command (inputs : CommandInputs) (command : DailyMedallionPipeline.Command) :
    Operation Unit := do
  let _ ← onLoader (onPart Loader.lakePart (pipeline.run guarded.pool inputs command))
  pure ()

/-- `disable_scheduling`. -/
def disableScheduling : Operation Unit := onPart .fst (write (fun s => { s with marker := true }))

/-- `_release_runner_lock`. -/
def releaseRunnerLock : Operation Unit :=
  update (fun s => if s.2.runnerHandle then
    (s.1.freeRunnerLock guarded.process, { s.2 with runnerHandle := false }) else s)

/-- `_release_postgres_lock`. -/
def releasePostgresLock : Operation Unit :=
  update (fun s => if s.2.maintenanceConnection then
    (s.1.freeMaintenanceLock guarded.process, { s.2 with maintenanceConnection := false }) else s)

/-- `acquire_locks`. -/
def acquireLocks : Operation Unit := do
  let locked ← onPart .fst (tryCatch (tryRunnerLock guarded.process) (fun _ => do
    update (fun s => s.freeRunnerLock guarded.process)
    pure false))
  require (locked = true) ⟨.other "RuntimeError", "Daily runner lock is already held"⟩
  update (fun s => (s.1, { s.2 with runnerHandle := true }))
  tryCatch (do
    let locked ← onPart .fst (tryMaintenanceLock guarded.process)
    require (locked = true) ⟨.other "RuntimeError", "PostgreSQL maintenance lock is already held"⟩
    update (fun s => (s.1, { s.2 with maintenanceConnection := true })))
    (fun e => do
      guarded.releaseRunnerLock
      throw e)

/-- `preflight_endpoint`. -/
def preflightEndpoint : Operation Unit := do
  require (guarded.runtimeEndpoint = postgresEndpoint)
    (.valueError "runtime configuration does not target the production endpoint")
  require (guarded.adminEndpoint = postgresEndpoint)
    (.valueError "admin configuration does not target the production endpoint")
  let s ← read
  require (s.2.maintenanceConnection = true)
    ⟨.other "RuntimeError", "PostgreSQL maintenance lock is not held"⟩

/-- Whether the files are there that a backup has to contain. -/
def hasEvidence (lake : MedallionLake) (dataPath : String) : Bool :=
  lake.gold.lake.catalog.isSome && (lake.gold.lake.fileAt (pathParts dataPath)).isSome
    && lake.bronze.states.isSome

/-- `validate_backup`. -/
def validateBackup : Operation Unit := onPart .fst (do
  let lake ← query (fun s => .ok s.loader.lake)
  let record ← Program.ofExcept (readCatalog lake.gold.lake.catalog >>= selectCurrentSyncRecord)
  let dataPath := record.dataPath.getD ""
  require (dataPath ≠ "")
    ⟨.other "RuntimeError", "current Gold catalog record has no data path"⟩
  require (hasEvidence lake dataPath = true)
    ⟨.other "RuntimeError", "required canonical lake evidence is missing"⟩
  -- the copy, the dump, and the note on how to restore them, which is written last
  let copied ← query (fun s => .ok s.loader.lake)
  let dump ← query (fun s => .ok s.loader.session.replica)
  write (fun s => { s with backups := ⟨copied, dump⟩ :: s.backups }))

/-- `verify_postgres`. -/
def verifyPostgres : Operation PostgresConformanceReport := onLoader (do
  let lake ← query (fun s => .ok s.lake.gold.lake)
  onPart Loader.sessionPart (verify pipeline.goldFormats.sha256 (readFrame pipeline.goldFormats)
    ⟨readCatalog lake.catalog,
      filesystemGoldFrameSource pipeline.goldFormats lake guarded.publish.datasetRoot,
      guarded.inspect⟩))

/-- `verify_daily_wrapper`: the script ends before it does anything. -/
def verifyDailyWrapper : Operation Unit := query (fun _ => .ok ())

/-- `enable_scheduling`. -/
def enableScheduling : Operation Unit := do
  onPart .fst (effect (fun s =>
    if s.marker = true then (.ok (), { s with marker := false })
    else (.error ⟨.other "RuntimeError", "maintenance marker is missing"⟩, s)))
  guarded.releasePostgresLock
  guarded.releaseRunnerLock

/-- The operations. -/
def operations : ProductionReconstructionOperations (Site × Handles) where
  disableScheduling := disableScheduling
  acquireLocks := guarded.acquireLocks
  preflightEndpoint := guarded.preflightEndpoint
  validateBackup := validateBackup
  reconcile seriesIds := guarded.command guarded.reconcileInputs (.reconcile seriesIds guarded.today)
  rebuildSilver seriesIds := guarded.command guarded.silverInputs (.silverBuild seriesIds)
  publishGold := guarded.command guarded.goldInputs .goldBuild
  recreateSchema := onLoader recreateSchema
  publishPostgres := onLoader (goldSyncPostgres pipeline.goldFormats guarded.publish)
  verifyPostgres := guarded.verifyPostgres
  replayPostgres := onLoader (goldSyncPostgres pipeline.goldFormats guarded.replay)
  verifyDailyWrapper := verifyDailyWrapper
  enableScheduling := guarded.enableScheduling

/-- The reconstruction. -/
def reconstruction : ProductionReconstruction (Site × Handles) where
  operations := guarded.operations
  seriesIds := SeriesRegistry.canonical.ids
  every := rfl

/-- **`postgres-reconstruct`**, with the report. -/
def script : Program Site PyError ProductionReconstructionReport :=
  withLocal ⟨false, false⟩ guarded.reconstruction.run

end GuardedReconstruction
