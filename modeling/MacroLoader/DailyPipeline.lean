import MacroLoader.GoldFrameAssembly
import MacroLoader.InventoryRefresh
import MacroLoader.SilverWorkers

/-!
# The daily pipeline

A command of the pipeline runs the stages in a fixed order, each on its part of the lake, and
sends an event before and after each. Every failure of a stage leaves the command: the stages
that come later are not begun, and what the earlier ones have written is kept.

Runs of Bronze and builds of Silver are made by the threads of a pool. In which order these
make their steps is not determined by the command, so a pool is given to it, and what is
assumed of a pool is said where it is used (`Pool.Serves`).
-/

open Program

/-- What the pipeline is composed of, as `build_runtime` composes it: the registry, the Bronze
unit of work with the planner, the formats of the files, and the retention policy. -/
structure DailyMedallionPipeline where
  seriesRegistry : SeriesRegistry
  uow : BronzeUnitOfWork
  config : PlannerConfig
  silverFormat : FileFormat CanonicalFrame
  inventoryFormat : FileFormat (List InventoryRecord)
  goldFormats : GoldFormats
  writeCsv : List SilverRow → Bytes
  retentionPolicy : GoldProgram.RetentionPolicy

/-- What a command is given from outside: its run id, what the clocks read, and whether there
is a mirror. -/
structure CommandInputs where
  runId : String
  recoveryClock : PyDatetime
  publication : GoldProgram.PublishCall
  retentionClock : PyDatetime

/-- The publication of a frame, with its provenance. -/
def CommandInputs.publishCall (inputs : CommandInputs) (gold : GoldFrameBuild) :
    GoldProgram.PublishCall :=
  { inputs.publication with
    frame := .ok gold.frame
    inputs := gold.inputs }

/-- The threads that run the series of `run_many` and build Silver. -/
structure Pool where
  runMany : List String → OperationMode → Date → BronzeProgram BatchRunResult
  buildAll : List SeriesContract → LakeProgram (List SilverResult)

/-- `PipelineCommandResult`. -/
structure PipelineCommandResult where
  command : String
  runId : String
  selectedSeries : List String
  bronze : Option BatchRunResult
  goldBuildId : Option String
  retention : Option GoldProgram.RetentionResult

/-- `ProviderBatchError`. -/
def providerBatchError (failures : List String) : PyError :=
  ⟨.other "ProviderBatchError", "provider failures: " ++ ", ".intercalate failures⟩

/-- The ids in order, each once. -/
def sortedSet (ids : List String) : List String := ids.dedup.insertionSort (· ≤ ·)

/-- A Silver frame as `gold_frame` reads it. -/
def silverFrame (frame : CanonicalFrame) : SilverFrame where
  hasSilverSchema := decide (frame.schema = silverSchema)
  rows := frame.rows.map (fun row =>
    { observationDate := some row.observationDate
      seriesId := some row.seriesId
      value := row.value
      bar := row.bar
      unit := some row.unit
      provider := some row.provider
      sourceId := some row.sourceId
      fetchedAtUtc := some row.fetchedAtUtc })

namespace DailyMedallionPipeline

/-! ## Events -/

/-- `_event`: the fields that every event has, and its context. -/
def event (runId command stage status : String) (context : List (String × Json)) :
    LakeProgram Unit :=
  write (MedallionLake.send (.object ([("run_id", .string runId), ("command", .string command),
    ("stage", .string stage), ("status", .string status)] ++ context)))

/-- `_start`. -/
def start (runId command : String) (selected : List String) : LakeProgram Unit :=
  event runId command "command" "started" [("selected_series", .array (selected.map .string))]

/-- `_finish`. -/
def finish (runId command status : String) : LakeProgram Unit :=
  event runId command "command" status []

/-- The handler of every command: the failure is sent, and raised again. -/
def orFail {α : Type} (runId command : String) (m : LakeProgram α) : LakeProgram α :=
  tryCatch m (fun e => do
    finish runId command "failed"
    throw e)

variable (pipeline : DailyMedallionPipeline)

/-! ## What the pipeline is composed of -/

/-- The orchestrator of Bronze. -/
def bronze : BronzeOrchestrator where
  seriesRegistry := pipeline.seriesRegistry.find?
  registry_id _ _ h := (SeriesRegistry.find?_eq_some.mp h).2
  uow := pipeline.uow
  config := pipeline.config

/-- The repository of Silver. -/
def silver : SilverRepository := ⟨pipeline.uow, pipeline.silverFormat⟩

/-- The service that refreshes the inventory. -/
def inventoryService : InventoryRefreshService :=
  ⟨pipeline.seriesRegistry, pipeline.uow.frameFormat, pipeline.inventoryFormat⟩

/-! ## The series of a command -/

/-- `resolve_series`. -/
def resolveSeries (seriesIds : List String) : Except PyError (List String) := do
  let selected := if seriesIds.isEmpty then pipeline.seriesRegistry.ids else seriesIds
  check (duplicateKeys selected = [])
    (.valueError ("duplicate --series value: " ++ pyNames (sortedSet (duplicateKeys selected))))
  let unknown := selected.filter (fun id => (pipeline.seriesRegistry.find? id).isNone)
  check (unknown = [])
    (.valueError ("unknown series: " ++ ", ".intercalate (unknown.insertionSort (· ≤ ·))))
  return selected

/-- `self._series_registry[series_id]`. -/
def contractOf (seriesId : String) : Except PyError SeriesContract :=
  match pipeline.seriesRegistry.find? seriesId with
  | some contract => .ok contract
  | none => .error (.lookupError seriesId)

/-! ## The stages -/

/-- The context of the event of a series that has succeeded. -/
def successContext (item : SeriesRunResult) : List (String × Json) :=
  [("series", .string item.seriesId), ("provider", .string item.provider.value),
    ("mode", .string item.mode.value),
    ("request_start", .ofString? (item.requestStart.map dateText)),
    ("request_end", .string (dateText item.requestEnd)),
    ("maximum_history", .bool item.maximumHistory), ("inserted_rows", .int item.insertedRows),
    ("revised_rows", .int item.revisedRows), ("written_partitions", .int item.writtenPartitions)]

/-- `_log_bronze_results`. -/
def logBronzeResults (runId command : String) (batch : BatchRunResult) : LakeProgram Unit := do
  forEach batch.successes (fun item =>
    event runId command "bronze-series" "success" (successContext item))
  forEach batch.failures (fun seriesId => do
    let contract ← ofExcept (pipeline.contractOf seriesId)
    event runId command "bronze-series" "failed"
      [("series", .string seriesId), ("provider", .string contract.provider.value)])
  event runId command "bronze" (if batch.failures.isEmpty then "success" else "failed")
    [("failures", .array (batch.failures.map .string))]

/-- `_build_selected_silver`. -/
def buildSelectedSilver (pool : Pool) (runId command : String) (selected : List String) :
    LakeProgram Unit := do
  event runId command "silver" "started" []
  let contracts ← ofExcept (selected.mapM pipeline.contractOf)
  let _ ← pool.buildAll contracts
  event runId command "silver" "success" []

/-- The frame of a series among those that have been read. -/
def silverBySeries (contracts : List SeriesContract) (frames : List CanonicalFrame) (s : Series) :
    Option SilverFrame :=
  ((contracts.zip frames).find? (fun entry => entry.1.seriesId == s.id)).map
    (fun entry => silverFrame entry.2)

/-- `_canonical_gold`. -/
def canonicalGold (runId command : String) : LakeProgram GoldFrameBuild := do
  event runId command "gold-frame" "started" []
  let contracts := pipeline.seriesRegistry.contracts
  let frames ← collect contracts (fun contract =>
    query (fun lake => pipeline.silver.read (lake.silver contract.seriesId)))
  let missing := (contracts.zip frames).filter (fun entry => entry.2.isEmpty)
  require (missing = [])
    (.valueError ("full Gold requires non-empty Silver for every canonical series; missing: "
      ++ ", ".intercalate (missing.map (·.1.seriesId))))
  let result ← ofExcept (assembleGoldFrame pipeline.goldFormats.sha256 pipeline.writeCsv
    (silverBySeries contracts frames))
  event runId command "gold-frame" "success" [("row_count", .int result.frame.rows.length)]
  return result

/-- The publication of a frame. -/
def publishGold (inputs : CommandInputs) (command : String) (gold : GoldFrameBuild) :
    LakeProgram GoldCatalogRecord := do
  let published ← onPart MedallionLake.goldPart
    (GoldProgram.publish pipeline.goldFormats (inputs.publishCall gold))
  event inputs.runId command "gold-publish" "success" [("build_id", .string published.buildId)]
  return published

/-- The recovery of what an earlier publication has left. -/
def recover (inputs : CommandInputs) (command : String) : LakeProgram Unit := do
  event inputs.runId command "recovery" "started" []
  let _ ← onPart MedallionLake.goldPart
    (GoldProgram.reconcile pipeline.goldFormats inputs.recoveryClock)
  event inputs.runId command "recovery" "success" []

/-! ## The commands -/

/-- `_source_command`. -/
def sourceCommand (pool : Pool) (inputs : CommandInputs) (command : String)
    (seriesIds : List String) (operation : OperationMode) (today : Date) :
    LakeProgram PipelineCommandResult := do
  let selected ← ofExcept (pipeline.resolveSeries seriesIds)
  start inputs.runId command selected
  orFail inputs.runId command (do
    let batch ← onPart MedallionLake.bronzePart (pool.runMany selected operation today)
    pipeline.logBronzeResults inputs.runId command batch
    require (batch.failures = []) (providerBatchError batch.failures)
    finish inputs.runId command "success"
    return ⟨command, inputs.runId, selected, some batch, none, none⟩)

/-- `silver_build`. -/
def silverBuild (pool : Pool) (inputs : CommandInputs) (seriesIds : List String) :
    LakeProgram PipelineCommandResult := do
  let selected ← ofExcept (pipeline.resolveSeries seriesIds)
  start inputs.runId "silver-build" selected
  orFail inputs.runId "silver-build" (do
    pipeline.buildSelectedSilver pool inputs.runId "silver-build" selected
    finish inputs.runId "silver-build" "success"
    return ⟨"silver-build", inputs.runId, selected, none, none, none⟩)

/-- `gold_build`. -/
def goldBuild (inputs : CommandInputs) : LakeProgram PipelineCommandResult := do
  start inputs.runId "gold-build" []
  orFail inputs.runId "gold-build" (do
    pipeline.recover inputs "gold-build"
    let gold ← pipeline.canonicalGold inputs.runId "gold-build"
    let published ← pipeline.publishGold inputs "gold-build" gold
    finish inputs.runId "gold-build" "success"
    return ⟨"gold-build", inputs.runId, [], none, some published.buildId, none⟩)

/-- `inventory`. -/
def inventory (inputs : CommandInputs) : LakeProgram PipelineCommandResult := do
  start inputs.runId "inventory" []
  orFail inputs.runId "inventory" (do
    let _ ← pipeline.inventoryService.refresh
    finish inputs.runId "inventory" "success"
    return ⟨"inventory", inputs.runId, [], none, none, none⟩)

/-- What follows a publication: retention, and the inventory. -/
def closeDaily (inputs : CommandInputs) : LakeProgram GoldProgram.RetentionResult := do
  let retention ← onPart MedallionLake.goldPart
    (GoldProgram.retain pipeline.goldFormats pipeline.retentionPolicy inputs.retentionClock)
  event inputs.runId "run-daily" "retention" "success"
    [("marked", .array (retention.markedBuildIds.map .string)),
      ("swept", .array (retention.sweptBuildIds.map .string))]
  let _ ← pipeline.inventoryService.refresh
  event inputs.runId "run-daily" "inventory" "success" []
  return retention

/-- The update of Bronze that a daily run begins with. -/
def updateBronze (pool : Pool) (inputs : CommandInputs) (selected : List String) (today : Date) :
    LakeProgram BatchRunResult := do
  event inputs.runId "run-daily" "bronze" "started" []
  let batch ← onPart MedallionLake.bronzePart (pool.runMany selected .update today)
  pipeline.logBronzeResults inputs.runId "run-daily" batch
  require (batch.failures = []) (providerBatchError batch.failures)
  return batch

/-- **`run_daily`.** -/
def runDaily (pool : Pool) (inputs : CommandInputs) (seriesIds : List String) (today : Date) :
    LakeProgram PipelineCommandResult := do
  let selected ← ofExcept (pipeline.resolveSeries seriesIds)
  start inputs.runId "run-daily" selected
  orFail inputs.runId "run-daily" (do
    pipeline.recover inputs "run-daily"
    let batch ← pipeline.updateBronze pool inputs selected today
    pipeline.buildSelectedSilver pool inputs.runId "run-daily" selected
    let gold ← pipeline.canonicalGold inputs.runId "run-daily"
    let published ← pipeline.publishGold inputs "run-daily" gold
    let retention ← pipeline.closeDaily inputs
    finish inputs.runId "run-daily" "success"
    return ⟨"run-daily", inputs.runId, selected, some batch, some published.buildId,
      some retention⟩)

/-- A command of the pipeline. -/
inductive Command
  | bootstrap (seriesIds : List String) (today : Date)
  | update (seriesIds : List String) (today : Date)
  | reconcile (seriesIds : List String) (today : Date)
  | silverBuild (seriesIds : List String)
  | goldBuild
  | inventory
  | runDaily (seriesIds : List String) (today : Date)

/-- **The program of a command.** -/
def run (pool : Pool) (inputs : CommandInputs) : Command → LakeProgram PipelineCommandResult
  | .bootstrap seriesIds today =>
    pipeline.sourceCommand pool inputs "bootstrap" seriesIds .bootstrap today
  | .update seriesIds today =>
    pipeline.sourceCommand pool inputs "update" seriesIds .update today
  | .reconcile seriesIds today =>
    pipeline.sourceCommand pool inputs "reconcile" seriesIds .reconcile today
  | .silverBuild seriesIds => pipeline.silverBuild pool inputs seriesIds
  | .goldBuild => pipeline.goldBuild inputs
  | .inventory => pipeline.inventory inputs
  | .runDaily seriesIds today => pipeline.runDaily pool inputs seriesIds today

end DailyMedallionPipeline
