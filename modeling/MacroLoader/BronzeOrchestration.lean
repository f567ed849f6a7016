import MacroLoader.BronzeStore

/-!
# Bronze ingestion runs

A run plans from what Bronze holds, asks its provider, checks the answer against
the window of the plan, prepares a merge, and commits it. Everything after the
planning happens under a handler that records a failed run and raises again, so
a run that raises has left Bronze and the states alone and at most a record of
its failure behind (`wp_runSeries`).

What comes from outside – the adapter with its answer, the clock, the run id –
is given with the run. A run is written in its steps, and each step is a program
of its own, because other runs go on between them.
-/

/-- How an adapter answers a request. -/
abbrev MarketDataProvider := SeriesContract → ProviderRequest → Except PyError BronzeFrame

/-- `BronzeOrchestrator`: the registry with its identities, the store and the planner. -/
structure BronzeOrchestrator where
  seriesRegistry : String → Option SeriesContract
  registry_id : ∀ id contract, seriesRegistry id = some contract → contract.seriesId = id
  uow : BronzeUnitOfWork
  config : PlannerConfig

/-- What a run is given from outside: the adapters, its run id, and the readings of the
clock at its start, before its commit and after a failure. -/
structure RunInputs where
  providers : Provider → Option MarketDataProvider
  runId : String
  started : PyDatetime
  completed : PyDatetime
  failed : PyDatetime

/-- A run that has been planned. -/
structure PlannedRun where
  inputs : RunInputs
  contract : SeriesContract
  provider : MarketDataProvider
  plan : FetchInstruction
  started : Timestamp

/-- What a run commits. -/
structure ReadyCommit where
  prepared : PreparedBronze
  record : IngestionRunRecord
  state : IngestionState

/-- Stable result returned by one isolated series execution. -/
structure SeriesRunResult where
  seriesId : String
  provider : Provider
  runId : String
  mode : OperationMode
  requestStart : Option Date
  requestEnd : Date
  maximumHistory : Bool
  insertedRows : ℕ
  revisedRows : ℕ
  writtenPartitions : ℕ
  deriving DecidableEq

/-- `type(exc).__name__`. -/
def ErrorKind.className : ErrorKind → String
  | .osError => "OSError"
  | .typeError => "TypeError"
  | .valueError => "ValueError"
  | .lookupError => "LookupError"
  | .structError => "error"
  | .databaseError => "DatabaseError"
  | .goldSyncSourceError => "GoldSyncSourceError"
  | .goldSyncCompatibilityError => "GoldSyncCompatibilityError"
  | .goldSyncVerificationError => "GoldSyncVerificationError"
  | .postgresGoldRepositoryError => "PostgresGoldRepositoryError"
  | .bronzeUpdateError => "BronzeUpdateError"
  | .overflowError => "OverflowError"
  | .assertionError => "AssertionError"
  | .other className => className

/-- `_utc_now`. -/
def utcNow (reading : PyDatetime) : Except PyError Timestamp :=
  if reading.isAware then .ok reading.instant
  else .error (.valueError "clock must return timezone-aware datetime")

/-- `_enforce_window`. -/
def enforceWindow (frame : BronzeFrame) (plan : FetchInstruction) : Except PyError BronzeFrame :=
  if plan.mode ≠ .update ∨ frame.isEmpty = true then .ok frame
  else
    match plan.logicalStart with
    | none => .error (.assertionError "bounded update has no logical start")
    | some start => do
      check ("observation_date" ∈ frame.columns)
        (.valueError "provider frame is missing observation_date")
      check (∀ row ∈ frame.rows,
          start ≤ row.observationDate ∧ row.observationDate ≤ plan.requestEnd)
        (.valueError "provider returned observations outside logical request window")
      return frame

/-- The request of a planned run, and the answer to it. -/
def fetchRun (run : PlannedRun) : Except PyError BronzeFrame := do
  let request ← providerRequest run.plan
  run.provider run.contract request

/-- `_success_run`. -/
def successFields (run : PlannedRun) (completed : Timestamp) (fetchedRows acceptedRows : ℕ)
    (prepared : PreparedBronze) : RunFields where
  runId := run.inputs.runId
  provider := run.contract.provider
  seriesId := run.contract.seriesId
  mode := run.plan.mode
  requestedStart := run.plan.logicalStart
  requestedEnd := some run.plan.requestEnd
  fetchedRows := fetchedRows
  acceptedRows := acceptedRows
  insertedRows := prepared.diff.inserts.rows.length
  revisedRows := prepared.diff.revisions.rows.length
  writtenPartitions := prepared.writtenPartitions
  status := .success
  startedAtUtc := run.started
  completedAtUtc := completed

/-- The record of a run that has failed. -/
def failedFields (run : PlannedRun) (completed : Timestamp) (fetchedRows acceptedRows : ℕ)
    (e : PyError) : RunFields where
  runId := run.inputs.runId
  provider := run.contract.provider
  seriesId := run.contract.seriesId
  mode := run.plan.mode
  requestedStart := run.plan.logicalStart
  requestedEnd := some run.plan.requestEnd
  fetchedRows := fetchedRows
  acceptedRows := acceptedRows
  insertedRows := 0
  revisedRows := 0
  writtenPartitions := 0
  status := .failed
  startedAtUtc := run.started
  completedAtUtc := completed
  errorCategory := some e.kind.className
  errorMessage := some "series ingestion failed"

/-- What a run that has committed returns. -/
def runResult (run : PlannedRun) (prepared : PreparedBronze) : SeriesRunResult where
  seriesId := run.contract.seriesId
  provider := run.contract.provider
  runId := run.inputs.runId
  mode := run.plan.mode
  requestStart := run.plan.logicalStart
  requestEnd := run.plan.requestEnd
  maximumHistory := run.plan.maximumHistory
  insertedRows := prepared.diff.inserts.rows.length
  revisedRows := prepared.diff.revisions.rows.length
  writtenPartitions := prepared.writtenPartitions

namespace BronzeOrchestrator

open Program

variable (orchestrator : BronzeOrchestrator)

/-- `_resolve_series`. -/
def resolveSeries (seriesId : String) : Except PyError SeriesContract :=
  match orchestrator.seriesRegistry seriesId with
  | some contract => .ok contract
  | none => .error ⟨.other "KeyError", "unknown canonical series_id: " ++ seriesId⟩

/-- `_resolve_provider`. -/
def resolveProvider (inputs : RunInputs) (provider : Provider) :
    Except PyError MarketDataProvider :=
  match inputs.providers provider with
  | some adapter => .ok adapter
  | none => .error ⟨.other "KeyError", "provider adapter not registered: " ++ provider.value⟩

/-- The beginning of a run: what it is about, and its plan. -/
def planRun (inputs : RunInputs) (seriesId : String) (operation : OperationMode) (today : Date) :
    BronzeProgram PlannedRun := do
  let contract ← ofExcept (orchestrator.resolveSeries seriesId)
  let provider ← ofExcept (resolveProvider inputs contract.provider)
  let bounds ← orchestrator.uow.bounds contract
  require (¬ (operation = .bootstrap ∧ bounds.maximum.isSome = true))
    (.valueError "explicit bootstrap requires empty authoritative Bronze")
  let plan ← ofExcept
    (buildPlan contract bounds today (decide (operation = .reconcile)) orchestrator.config)
  require (operation = .bootstrap → plan.mode = .bootstrap)
    (.valueError "explicit bootstrap did not resolve to bootstrap plan")
  require (operation = .update ∧ bounds.maximum.isSome = true →
      plan.mode = .update ∧ plan.maximumHistory = false)
    (.assertionError "normal existing-history call must remain a bounded update")
  let started ← ofExcept (utcNow inputs.started)
  return ⟨inputs, contract, provider, plan, started⟩

/-- What is to be committed of a prepared merge. -/
def readyRun (run : PlannedRun) (fetchedRows acceptedRows : ℕ) (prepared : PreparedBronze) :
    BronzeProgram ReadyCommit := do
  let completed ← ofExcept (utcNow run.inputs.completed)
  let record ← ofExcept
    (ingestionRunRecord (successFields run completed fetchedRows acceptedRows prepared))
  let prior ← orchestrator.uow.state run.contract
  let next ← ofExcept (advanceState prior run.plan completed prepared.postBounds fetchedRows
    acceptedRows (prepared.diff.inserts.rows.length + prepared.diff.revisions.rows.length) true
    true)
  return ⟨prepared, record, next⟩

/-- The commit of a run. -/
def commitRun (ready : ReadyCommit) : BronzeProgram Unit :=
  orchestrator.uow.commitSuccess ready.prepared ready.record ready.state

/-- The record of a failure, and its write. -/
def recordRun (run : PlannedRun) (fetchedRows acceptedRows : ℕ) (e : PyError) :
    BronzeProgram Unit := do
  let completed ← ofExcept (utcNow run.inputs.failed)
  let record ← ofExcept
    (ingestionRunRecord (failedFields run completed fetchedRows acceptedRows e))
  orchestrator.uow.recordFailure record

/-- A step of a planned run: if it raises, a failed run is recorded and the error raised
again. -/
def orFail {α : Type} (run : PlannedRun) (fetchedRows acceptedRows : ℕ) (m : BronzeProgram α) :
    BronzeProgram α :=
  tryCatch m (fun e => do
    orchestrator.recordRun run fetchedRows acceptedRows e
    throw e)

/-- A planned run, to its end. -/
def runPlanned (run : PlannedRun) : BronzeProgram SeriesRunResult := do
  let incoming ← orchestrator.orFail run 0 0 (ofExcept (fetchRun run))
  let accepted ← orchestrator.orFail run incoming.rows.length 0
    (ofExcept (enforceWindow incoming run.plan))
  let prepared ← orchestrator.orFail run incoming.rows.length accepted.rows.length
    (orchestrator.uow.prepare run.contract accepted)
  let ready ← orchestrator.orFail run incoming.rows.length accepted.rows.length
    (orchestrator.readyRun run incoming.rows.length accepted.rows.length prepared)
  orchestrator.orFail run incoming.rows.length accepted.rows.length (orchestrator.commitRun ready)
  return runResult run prepared

/-- **`run_series`.** -/
def runSeries (inputs : RunInputs) (seriesId : String) (operation : OperationMode) (today : Date) :
    BronzeProgram SeriesRunResult := do
  let run ← orchestrator.planRun inputs seriesId operation today
  orchestrator.runPlanned run

end BronzeOrchestrator

/-! ## What a run leaves -/

open Program

section Specs

variable {orchestrator : BronzeOrchestrator} {inputs : RunInputs} {seriesId : String}
  {operation : OperationMode} {today : Date} {run : PlannedRun} {lake s : BronzeLake}

/-- A series is resolved to its contract. -/
theorem BronzeOrchestrator.resolveSeries_eq_ok {contract : SeriesContract}
    (h : orchestrator.resolveSeries seriesId = .ok contract) :
    orchestrator.seriesRegistry seriesId = some contract := by
  unfold BronzeOrchestrator.resolveSeries at h
  split at h
  · next found hfound => rw [hfound, Except.ok.inj h]
  · cases h

/-- **A planned run**: its series is registered, and its plan is built from the bounds of
what Bronze holds. -/
structure IsPlanned (orchestrator : BronzeOrchestrator) (inputs : RunInputs) (seriesId : String)
    (operation : OperationMode) (today : Date) (lake : BronzeLake) (run : PlannedRun) : Prop where
  inputs_eq : run.inputs = inputs
  registered : orchestrator.seriesRegistry seriesId = some run.contract
  provider : inputs.providers run.contract.provider = some run.provider
  plan : ∃ bounds, observationBounds orchestrator.uow.frameFormat.decode (·.observationDate)
      (bronzeMonthPath orchestrator.uow.root run.contract.key) (lake.months run.contract.key)
      = .ok bounds
    ∧ (operation = .bootstrap → bounds.maximum = none)
    ∧ buildPlan run.contract bounds today (decide (operation = .reconcile)) orchestrator.config
      = .ok run.plan
  started : utcNow inputs.started = .ok run.started

theorem wp_planRun (orchestrator : BronzeOrchestrator) (inputs : RunInputs) (seriesId : String)
    (operation : OperationMode) (today : Date) (lake : BronzeLake) :
    wp (orchestrator.planRun inputs seriesId operation today)
      ⟨fun run s => s = lake ∧ IsPlanned orchestrator inputs seriesId operation today lake run,
        fun _ s => s = lake, fun s => s = lake⟩ lake := by
  unfold BronzeOrchestrator.planRun
  refine wp_bind (wp_ofExcept (fun contract hcontract => ?_) (fun _ _ => rfl))
  refine wp_bind (wp_ofExcept (fun provider hprovider => ?_) (fun _ _ => rfl))
  refine wp_bind (wp_query (fun bounds hbounds => ?_) (fun _ => rfl) rfl)
  refine wp_bind (wp_require (fun hbootstrap => ?_) (fun _ => rfl))
  refine wp_bind (wp_ofExcept (fun plan hplan => ?_) (fun _ _ => rfl))
  refine wp_bind (wp_require (fun _ => ?_) (fun _ => rfl))
  refine wp_bind (wp_require (fun _ => ?_) (fun _ => rfl))
  refine wp_bind (wp_ofExcept (fun started hstarted => ?_) (fun _ _ => rfl))
  refine wp_pure ⟨rfl, rfl, ?_, ?_, ⟨bounds, hbounds, fun hop => ?_, hplan⟩, hstarted⟩
  · exact BronzeOrchestrator.resolveSeries_eq_ok hcontract
  · unfold BronzeOrchestrator.resolveProvider at hprovider
    split at hprovider
    · next found hfound => rw [hfound, Except.ok.inj hprovider]
    · cases hprovider
  · rw [← Option.not_isSome_iff_eq_none]
    exact fun hsome => hbootstrap ⟨hop, hsome⟩

/-- The failure of a run has been recorded, and nothing else. -/
def RecordsFailure (orchestrator : BronzeOrchestrator) (run : PlannedRun) (lake s : BronzeLake) :
    Prop :=
  ∃ completed fetchedRows acceptedRows e record,
    record.toRunFields = failedFields run completed fetchedRows acceptedRows e
    ∧ RunWritten orchestrator.uow record lake s

/-- **What a run that has raised leaves**: everything as it was, but for the record of its
failure at most. -/
def LeavesFailed (orchestrator : BronzeOrchestrator) (run : PlannedRun) (lake s : BronzeLake) :
    Prop :=
  s = lake ∨ RecordsFailure orchestrator run lake s

theorem wp_recordRun (orchestrator : BronzeOrchestrator) (run : PlannedRun)
    (fetchedRows acceptedRows : ℕ) (e : PyError) (lake : BronzeLake) :
    wp (orchestrator.recordRun run fetchedRows acceptedRows e)
      ⟨fun _ s => RecordsFailure orchestrator run lake s,
        fun _ s => LeavesFailed orchestrator run lake s,
        fun s => LeavesFailed orchestrator run lake s⟩ lake := by
  unfold BronzeOrchestrator.recordRun
  refine wp_bind (wp_ofExcept (fun completed _ => ?_) (fun _ _ => .inl rfl))
  refine wp_bind (wp_ofExcept (fun record hrecord => ?_) (fun _ _ => .inl rfl))
  have hfields := ingestionRunRecord_eq_ok hrecord
  have hend : ∀ s, RunWritten orchestrator.uow record lake s →
      RecordsFailure orchestrator run lake s :=
    fun s hs => ⟨completed, fetchedRows, acceptedRows, e, record, hfields, hs⟩
  exact wp_mono (wp_recordFailure orchestrator.uow record lake) (fun _ s hs => hend s hs)
    (fun _ s hs => hs.imp_right (hend s)) (fun s hs => hs.imp_right (hend s))

/-- **A step of a run**: what it establishes where it returns, and a failure where it
raises without having changed anything. -/
theorem wp_orFail {α : Type} {m : BronzeProgram α} {fetchedRows acceptedRows : ℕ}
    {Q : Post BronzeLake PyError α}
    (hm : wp m ⟨Q.returned, fun _ s => s = lake, Q.crashed⟩ lake)
    (hraise : ∀ e s, LeavesFailed orchestrator run lake s → Q.raised e s)
    (hcrash : ∀ s, LeavesFailed orchestrator run lake s → Q.crashed s) :
    wp (orchestrator.orFail run fetchedRows acceptedRows m) Q lake := by
  unfold BronzeOrchestrator.orFail
  refine wp_tryCatch (wp_mono hm (fun _ _ h => h) (fun e s hs => ?_) (fun _ h => h))
  subst hs
  exact wp_bind (wp_mono (wp_recordRun orchestrator run fetchedRows acceptedRows e s)
    (fun _ s' hs' => wp_throw (hraise e s' (.inr hs'))) (fun _ s' hs' => hraise _ s' hs')
    (fun s' hs' => hcrash s' hs'))

/-- **What a run that has returned has done.** -/
structure HasCommitted (orchestrator : BronzeOrchestrator) (run : PlannedRun)
    (lake s : BronzeLake) (accepted : BronzeFrame) (prepared : PreparedBronze)
    (record : IngestionRunRecord) (next : IngestionState) : Prop where
  fetched : ∃ incoming, fetchRun run = .ok incoming ∧ enforceWindow incoming run.plan = .ok accepted
    ∧ ∃ completed, record.toRunFields
        = successFields run completed incoming.rows.length accepted.rows.length prepared
      ∧ ∃ states, readStates orchestrator.uow.stateFormat lake.states = .ok states
        ∧ advanceState (stateOf states run.contract) run.plan completed prepared.postBounds
          incoming.rows.length accepted.rows.length
          (prepared.diff.inserts.rows.length + prepared.diff.revisions.rows.length) true true
          = .ok next
  merge : (orchestrator.uow.readBronze lake run.contract.key >>= fun existing =>
    prepareFrame run.contract existing accepted) = .ok prepared
  commits : ∃ months, changedMonths prepared.diff.changed = .ok months
    ∧ Commits orchestrator.uow prepared months record next lake s

/-- What is ready to be committed of a prepared merge. -/
structure IsReady (orchestrator : BronzeOrchestrator) (run : PlannedRun) (lake : BronzeLake)
    (fetchedRows acceptedRows : ℕ) (prepared : PreparedBronze) (ready : ReadyCommit) : Prop where
  prepared_eq : ready.prepared = prepared
  record : ∃ completed, ready.record.toRunFields
      = successFields run completed fetchedRows acceptedRows prepared
    ∧ ∃ states, readStates orchestrator.uow.stateFormat lake.states = .ok states
      ∧ advanceState (stateOf states run.contract) run.plan completed prepared.postBounds
        fetchedRows acceptedRows
        (prepared.diff.inserts.rows.length + prepared.diff.revisions.rows.length) true true
        = .ok ready.state

theorem wp_readyRun (orchestrator : BronzeOrchestrator) (run : PlannedRun)
    (fetchedRows acceptedRows : ℕ) (prepared : PreparedBronze) (lake : BronzeLake) :
    wp (orchestrator.readyRun run fetchedRows acceptedRows prepared)
      ⟨fun ready s => s = lake ∧ IsReady orchestrator run lake fetchedRows acceptedRows prepared ready,
        fun _ s => s = lake, fun s => s = lake⟩ lake := by
  unfold BronzeOrchestrator.readyRun
  refine wp_bind (wp_ofExcept (fun completed _ => ?_) (fun _ _ => rfl))
  refine wp_bind (wp_ofExcept (fun record hrecord => ?_) (fun _ _ => rfl))
  refine wp_bind (wp_query (fun prior hprior => ?_) (fun _ => rfl) rfl)
  refine wp_bind (wp_ofExcept (fun next hnext => ?_) (fun _ _ => rfl))
  refine wp_pure ⟨rfl, rfl, completed, ingestionRunRecord_eq_ok hrecord, ?_⟩
  cases hstates : readStates orchestrator.uow.stateFormat lake.states with
  | error e =>
    rw [hstates] at hprior
    cases hprior
  | ok states =>
    rw [hstates] at hprior
    obtain rfl := Except.ok.inj hprior
    exact ⟨states, rfl, hnext⟩

/-- **A planned run** commits everything, or leaves the record of its failure at most. -/
theorem wp_runPlanned (orchestrator : BronzeOrchestrator) (run : PlannedRun) (lake : BronzeLake) :
    wp (orchestrator.runPlanned run)
      ⟨fun result s => ∃ accepted prepared record next,
          HasCommitted orchestrator run lake s accepted prepared record next
          ∧ result = runResult run prepared,
        fun _ s => LeavesFailed orchestrator run lake s,
        fun s => LeavesFailed orchestrator run lake s
          ∨ ∃ months, AgreesOutside run.contract.key months lake s⟩ lake := by
  unfold BronzeOrchestrator.runPlanned
  refine wp_bind (wp_orFail (wp_ofExcept (fun incoming hfetch => ?_) (fun _ _ => rfl))
    (fun _ _ h => h) (fun _ h => .inl h))
  refine wp_bind (wp_orFail (wp_ofExcept (fun accepted haccepted => ?_) (fun _ _ => rfl))
    (fun _ _ h => h) (fun _ h => .inl h))
  refine wp_bind (wp_orFail (wp_query (fun prepared hprepared => ?_) (fun _ => rfl)
    (.inl (.inl rfl))) (fun _ _ h => h) (fun _ h => .inl h))
  refine wp_bind (wp_orFail (wp_mono (wp_readyRun orchestrator run _ _ prepared lake)
    (fun ready s hs => ?_) (fun _ _ h => h) (fun s hs => .inl (.inl hs))) (fun _ _ h => h)
    (fun _ h => .inl h))
  obtain ⟨rfl, hready⟩ := hs
  refine wp_bind (wp_orFail (wp_mono (wp_commitSuccess orchestrator.uow ready.prepared ready.record
    ready.state s) (fun _ s' hs' => ?_) (fun _ _ h => h) (fun s' hs' => ?_)) (fun _ _ h => h)
    (fun _ h => .inl h))
  · rw [hready.prepared_eq] at hs'
    obtain ⟨completed, hrecord, hstates⟩ := hready.record
    exact wp_pure ⟨accepted, prepared, ready.record, ready.state,
      ⟨⟨incoming, hfetch, haccepted, completed, hrecord, hstates⟩, hprepared, hs'⟩, rfl⟩
  · obtain ⟨months, hs'⟩ := hs'
    obtain ⟨existing, -, hmerge⟩ := bind_eq_ok.mp hprepared
    rw [hready.prepared_eq, prepareFrame_contract hmerge] at hs'
    exact .inr ⟨months, hs'⟩

/-- **A run** commits everything or raises, with the record of its failure at most if it was
planned and with nothing if it was not. -/
theorem wp_runSeries (orchestrator : BronzeOrchestrator) (inputs : RunInputs) (seriesId : String)
    (operation : OperationMode) (today : Date) (lake : BronzeLake) :
    wp (orchestrator.runSeries inputs seriesId operation today)
      ⟨fun result s => ∃ run, IsPlanned orchestrator inputs seriesId operation today lake run
          ∧ ∃ accepted prepared record next,
            HasCommitted orchestrator run lake s accepted prepared record next
            ∧ result = runResult run prepared,
        fun _ s => s = lake
          ∨ ∃ run, IsPlanned orchestrator inputs seriesId operation today lake run
            ∧ RecordsFailure orchestrator run lake s,
        fun _ => True⟩ lake := by
  unfold BronzeOrchestrator.runSeries
  refine wp_bind (wp_mono (wp_planRun orchestrator inputs seriesId operation today lake)
    (fun run s hs => ?_) (fun _ _ h => .inl h) (fun _ _ => trivial))
  obtain ⟨rfl, hrun⟩ := hs
  exact wp_mono (wp_runPlanned orchestrator run s) (fun _ _ h => ⟨run, hrun, h⟩)
    (fun _ _ h => h.imp_right (fun h => ⟨run, hrun, h⟩)) (fun _ _ => trivial)

/-- The record of a failure is the only one of its run, and claims no write. -/
theorem RecordsFailure.records (h : RecordsFailure orchestrator run lake s) :
    ∃ records record, readRuns orchestrator.uow.runFormat s.runs = .ok records
      ∧ records.filter (fun r => decide (r.runId = run.inputs.runId)) = [record]
      ∧ record.status = .failed ∧ record.insertedRows = 0 ∧ record.revisedRows = 0
      ∧ record.writtenPartitions = 0 := by
  obtain ⟨completed, fetchedRows, acceptedRows, e, record, hfields, bytes, hbytes, rfl⟩ := h
  obtain ⟨records, hrecords, hfilter⟩ := upsertRun_filter hbytes
  have hid : record.runId = run.inputs.runId := congrArg RunFields.runId hfields
  have hstatus : record.status = .failed := congrArg RunFields.status hfields
  refine ⟨records, sanitizeRecord orchestrator.uow.secrets record, hrecords, ?_, hstatus, ?_⟩
  · rwa [hid] at hfilter
  · exact record.failed_writesNothing hstatus

/-- A failure is recorded where the record can be built and the manifest read. -/
theorem succeeds_recordRun {fetchedRows acceptedRows : ℕ} {e : PyError} {completed : Timestamp}
    {record : IngestionRunRecord} {existing : List IngestionRunRecord}
    (hclock : utcNow run.inputs.failed = .ok completed)
    (hrecord : ingestionRunRecord (failedFields run completed fetchedRows acceptedRows e)
      = .ok record)
    (hread : readRuns orchestrator.uow.runFormat lake.runs = .ok existing)
    (hnodup : (existing.map (·.runId)).Nodup) :
    Succeeds (orchestrator.recordRun run fetchedRows acceptedRows e) lake
      (fun _ s => RecordsFailure orchestrator run lake s) := by
  obtain ⟨bytes, hbytes⟩ : ∃ bytes,
      upsertRun orchestrator.uow.runFormat orchestrator.uow.secrets lake.runs record = .ok bytes :=
    upsertRun_isOk hread hnodup record
  refine succeeds_bind (succeeds_ofExcept hclock (succeeds_bind (succeeds_ofExcept hrecord ?_)))
  exact succeeds_writeRun hbytes ⟨completed, fetchedRows, acceptedRows, e, record,
    ingestionRunRecord_eq_ok hrecord, bytes, hbytes, rfl⟩

/-- The window check passes frames on as they are. -/
theorem enforceWindow_eq_ok {frame accepted : BronzeFrame} {plan : FetchInstruction}
    (h : enforceWindow frame plan = .ok accepted) :
    accepted = frame ∧ (plan.mode = .update → ∀ row ∈ frame.rows, ∀ start ∈ plan.logicalStart,
      start ≤ row.observationDate ∧ row.observationDate ≤ plan.requestEnd) := by
  unfold enforceWindow at h
  split_ifs at h with hskip
  · obtain rfl := Except.ok.inj h
    refine ⟨rfl, fun hmode row hrow => ?_⟩
    have hempty := hskip.resolve_left (fun hne => hne hmode)
    rw [Frame.isEmpty_iff] at hempty
    rw [hempty] at hrow
    cases hrow
  · split at h
    · cases h
    · next start hstart =>
      simp only [bind_eq_ok, check_eq_ok, exists_const] at h
      obtain ⟨-, hrows, h⟩ := h
      refine ⟨(Except.ok.inj h).symm, fun _ row hrow start' hstart' => ?_⟩
      rw [hstart] at hstart'
      cases hstart'
      exact hrows row hrow

/-- Rows of the window pass. -/
theorem enforceWindow_isOk {frame : BronzeFrame} {plan : FetchInstruction}
    (hcolumn : "observation_date" ∈ frame.columns)
    (h : plan.mode = .update → ∃ start, plan.logicalStart = some start ∧ ∀ row ∈ frame.rows,
      start ≤ row.observationDate ∧ row.observationDate ≤ plan.requestEnd) :
    enforceWindow frame plan = .ok frame := by
  unfold enforceWindow
  split_ifs with hskip
  · rfl
  · push Not at hskip
    obtain ⟨start, hstart, hrows⟩ := h hskip.1
    rw [hstart]
    exact bind_eq_ok.mpr ⟨(), check_eq_ok.mpr hcolumn, bind_eq_ok.mpr
      ⟨(), check_eq_ok.mpr hrows, rfl⟩⟩

section Committed

variable {contract : SeriesContract} {frame accepted : BronzeFrame} {prepared : PreparedBronze}
  {record : IngestionRunRecord} {next : IngestionState}

/-- A run is about the series that is registered. -/
theorem IsPlanned.contract_eq
    (h : IsPlanned orchestrator inputs seriesId operation today lake run)
    (hcontract : orchestrator.seriesRegistry seriesId = some contract) : run.contract = contract :=
  Option.some.inj (h.registered.symm.trans hcontract)

/-- **The store after a run** holds the merge of what it held and what was accepted. -/
theorem HasCommitted.holds (h : HasCommitted orchestrator run lake s accepted prepared record next)
    (hholds : BronzeHolds orchestrator.uow run.contract lake frame)
    (hschema : frame.rows ≠ [] ∨ accepted.schema = bronzeSchema run.contract.nativeShape) :
    BronzeHolds orchestrator.uow run.contract s prepared.merged
      ∧ IsPrepared frame accepted run.contract prepared := by
  have hprepared := hholds.isPrepared hschema h.merge
  obtain ⟨months, hmonths, hcommits⟩ := h.commits
  exact ⟨hholds.commit hprepared hmonths hcommits.toWritesMonths, hprepared⟩

/-- **The states after a run**: the new one of its series, and those of the others. -/
theorem HasCommitted.states (h : HasCommitted orchestrator run lake s accepted prepared record next) :
    next.key = run.contract.key ∧ next.lastObservedDate = prepared.postBounds.maximum
      ∧ ∃ existing states, readStates orchestrator.uow.stateFormat lake.states = .ok existing
        ∧ readStates orchestrator.uow.stateFormat s.states = .ok states
        ∧ (states.map IngestionState.key).Nodup
        ∧ ∀ state, state ∈ states ↔ state = next ∨ state ∈ existing ∧ state.key ≠ next.key := by
  obtain ⟨incoming, -, -, completed, -, states, -, hnext⟩ := h.fetched
  obtain ⟨hkey, hlast⟩ := advanceState_eq_ok hnext
  rw [stateOf_key] at hkey
  obtain ⟨months, -, hcommits⟩ := h.commits
  obtain ⟨bytes, hbytes, hstates⟩ := hcommits.states
  obtain ⟨existing, rows, hread, hrows, hspec⟩ := upsertState_spec hbytes
  exact ⟨hkey, hlast, existing, rows, hread, hstates ▸ hrows, hspec⟩

end Committed

/-- The last date of some rows. -/
def latestDate (frame : BronzeFrame) : Option Date := (frame.rows.map (·.observationDate)).max?

/-- **The plan of a run** is the plan from the last date that the store holds. -/
theorem IsPlanned.buildPlan_eq {frame : BronzeFrame}
    (h : IsPlanned orchestrator inputs seriesId operation today lake run)
    (hholds : BronzeHolds orchestrator.uow run.contract lake frame) :
    (operation = .bootstrap → latestDate frame = none)
      ∧ buildPlan run.contract ⟨(frame.rows.map (·.observationDate)).min?, latestDate frame⟩ today
        (decide (operation = .reconcile)) orchestrator.config = .ok run.plan := by
  obtain ⟨bounds, hbounds, hbootstrap, hplan⟩ := h.plan
  rw [hholds.observationBounds_eq] at hbounds
  obtain rfl := Except.ok.inj hbounds
  exact ⟨hbootstrap, hplan⟩

/-- **A run succeeds** when nothing fails: its plan can be made, its provider answers with
rows of the series that the window admits, the clock is aware and does not run backwards,
and the shared files can be read. -/
theorem succeeds_runSeries {contract : SeriesContract} {adapter : MarketDataProvider}
    {frame incoming : BronzeFrame} {plan : FetchInstruction} {request : ProviderRequest}
    {started completed : Timestamp} {records : List IngestionRunRecord}
    {states : List IngestionState}
    (hcontract : orchestrator.seriesRegistry seriesId = some contract)
    (hadapter : inputs.providers contract.provider = some adapter)
    (hholds : BronzeHolds orchestrator.uow contract lake frame)
    (hbootstrap : operation = .bootstrap → latestDate frame = none)
    (hplan : buildPlan contract ⟨(frame.rows.map (·.observationDate)).min?, latestDate frame⟩ today
      (decide (operation = .reconcile)) orchestrator.config = .ok plan)
    (hstarted : inputs.started = .utc started) (hcompleted : inputs.completed = .utc completed)
    (hclock : started ≤ completed) (hid : isBlank inputs.runId = false)
    (hrequest : providerRequest plan = .ok request) (hfetch : adapter contract request = .ok incoming)
    (hwindow : enforceWindow incoming plan = .ok incoming)
    (hschema : incoming.schema = bronzeSchema contract.nativeShape)
    (hnodup : (incoming.rows.map BronzeRow.key).Nodup)
    (hdates : ∀ r ∈ incoming.rows, dateMin ≤ r.observationDate ∧ r.observationDate ≤ dateMax)
    (hruns : readRuns orchestrator.uow.runFormat lake.runs = .ok records)
    (hrunIds : (records.map (·.runId)).Nodup)
    (hstates : readStates orchestrator.uow.stateFormat lake.states = .ok states)
    (hstateKeys : (states.map IngestionState.key).Nodup) :
    Succeeds (orchestrator.runSeries inputs seriesId operation today) lake
      (fun result s => ∃ run, IsPlanned orchestrator inputs seriesId operation today lake run
        ∧ run.contract = contract ∧ run.plan = plan ∧ ∃ prepared record next,
          HasCommitted orchestrator run lake s incoming prepared record next
          ∧ result = runResult run prepared) := by
  have hadapter' : BronzeOrchestrator.resolveProvider inputs contract.provider = .ok adapter := by
    rw [BronzeOrchestrator.resolveProvider, hadapter]
  have hresolve : orchestrator.resolveSeries seriesId = .ok contract := by
    rw [BronzeOrchestrator.resolveSeries, hcontract]
  have hbounds := hholds.observationBounds_eq (bronzeMonthPath orchestrator.uow.root contract.key)
  have hnone : ¬ (operation = .bootstrap ∧ (latestDate frame).isSome = true) := by
    rintro ⟨hop, hsome⟩
    rw [hbootstrap hop] at hsome
    cases hsome
  -- the guards on the plan hold of every plan that is made
  have hguards : (operation = .bootstrap → plan.mode = .bootstrap)
      ∧ (operation = .update ∧ (latestDate frame).isSome = true →
        plan.mode = .update ∧ plan.maximumHistory = false) := by
    rcases buildPlan_cases hplan with ⟨hmax, -, rfl⟩ | ⟨latest, hmax, -, hmode, rfl⟩
      | ⟨latest, hmax, -, hmode, -, rfl⟩
    · refine ⟨fun _ => rfl, fun hop => ?_⟩
      have hmax : latestDate frame = none := hmax
      rw [hmax] at hop
      cases hop.2
    · rw [of_decide_eq_true hmode]
      exact ⟨nofun, nofun⟩
    · refine ⟨fun hop => ?_, fun _ => ⟨rfl, rfl⟩⟩
      have hmax : latestDate frame = some latest := hmax
      rw [hbootstrap hop] at hmax
      cases hmax
  have hstarted' : utcNow inputs.started = .ok started := by rw [hstarted]; rfl
  have hcompleted' : utcNow inputs.completed = .ok completed := by rw [hcompleted]; rfl
  have hrun : IsPlanned orchestrator inputs seriesId operation today lake
      ⟨inputs, contract, adapter, plan, started⟩ :=
    ⟨rfl, hcontract, hadapter, ⟨_, hbounds, hbootstrap, hplan⟩, hstarted'⟩
  obtain ⟨prepared, hprepared⟩ := hholds.exists_prepared hschema hnodup hdates
  have hisPrepared := hholds.isPrepared (.inr hschema) hprepared
  obtain ⟨months, hmonths, -⟩ := hisPrepared.months
  obtain ⟨record, hrecord⟩ : ∃ record, ingestionRunRecord (successFields
      ⟨inputs, contract, adapter, plan, started⟩ completed incoming.rows.length incoming.rows.length
      prepared) = .ok record :=
    ingestionRunRecord_isOk hid (by simp [RunFields.counts, successFields]) hclock nofun
  have hcount : (0 : ℤ) ≤ incoming.rows.length := Int.natCast_nonneg _
  have hchanged : (0 : ℤ) ≤ prepared.diff.inserts.rows.length + prepared.diff.revisions.rows.length :=
    by positivity
  obtain ⟨next, hnext⟩ := advanceState_isOk (stateOf states contract) plan completed
    prepared.postBounds hcount hcount hchanged
  obtain ⟨bytes, hbytes⟩ : ∃ bytes,
      upsertRun orchestrator.uow.runFormat orchestrator.uow.secrets lake.runs record = .ok bytes :=
    upsertRun_isOk hruns hrunIds record
  obtain ⟨bytes', hbytes'⟩ := upsertState_isOk hstates hstateKeys next
  have hprior : (readStates orchestrator.uow.stateFormat lake.states).map (stateOf · contract)
      = .ok (stateOf states contract) := by
    rw [hstates]
    rfl
  unfold BronzeOrchestrator.runSeries BronzeOrchestrator.planRun
  refine succeeds_bind (succeeds_bind (succeeds_ofExcept hresolve ?_))
  refine succeeds_bind (succeeds_ofExcept hadapter' ?_)
  refine succeeds_bind (succeeds_query hbounds ?_)
  refine succeeds_bind (succeeds_require hnone ?_)
  refine succeeds_bind (succeeds_ofExcept hplan ?_)
  refine succeeds_bind (succeeds_require hguards.1 ?_)
  refine succeeds_bind (succeeds_require hguards.2 ?_)
  refine succeeds_bind (succeeds_ofExcept hstarted' (succeeds_pure ?_))
  unfold BronzeOrchestrator.runPlanned BronzeOrchestrator.orFail
  refine succeeds_bind (Succeeds.tryCatch (succeeds_ofExcept
    (bind_eq_ok.mpr ⟨request, hrequest, hfetch⟩) ?_))
  refine succeeds_bind (Succeeds.tryCatch (succeeds_ofExcept hwindow ?_))
  refine succeeds_bind (Succeeds.tryCatch (succeeds_query hprepared ?_))
  refine succeeds_bind (Succeeds.tryCatch ?_)
  refine succeeds_bind (succeeds_ofExcept hcompleted' ?_)
  refine succeeds_bind (succeeds_ofExcept hrecord ?_)
  refine succeeds_bind (succeeds_query hprior ?_)
  refine succeeds_bind (succeeds_ofExcept hnext (succeeds_pure ?_))
  refine succeeds_bind (Succeeds.tryCatch ((succeeds_commitSuccess hmonths hbytes hbytes').mono
    (fun _ s hs => succeeds_pure ?_)))
  exact ⟨_, hrun, rfl, rfl, prepared, record, next, ⟨⟨incoming, bind_eq_ok.mpr
    ⟨request, hrequest, hfetch⟩, hwindow, completed, ingestionRunRecord_eq_ok hrecord, states,
    hstates, hnext⟩, hprepared, months, hmonths, hs⟩, rfl⟩

end Specs
