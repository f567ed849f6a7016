import MacroLoader.BronzeOrchestration
import MacroLoader.Interleaving

/-!
# Bronze runs as workers

`run_many` runs several series at the same time. Their month files are apart, but the
manifest of runs and the ingestion states are files that they all share, that each of them
rewrites whole, and that each of them puts back when its commit fails. Only the commits and
the records of failures are made under a lock; the reading is not.

Here a run is written as a script, with a step for every reading and one for everything under
the lock (`BronzeOrchestrator.seriesScript`). Each run owns the months and the state of its
series and the records under its run id, and that it neither reads nor changes anything else
of the files is what this module proves of every step (`keeps_seriesScript`).
-/

open Program

/-! ## Scripts -/

/-- **How a run ends.** A failure may be left without its record, if recording it raises. -/
inductive RunEnd
  | notPlanned (e : PyError)
  | succeeded (run : PlannedRun) (result : SeriesRunResult)
  | failed (run : PlannedRun) (e : PyError)
  | unrecorded (run : PlannedRun) (e : PyError)

/-- What a caller sees of the end of a run. -/
def RunEnd.finish : RunEnd → BronzeProgram SeriesRunResult
  | .succeeded _ result => pure result
  | .notPlanned e | .failed _ e | .unrecorded _ e => throw e

/-- **What others may see while a run is being committed**, or rolled back: of the shared
files the old one or the new one, and the months of other series. -/
structure Committing (uow : BronzeUnitOfWork) (ready : ReadyCommit) (lake seen : BronzeLake) :
    Prop where
  months : ∀ key, key ≠ ready.prepared.contract.key → seen.months key = lake.months key
  runs : seen.runs = lake.runs
    ∨ ∃ bytes, upsertRun uow.runFormat uow.secrets lake.runs ready.record = .ok bytes
      ∧ seen.runs = some bytes
  states : seen.states = lake.states
    ∨ ∃ bytes, upsertState uow.stateFormat lake.states ready.state = .ok bytes
      ∧ seen.states = some bytes

namespace BronzeOrchestrator

variable (orchestrator : BronzeOrchestrator)

/-- The record of a failure. -/
def recordScript (run : PlannedRun) (fetchedRows acceptedRows : ℕ) (e : PyError) :
    Script BronzeLake PyError RunEnd :=
  .locked (orchestrator.recordRun run fetchedRows acceptedRows e) (LeavesFailed orchestrator run)
    (fun
      | .ok () => .done (.failed run e)
      | .error e' => .done (.unrecorded run e'))

/-- A step of a planned run outside the lock. -/
def readScript {α : Type} (run : PlannedRun) (fetchedRows acceptedRows : ℕ) (m : BronzeProgram α)
    (next : α → Script BronzeLake PyError RunEnd) : Script BronzeLake PyError RunEnd :=
  .reading m
    (fun
      | .ok a => next a
      | .error e => orchestrator.recordScript run fetchedRows acceptedRows e)

/-- The commit of a run. -/
def commitScript (run : PlannedRun) (fetchedRows acceptedRows : ℕ) (prepared : PreparedBronze)
    (ready : ReadyCommit) : Script BronzeLake PyError RunEnd :=
  .locked (orchestrator.commitRun ready) (Committing orchestrator.uow ready)
    (fun
      | .ok () => .done (.succeeded run (runResult run prepared))
      | .error e => orchestrator.recordScript run fetchedRows acceptedRows e)

/-- A planned run, in its steps. -/
def plannedScript (run : PlannedRun) : Script BronzeLake PyError RunEnd :=
  orchestrator.readScript run 0 0 (ofExcept (fetchRun run)) fun incoming =>
  orchestrator.readScript run incoming.rows.length 0
    (ofExcept (enforceWindow incoming run.plan)) fun accepted =>
  orchestrator.readScript run incoming.rows.length accepted.rows.length
    (orchestrator.uow.prepare run.contract accepted) fun prepared =>
  orchestrator.readScript run incoming.rows.length accepted.rows.length
    (orchestrator.readyRun run incoming.rows.length accepted.rows.length prepared) fun ready =>
  orchestrator.commitScript run incoming.rows.length accepted.rows.length prepared ready

/-- **`run_series`, in its steps.** -/
def seriesScript (inputs : RunInputs) (seriesId : String) (operation : OperationMode)
    (today : Date) : Script BronzeLake PyError RunEnd :=
  .reading (orchestrator.planRun inputs seriesId operation today)
    (fun
      | .ok run => orchestrator.plannedScript run
      | .error e => .done (.notPlanned e))

end BronzeOrchestrator

/-! ### A script is its run -/

section Scripts

variable {orchestrator : BronzeOrchestrator} {inputs : RunInputs} {seriesId : String}
  {operation : OperationMode} {today : Date} {run : PlannedRun} {fetchedRows acceptedRows : ℕ}

/-- Recording a failure raises, whether it goes through or not. -/
theorem recordRun_bind_eq {α : Type} (e : PyError) (k : α → BronzeProgram SeriesRunResult) :
    (orchestrator.recordRun run fetchedRows acceptedRows e >>= fun _ => throw e) >>= k
      = (orchestrator.recordScript run fetchedRows acceptedRows e).run >>= RunEnd.finish := by
  rw [run_bind_assoc, bind_eq_attempt]
  show _ = (attempt _ >>= _) >>= _
  rw [run_bind_assoc]
  refine congrArg _ (funext (fun r => ?_))
  cases r with
  | ok _ => rfl
  | error e' => rfl

theorem orFail_bind_eq {α : Type} {m : BronzeProgram α}
    {k : α → BronzeProgram SeriesRunResult}
    {next : Except PyError α → Script BronzeLake PyError RunEnd}
    (hok : ∀ a, k a = (next (.ok a)).run >>= RunEnd.finish)
    (herror : ∀ e, next (.error e) = orchestrator.recordScript run fetchedRows acceptedRows e) :
    orchestrator.orFail run fetchedRows acceptedRows m >>= k
      = (attempt m >>= fun r => (next r).run) >>= RunEnd.finish := by
  unfold BronzeOrchestrator.orFail
  rw [tryCatch_bind_eq_attempt, run_bind_assoc]
  refine congrArg _ (funext (fun r => ?_))
  cases r with
  | ok a => exact hok a
  | error e =>
    rw [herror]
    exact recordRun_bind_eq e k

/-- **A script is its run**: made without interruption, its steps are `run_series`. -/
theorem runSeries_eq_run (orchestrator : BronzeOrchestrator) (inputs : RunInputs)
    (seriesId : String) (operation : OperationMode) (today : Date) :
    orchestrator.runSeries inputs seriesId operation today
      = (orchestrator.seriesScript inputs seriesId operation today).run >>= RunEnd.finish := by
  unfold BronzeOrchestrator.runSeries
  rw [bind_eq_attempt]
  show _ = (attempt _ >>= _) >>= _
  rw [run_bind_assoc]
  refine congrArg _ (funext (fun r => ?_))
  cases r with
  | error e => rfl
  | ok run =>
    unfold BronzeOrchestrator.runPlanned
    refine orFail_bind_eq (fun incoming => ?_) (fun _ => rfl)
    refine orFail_bind_eq (fun accepted => ?_) (fun _ => rfl)
    refine orFail_bind_eq (fun prepared => ?_) (fun _ => rfl)
    refine orFail_bind_eq (fun ready => ?_) (fun _ => rfl)
    exact orFail_bind_eq (fun _ => rfl) (fun _ => rfl)

/-- **What a run leaves**, by how it ends. -/
def RunEnd.Leaves (orchestrator : BronzeOrchestrator) (inputs : RunInputs) (seriesId : String)
    (operation : OperationMode) (today : Date) (lake s : BronzeLake) : RunEnd → Prop
  | .notPlanned _ => s = lake
  | .succeeded run result => IsPlanned orchestrator inputs seriesId operation today lake run
    ∧ ∃ accepted prepared record next,
      HasCommitted orchestrator run lake s accepted prepared record next
      ∧ result = runResult run prepared
  | .failed run _ => IsPlanned orchestrator inputs seriesId operation today lake run
    ∧ RecordsFailure orchestrator run lake s
  | .unrecorded run _ => IsPlanned orchestrator inputs seriesId operation today lake run
    ∧ LeavesFailed orchestrator run lake s

/-- The postcondition of a run. -/
def leavesPost (orchestrator : BronzeOrchestrator) (inputs : RunInputs) (seriesId : String)
    (operation : OperationMode) (today : Date) (lake : BronzeLake) :
    Post BronzeLake PyError RunEnd :=
  ⟨fun last s => last.Leaves orchestrator inputs seriesId operation today lake s,
    fun _ _ => False, fun _ => True⟩

variable {lake : BronzeLake}

theorem wp_recordScript (hrun : IsPlanned orchestrator inputs seriesId operation today lake run)
    (e : PyError) :
    wp (orchestrator.recordScript run fetchedRows acceptedRows e).run
      (leavesPost orchestrator inputs seriesId operation today lake) lake :=
  wp_bind (wp_attempt (wp_mono (wp_recordRun orchestrator run fetchedRows acceptedRows e lake)
    (fun _ _ h => wp_pure ⟨hrun, h⟩) (fun _ _ h => wp_pure ⟨hrun, h⟩) (fun _ _ => trivial)))

/-- A step that fails leaves everything as it was, and is followed by the record of the
failure. -/
theorem wp_attempt_orRecord {α : Type} {m : BronzeProgram α}
    {next : Except PyError α → Script BronzeLake PyError RunEnd}
    (hrun : IsPlanned orchestrator inputs seriesId operation today lake run)
    (hm : wp m ⟨fun a s => wp (next (.ok a)).run
      (leavesPost orchestrator inputs seriesId operation today lake) s,
      fun _ s => s = lake, fun _ => True⟩ lake)
    (herror : ∀ e, next (.error e) = orchestrator.recordScript run fetchedRows acceptedRows e) :
    wp (attempt m >>= fun r => (next r).run)
      (leavesPost orchestrator inputs seriesId operation today lake) lake := by
  refine wp_bind (wp_attempt (wp_mono hm (fun _ _ h => h) (fun e s hs => ?_) (fun _ _ => trivial)))
  subst hs
  show wp (next (.error e)).run _ _
  rw [herror]
  exact wp_recordScript hrun e

/-- **A run leaves** what it has committed, or the record of its failure, or nothing. -/
theorem wp_seriesScript (orchestrator : BronzeOrchestrator) (inputs : RunInputs)
    (seriesId : String) (operation : OperationMode) (today : Date) (lake : BronzeLake) :
    wp (orchestrator.seriesScript inputs seriesId operation today).run
      (leavesPost orchestrator inputs seriesId operation today lake) lake := by
  refine wp_bind (wp_attempt (wp_mono (wp_planRun orchestrator inputs seriesId operation today lake)
    (fun run s hs => ?_) (fun _ _ hs => wp_pure hs) (fun _ _ => trivial)))
  obtain ⟨rfl, hrun⟩ := hs
  refine wp_attempt_orRecord hrun (wp_ofExcept (fun incoming hfetch => ?_) (fun _ _ => rfl))
    (fun _ => rfl)
  refine wp_attempt_orRecord hrun (wp_ofExcept (fun accepted haccepted => ?_) (fun _ _ => rfl))
    (fun _ => rfl)
  refine wp_attempt_orRecord hrun
    (wp_query (fun prepared hprepared => ?_) (fun _ => rfl) trivial) (fun _ => rfl)
  refine wp_attempt_orRecord hrun (wp_mono (wp_readyRun orchestrator run _ _ prepared s)
    (fun ready s' hs' => ?_) (fun _ _ h => h) (fun _ _ => trivial)) (fun _ => rfl)
  obtain ⟨rfl, hready⟩ := hs'
  refine wp_attempt_orRecord hrun (wp_mono (wp_commitSuccess orchestrator.uow ready.prepared
    ready.record ready.state s') (fun _ s'' hs'' => ?_) (fun _ _ h => h) (fun _ _ => trivial))
    (fun _ => rfl)
  rw [hready.prepared_eq] at hs''
  obtain ⟨completed, hrecord, hstates⟩ := hready.record
  exact wp_pure ⟨hrun, accepted, prepared, ready.record, ready.state,
    ⟨⟨incoming, hfetch, haccepted, completed, hrecord, hstates⟩, hprepared, hs''⟩, rfl⟩

end Scripts

/-! ## The shared files -/

section Shared

/-- There is a record in the manifest. -/
def HasRecord (uow : BronzeUnitOfWork) (lake : BronzeLake) (record : IngestionRunRecord) : Prop :=
  ∃ records, readRuns uow.runFormat lake.runs = .ok records ∧ record ∈ records

/-- There is a state in the store of states. -/
def HasState (uow : BronzeUnitOfWork) (lake : BronzeLake) (state : IngestionState) : Prop :=
  ∃ states, readStates uow.stateFormat lake.states = .ok states ∧ state ∈ states

/-- **The shared files can be read**, and hold no run and no series twice, as they do
whenever they have been written. -/
structure ReadableRecords (uow : BronzeUnitOfWork) (lake : BronzeLake) : Prop where
  runs : ∃ records, readRuns uow.runFormat lake.runs = .ok records
    ∧ (records.map (·.runId)).Nodup
  states : ∃ states, readStates uow.stateFormat lake.states = .ok states
    ∧ (states.map IngestionState.key).Nodup

/-- **Only what belongs to a run has been written**: the months and the state of its series
and the record under its run id. -/
structure Touches (uow : BronzeUnitOfWork) (key : SeriesKey) (runId : String)
    (lake s : BronzeLake) : Prop where
  months : ∀ key', key' ≠ key → s.months key' = lake.months key'
  runs : s.runs = lake.runs ∨ ∃ record bytes, record.runId = runId
    ∧ upsertRun uow.runFormat uow.secrets lake.runs record = .ok bytes ∧ s.runs = some bytes
  states : s.states = lake.states ∨ ∃ next bytes, next.key = key
    ∧ upsertState uow.stateFormat lake.states next = .ok bytes ∧ s.states = some bytes

variable {uow : BronzeUnitOfWork} {key : SeriesKey} {runId : String} {lake s : BronzeLake}
  {record : IngestionRunRecord} {next : IngestionState} {bytes : Bytes}

theorem hasRecord_congr (h : s.runs = lake.runs) :
    HasRecord uow s record ↔ HasRecord uow lake record := by
  rw [HasRecord, h, HasRecord]

theorem hasState_congr (h : s.states = lake.states) :
    HasState uow s next ↔ HasState uow lake next := by
  rw [HasState, h, HasState]

/-- **The records after an upsert.** -/
theorem hasRecord_upsert (h : upsertRun uow.runFormat uow.secrets lake.runs record = .ok bytes)
    (hs : s.runs = some bytes) (r : IngestionRunRecord) :
    HasRecord uow s r ↔ r = sanitizeRecord uow.secrets record
      ∨ ∃ old, HasRecord uow lake old ∧ old.runId ≠ record.runId
        ∧ r = sanitizeRecord uow.secrets old := by
  obtain ⟨existing, rows, hexisting, hrows, -, hmem⟩ := upsertRun_spec h
  unfold HasRecord
  rw [hs, hrows, hexisting]
  simp only [Except.ok.injEq, exists_eq_left', hmem]

/-- **The states after an upsert.** -/
theorem hasState_upsert (h : upsertState uow.stateFormat lake.states next = .ok bytes)
    (hs : s.states = some bytes) (state : IngestionState) :
    HasState uow s state ↔ state = next ∨ HasState uow lake state ∧ state.key ≠ next.key := by
  obtain ⟨existing, rows, hexisting, hrows, -, hmem⟩ := upsertState_spec h
  unfold HasState
  rw [hs, hrows, hexisting]
  simp only [Except.ok.injEq, exists_eq_left', hmem]

/-- What has been written can be read. -/
theorem Touches.readable (h : Touches uow key runId lake s) (hlake : ReadableRecords uow lake) :
    ReadableRecords uow s where
  runs := by
    rcases h.runs with hruns | ⟨record, bytes, -, hbytes, hruns⟩
    · rw [hruns]
      exact hlake.runs
    · obtain ⟨-, rows, -, hrows, hnodup, -⟩ := upsertRun_spec hbytes
      exact ⟨rows, hruns ▸ hrows, hnodup⟩
  states := by
    rcases h.states with hstates | ⟨next, bytes, -, hbytes, hstates⟩
    · rw [hstates]
      exact hlake.states
    · obtain ⟨-, rows, -, hrows, hnodup, -⟩ := upsertState_spec hbytes
      exact ⟨rows, hstates ▸ hrows, hnodup⟩

theorem Touches.refl (uow : BronzeUnitOfWork) (key : SeriesKey) (runId : String)
    (lake : BronzeLake) : Touches uow key runId lake lake :=
  ⟨fun _ _ => rfl, .inl rfl, .inl rfl⟩

/-- The states of other series. -/
theorem Touches.hasState_iff (h : Touches uow key runId lake s) {state : IngestionState}
    (hne : state.key ≠ key) : HasState uow s state ↔ HasState uow lake state := by
  rcases h.states with hstates | ⟨next, bytes, rfl, hbytes, hstates⟩
  · exact hasState_congr hstates
  · rw [hasState_upsert hbytes hstates]
    refine ⟨fun hstate => ?_, fun hstate => .inr ⟨hstate, hne⟩⟩
    rcases hstate with rfl | ⟨hstate, -⟩
    · exact absurd rfl hne
    · exact hstate

/-- The records of other runs are there, redacted again at most. -/
theorem Touches.hasRecord (h : Touches uow key runId lake s) {record : IngestionRunRecord}
    (hrecord : HasRecord uow lake record) (hne : record.runId ≠ runId) :
    HasRecord uow s record ∨ HasRecord uow s (sanitizeRecord uow.secrets record) := by
  rcases h.runs with hruns | ⟨written, bytes, rfl, hbytes, hruns⟩
  · exact .inl ((hasRecord_congr hruns).mpr hrecord)
  · exact .inr ((hasRecord_upsert hbytes hruns _).mpr (.inr ⟨record, hrecord, hne, rfl⟩))

/-- No others are there. -/
theorem Touches.hasRecord_of_ne (h : Touches uow key runId lake s) {record : IngestionRunRecord}
    (hrecord : HasRecord uow s record) (hne : record.runId ≠ runId) :
    ∃ old, HasRecord uow lake old ∧ (record = old ∨ record = sanitizeRecord uow.secrets old) := by
  rcases h.runs with hruns | ⟨written, bytes, rfl, hbytes, hruns⟩
  · exact ⟨record, (hasRecord_congr hruns).mp hrecord, .inl rfl⟩
  · rcases (hasRecord_upsert hbytes hruns _).mp hrecord with rfl | ⟨old, hold, -, hr⟩
    · exact absurd rfl hne
    · exact ⟨old, hold, .inr hr⟩

/-! ### Under the lock -/

variable {t : BronzeLake} {prepared : PreparedBronze} {ready : ReadyCommit} {months : List Month}

/-- What others see of a commit belongs to its run. -/
theorem Committing.touches (h : Committing uow ready lake s)
    (hkey : ready.state.key = ready.prepared.contract.key) :
    Touches uow ready.prepared.contract.key ready.record.runId lake s where
  months := h.months
  runs := h.runs.imp_right (fun ⟨bytes, h⟩ => ⟨ready.record, bytes, rfl, h⟩)
  states := h.states.imp_right (fun ⟨bytes, h⟩ => ⟨ready.state, bytes, hkey, h⟩)

theorem Committing.refl (uow : BronzeUnitOfWork) (ready : ReadyCommit) (lake : BronzeLake) :
    Committing uow ready lake lake := ⟨fun _ _ => rfl, .inl rfl, .inl rfl⟩

theorem Commits.committing
    (h : Commits uow ready.prepared months ready.record ready.state lake s) :
    Committing uow ready lake s := ⟨h.other, .inr h.runs, .inr h.states⟩

/-- The write of a record goes through in all lakes whose manifest can be read. -/
theorem wpPair_writeRun {Q : PairPost BronzeLake BronzeLake Unit Unit}
    (hs : ReadableRecords uow s) (ht : ReadableRecords uow t)
    (hr : ∀ s' t', RunWritten uow record s s' → RunWritten uow record t t' →
      Q.returned () () s' t' ∧ Q.raised s' t') (he : Q.raised s t) :
    wpPair (uow.writeRun record) (uow.writeRun record) Q s t := by
  obtain ⟨records, hread, hnodup⟩ := hs.runs
  obtain ⟨records', hread', hnodup'⟩ := ht.runs
  obtain ⟨bytes, hbytes⟩ : ∃ bytes, upsertRun uow.runFormat uow.secrets s.runs record = .ok bytes :=
    upsertRun_isOk hread hnodup record
  obtain ⟨bytes', hbytes'⟩ :
      ∃ bytes, upsertRun uow.runFormat uow.secrets t.runs record = .ok bytes :=
    upsertRun_isOk hread' hnodup' record
  have hboth := hr _ _ ⟨bytes, hbytes, rfl⟩ ⟨bytes', hbytes', rfl⟩
  exact wpPair_effect (by rw [hbytes]) (by rw [hbytes']) hboth.1 ⟨he, hboth.2⟩

theorem wpPair_writeState {Q : PairPost BronzeLake BronzeLake Unit Unit}
    (hs : ReadableRecords uow s) (ht : ReadableRecords uow t)
    (hr : ∀ s' t', Q.returned () () s' t') (he : ∀ s' t', Q.raised s' t') :
    wpPair (uow.writeState next) (uow.writeState next) Q s t := by
  obtain ⟨states, hread, hnodup⟩ := hs.states
  obtain ⟨states', hread', hnodup'⟩ := ht.states
  obtain ⟨bytes, hbytes⟩ := upsertState_isOk hread hnodup next
  obtain ⟨bytes', hbytes'⟩ := upsertState_isOk hread' hnodup' next
  exact wpPair_effect (by rw [hbytes]) (by rw [hbytes']) (hr _ _) ⟨he _ _, he _ _⟩

theorem ReadableRecords.written (h : ReadableRecords uow s) (hs : RunWritten uow record s t) :
    ReadableRecords uow t := by
  obtain ⟨bytes, hbytes, rfl⟩ := hs
  obtain ⟨-, rows, -, hrows, hnodup, -⟩ := upsertRun_spec hbytes
  exact ⟨⟨rows, hrows, hnodup⟩, h.states⟩

/-- The writes of two commits fail at the same effects. -/
theorem wpPair_commitWrites (months : List Month) (hs : ReadableRecords uow s)
    (ht : ReadableRecords uow t) :
    wpPair (uow.commitWrites prepared months record next)
      (uow.commitWrites prepared months record next)
      ⟨fun _ _ _ _ => True, fun _ _ => True⟩ s t := by
  unfold BronzeUnitOfWork.commitWrites
  refine wpPair_bind (wpPair_forEach
    (fun s t => ReadableRecords uow s ∧ ReadableRecords uow t) ⟨hs, ht⟩
    (fun month s t h => wpPair_write ⟨⟨h.1.runs, h.1.states⟩, h.2.runs, h.2.states⟩
      ⟨trivial, trivial⟩) (fun s t h => ?_))
  refine wpPair_bind (wpPair_query rfl rfl ?_ trivial)
  refine wpPair_bind (wpPair_writeRun h.1 h.2 (fun s' t' hs' ht' => ⟨?_, trivial⟩) trivial)
  refine wpPair_bind (wpPair_query rfl rfl ?_ trivial)
  refine wpPair_bind (wpPair_writeState (h.1.written hs') (h.2.written ht') (fun _ _ => ?_)
    (fun _ _ => trivial))
  exact wpPair_query rfl rfl trivial trivial

/-- **Two commits of the same** fail at the same effects. -/
theorem wpPair_commitSuccess (hs : ReadableRecords uow s) (ht : ReadableRecords uow t) :
    wpPair (uow.commitSuccess prepared record next) (uow.commitSuccess prepared record next)
      ⟨fun _ _ _ _ => True, fun _ _ => True⟩ s t := by
  unfold BronzeUnitOfWork.commitSuccess
  refine wpPair_bind (wpPair_ofExcept (fun months _ => ?_) (fun _ _ => trivial))
  refine wpPair_bind (wpPair_query rfl rfl ?_ trivial)
  exact wpPair_tryCatch (wpPair_mono (wpPair_commitWrites months hs ht) (fun _ _ _ _ _ => trivial)
    (fun _ _ _ _ => wpPair_bind (wpPair_update (wpPair_throw trivial))))

end Shared

/-! ## Who owns what -/

/-- The fields of a record, but for the error texts. -/
def RunFields.withoutTexts (fields : RunFields) : RunFields :=
  { fields with
    errorCategory := none
    errorMessage := none }

/-- **Some runs at the same time**, of distinct series and with distinct run ids. -/
structure BronzeWorkers (ι : Type) where
  seriesId : ι → String
  runId : ι → String
  seriesId_injective : Function.Injective seriesId
  runId_injective : Function.Injective runId

/-- What a run owns of the files: the months of its series, its state, and the records of its
run id. The error texts of a record are left out, since every rewriting of the manifest may
redact them again. -/
@[ext] structure OwnFiles where
  months : Option MonthFiles
  states : Set IngestionState
  records : Set RunFields

namespace BronzeWorkers

variable {ι : Type} (workers : BronzeWorkers ι) (orchestrator : BronzeOrchestrator)

/-- The series of a run. -/
def Owns (i : ι) (key : SeriesKey) : Prop :=
  ∃ contract, orchestrator.seriesRegistry (workers.seriesId i) = some contract
    ∧ contract.key = key

/-- **What belongs to no run**: other series are as they were, and of the records of other
runs nothing but the error texts has changed, and these by redaction only. -/
structure KeepsOthers (lake s : BronzeLake) : Prop where
  months : ∀ key, (∀ i, ¬ workers.Owns orchestrator i key) → s.months key = lake.months key
  states : ∀ state, (∀ i, ¬ workers.Owns orchestrator i state.key) →
    (HasState orchestrator.uow s state ↔ HasState orchestrator.uow lake state)
  kept : ∀ record, HasRecord orchestrator.uow lake record →
    (∀ i, record.runId ≠ workers.runId i) →
    ∃ n, HasRecord orchestrator.uow s ((sanitizeRecord orchestrator.uow.secrets)^[n] record)
  only : ∀ record, HasRecord orchestrator.uow s record → (∀ i, record.runId ≠ workers.runId i) →
    ∃ old n, HasRecord orchestrator.uow lake old
      ∧ record = (sanitizeRecord orchestrator.uow.secrets)^[n] old

@[simp] theorem iterate_sanitizeRecord_runId (secrets : List String) (n : ℕ)
    (record : IngestionRunRecord) : ((sanitizeRecord secrets)^[n] record).runId = record.runId := by
  induction n with
  | zero => rfl
  | succ n ih => rw [Function.iterate_succ_apply', sanitizeRecord_runId, ih]

/-- What a run owns of a lake. -/
def ownFiles (i : ι) (lake : BronzeLake) : OwnFiles where
  months := (orchestrator.seriesRegistry (workers.seriesId i)).map (fun c => lake.months c.key)
  states := {state | HasState orchestrator.uow lake state ∧ workers.Owns orchestrator i state.key}
  records := {fields | ∃ record, HasRecord orchestrator.uow lake record
    ∧ record.runId = workers.runId i ∧ fields = record.withoutTexts}

variable {workers orchestrator}

theorem KeepsOthers.trans {lake s s' : BronzeLake}
    (h : workers.KeepsOthers orchestrator lake s) (h' : workers.KeepsOthers orchestrator s s') :
    workers.KeepsOthers orchestrator lake s' where
  months key hkey := by rw [h'.months key hkey, h.months key hkey]
  states state hkey := (h'.states state hkey).trans (h.states state hkey)
  kept record hrecord hne := by
    obtain ⟨n, hn⟩ := h.kept record hrecord hne
    obtain ⟨k, hk⟩ := h'.kept _ hn (by simpa using hne)
    exact ⟨k + n, by rwa [Function.iterate_add_apply]⟩
  only record hrecord hne := by
    obtain ⟨old, n, hold, rfl⟩ := h'.only record hrecord hne
    obtain ⟨older, k, holder, rfl⟩ := h.only old hold (by simpa using hne)
    exact ⟨older, n + k, holder, by rw [Function.iterate_add_apply]⟩

variable (workers orchestrator) in
/-- **Who owns what of the Bronze files.** -/
def ownership : Ownership ι BronzeLake OwnFiles where
  valid := ReadableRecords orchestrator.uow
  own := workers.ownFiles orchestrator
  others := workers.KeepsOthers orchestrator
  others_refl _ := ⟨fun _ _ => rfl, fun _ _ => Iff.rfl, fun _ h _ => ⟨0, h⟩,
    fun record h _ => ⟨record, 0, h, rfl⟩⟩
  others_trans _ _ _ := KeepsOthers.trans

/-- A series belongs to one run. -/
theorem Owns.unique {i j : ι} {key : SeriesKey} (hi : workers.Owns orchestrator i key)
    (hj : workers.Owns orchestrator j key) : i = j := by
  obtain ⟨contract, hcontract, rfl⟩ := hi
  obtain ⟨contract', hcontract', hkey⟩ := hj
  refine workers.seriesId_injective ?_
  rw [← orchestrator.registry_id _ _ hcontract, ← orchestrator.registry_id _ _ hcontract']
  exact (congrArg Prod.snd hkey).symm

variable {i : ι} {key : SeriesKey} {lake s : BronzeLake}

/-- **A run that touches what it owns** leaves alone what the others own. -/
theorem frame_of_touches (hkey : workers.Owns orchestrator i key)
    (h : Touches orchestrator.uow key (workers.runId i) lake s)
    (hlake : ReadableRecords orchestrator.uow lake) :
    (workers.ownership orchestrator).Frame i lake s where
  valid := h.readable hlake
  own j hj := by
    have hkeys : ∀ key', workers.Owns orchestrator j key' → key' ≠ key := by
      rintro key' hkey' rfl
      exact hj (hkey'.unique hkey)
    have hid : workers.runId j ≠ workers.runId i := fun h => hj (workers.runId_injective h)
    refine OwnFiles.ext ?_ (Set.ext (fun state => and_congr_left (fun howns => ?_)))
      (Set.ext (fun fields => ⟨?_, ?_⟩))
    · refine Option.map_congr (fun contract hcontract => ?_)
      exact h.months _ (hkeys _ ⟨contract, hcontract, rfl⟩)
    · exact h.hasState_iff (hkeys _ howns)
    · rintro ⟨record, hrecord, hrunId, rfl⟩
      obtain ⟨old, hold, rfl | rfl⟩ := h.hasRecord_of_ne hrecord (hrunId ▸ hid)
      · exact ⟨record, hold, hrunId, rfl⟩
      · exact ⟨old, hold, hrunId, rfl⟩
    · rintro ⟨record, hrecord, hrunId, rfl⟩
      rcases h.hasRecord hrecord (hrunId ▸ hid) with hs | hs
      · exact ⟨record, hs, hrunId, rfl⟩
      · exact ⟨_, hs, hrunId, rfl⟩
  others := by
    refine ⟨fun key' hnone => ?_, fun state hnone => ?_, fun record hrecord hne => ?_,
      fun record hrecord hne => ?_⟩
    · exact h.months key' (fun heq => hnone i (heq ▸ hkey))
    · exact h.hasState_iff (fun heq => hnone i (heq ▸ hkey))
    · rcases h.hasRecord hrecord (hne i) with hs | hs
      · exact ⟨0, hs⟩
      · exact ⟨1, hs⟩
    · obtain ⟨old, hold, rfl | rfl⟩ := h.hasRecord_of_ne hrecord (hne i)
      · exact ⟨record, 0, hold, rfl⟩
      · exact ⟨old, 1, hold, rfl⟩

/-! ### Steps of a run -/

variable {t : BronzeLake}

theorem months_eq_of_own
    (hown : workers.ownFiles orchestrator i s = workers.ownFiles orchestrator i t)
    {contract : SeriesContract}
    (hcontract : orchestrator.seriesRegistry (workers.seriesId i) = some contract) :
    s.months contract.key = t.months contract.key := by
  have hmonths := congrArg OwnFiles.months hown
  simp only [ownFiles, hcontract, Option.map_some, Option.some.injEq] at hmonths
  exact hmonths

theorem hasState_iff_of_own
    (hown : workers.ownFiles orchestrator i s = workers.ownFiles orchestrator i t)
    {state : IngestionState} (howns : workers.Owns orchestrator i state.key) :
    HasState orchestrator.uow s state ↔ HasState orchestrator.uow t state := by
  have hstates := Set.ext_iff.mp (congrArg OwnFiles.states hown) state
  exact ⟨fun h => (hstates.mp ⟨h, howns⟩).1, fun h => (hstates.mpr ⟨h, howns⟩).1⟩

/-- The state of a series is read from the states of its key. -/
theorem stateOf_congr (hs : ReadableRecords orchestrator.uow s)
    (ht : ReadableRecords orchestrator.uow t) {contract : SeriesContract}
    (hiff : ∀ state, state.key = contract.key →
      (HasState orchestrator.uow s state ↔ HasState orchestrator.uow t state)) :
    (readStates orchestrator.uow.stateFormat s.states).map (stateOf · contract)
      = (readStates orchestrator.uow.stateFormat t.states).map (stateOf · contract) := by
  obtain ⟨states, hread, hnodup⟩ := hs.states
  obtain ⟨states', hread', hnodup'⟩ := ht.states
  have hmem : ∀ state, state.key = contract.key → (state ∈ states ↔ state ∈ states') := by
    intro state hkey
    have hstate := hiff state hkey
    simpa only [HasState, hread, hread', Except.ok.injEq, exists_eq_left'] using hstate
  rw [hread, hread']
  refine congrArg Except.ok (?_ : stateOf states contract = stateOf states' contract)
  by_cases hfound : ∃ state ∈ states, state.key = contract.key
  · obtain ⟨state, hstate, hkey⟩ := hfound
    rw [stateOf_of_mem hnodup hstate hkey,
      stateOf_of_mem hnodup' ((hmem state hkey).mp hstate) hkey]
  · push Not at hfound
    rw [stateOf_of_not_mem hfound, stateOf_of_not_mem]
    exact fun state hstate hkey => hfound state ((hmem state hkey).mpr hstate) hkey

/-- The state of a series is read from what its run owns. -/
theorem stateOf_eq_of_own
    (hown : workers.ownFiles orchestrator i s = workers.ownFiles orchestrator i t)
    (hs : ReadableRecords orchestrator.uow s) (ht : ReadableRecords orchestrator.uow t)
    {contract : SeriesContract}
    (hcontract : orchestrator.seriesRegistry (workers.seriesId i) = some contract) :
    (readStates orchestrator.uow.stateFormat s.states).map (stateOf · contract)
      = (readStates orchestrator.uow.stateFormat t.states).map (stateOf · contract) :=
  stateOf_congr hs ht (fun _ hkey => hasState_iff_of_own hown ⟨contract, hcontract, hkey.symm⟩)

/-- **A planned run of a worker.** -/
structure IsRunOf (workers : BronzeWorkers ι) (orchestrator : BronzeOrchestrator) (i : ι)
    (run : PlannedRun) : Prop where
  registered : orchestrator.seriesRegistry (workers.seriesId i) = some run.contract
  runId : run.inputs.runId = workers.runId i

theorem IsRunOf.owns {run : PlannedRun} (h : IsRunOf workers orchestrator i run) :
    workers.Owns orchestrator i run.contract.key := ⟨run.contract, h.registered, rfl⟩

variable {inputs : RunInputs} {operation : OperationMode} {today : Date} {run : PlannedRun}
  {fetchedRows acceptedRows : ℕ} {prepared : PreparedBronze} {ready : ReadyCommit}

theorem local_ofExcept {α : Type} (r : Except PyError α) :
    (workers.ownership orchestrator).Local i (ofExcept r) (fun _ => True) :=
  .of_reads (moves_ofExcept r) (fun _ => wp_ofExcept (fun _ _ => trivial) (fun _ _ => trivial))
    (fun _ _ _ _ _ => wpPair_ofExcept (fun _ _ => rfl) (fun _ _ => trivial))

/-- Planning only reads. -/
theorem moves_planRun (orchestrator : BronzeOrchestrator) (inputs : RunInputs) (seriesId : String)
    (operation : OperationMode) (today : Date) :
    Moves (· = ·) (orchestrator.planRun inputs seriesId operation today) := fun s =>
  wp_mono (wp_planRun orchestrator inputs seriesId operation today s) (fun _ _ h => h.1.symm)
    (fun _ _ h => h.symm) (fun _ h => h.symm)

theorem moves_readyRun (orchestrator : BronzeOrchestrator) (run : PlannedRun)
    (fetchedRows acceptedRows : ℕ) (prepared : PreparedBronze) :
    Moves (· = ·) (orchestrator.readyRun run fetchedRows acceptedRows prepared) := fun s =>
  wp_mono (wp_readyRun orchestrator run fetchedRows acceptedRows prepared s)
    (fun _ _ h => h.1.symm) (fun _ _ h => h.symm) (fun _ h => h.symm)

/-- **Planning** reads the months of the series. -/
theorem local_planRun (hid : inputs.runId = workers.runId i) :
    (workers.ownership orchestrator).Local i
      (orchestrator.planRun inputs (workers.seriesId i) operation today)
      (fun r => ∀ run, r = .ok run → IsRunOf workers orchestrator i run) := by
  refine .of_reads (moves_planRun _ _ _ _ _) (fun s => wp_mono (wp_planRun orchestrator inputs
    (workers.seriesId i) operation today s) (fun run s' h r hr => ?_)
    (fun _ _ _ _ hr => by cases hr) (fun _ _ => trivial)) (fun s t _ _ hown => ?_)
  · cases hr
    exact ⟨h.2.registered, h.2.inputs_eq ▸ hid⟩
  · unfold BronzeOrchestrator.planRun
    refine wpPair_bind (wpPair_ofExcept (fun contract hcontract => ?_) (fun _ _ => trivial))
    have hmonths := months_eq_of_own hown (BronzeOrchestrator.resolveSeries_eq_ok hcontract)
    refine wpPair_bind (wpPair_ofExcept (fun provider _ => ?_) (fun _ _ => trivial))
    refine wpPair_bind (wpPair_query_eq (by rw [hmonths]) (fun bounds _ => ?_) trivial)
    refine wpPair_bind (wpPair_require (fun _ => ?_) (fun _ => trivial))
    refine wpPair_bind (wpPair_ofExcept (fun plan _ => ?_) (fun _ _ => trivial))
    refine wpPair_bind (wpPair_require (fun _ => ?_) (fun _ => trivial))
    refine wpPair_bind (wpPair_require (fun _ => ?_) (fun _ => trivial))
    exact wpPair_bind (wpPair_ofExcept (fun started _ => wpPair_pure rfl) (fun _ _ => trivial))

/-- **Preparing** a merge reads the months of the series. -/
theorem local_prepare (hrun : IsRunOf workers orchestrator i run) (accepted : BronzeFrame) :
    (workers.ownership orchestrator).Local i (orchestrator.uow.prepare run.contract accepted)
      (fun r => ∀ prepared, r = .ok prepared → prepared.contract = run.contract) := by
  refine .of_reads (moves_query _) (fun s => wp_query (fun prepared hprepared p hp => ?_)
    (fun _ _ hp => by cases hp) trivial) (fun s t _ _ hown =>
      wpPair_query_eq ?_ (fun _ _ => rfl) trivial)
  · cases hp
    obtain ⟨existing, -, hmerge⟩ := bind_eq_ok.mp hprepared
    exact prepareFrame_contract hmerge
  · rw [BronzeUnitOfWork.readBronze, BronzeUnitOfWork.readBronze,
      months_eq_of_own hown hrun.registered]

/-- **What is to be committed** is about the series and the run id. -/
theorem local_readyRun (hrun : IsRunOf workers orchestrator i run) :
    (workers.ownership orchestrator).Local i
      (orchestrator.readyRun run fetchedRows acceptedRows prepared)
      (fun r => ∀ ready, r = .ok ready → ready.prepared = prepared
        ∧ ready.record.runId = workers.runId i ∧ ready.state.key = run.contract.key) := by
  refine .of_reads (moves_readyRun _ _ _ _ _) (fun s => wp_mono (wp_readyRun orchestrator run
    fetchedRows acceptedRows prepared s) (fun ready s' h r hr => ?_)
    (fun _ _ _ _ hr => by cases hr) (fun _ _ => trivial)) (fun s t hs ht hown => ?_)
  · cases hr
    obtain ⟨completed, hrecord, states, -, hnext⟩ := h.2.record
    refine ⟨h.2.prepared_eq, (congrArg RunFields.runId hrecord).trans hrun.runId, ?_⟩
    rw [(advanceState_eq_ok hnext).1, stateOf_key]
  · unfold BronzeOrchestrator.readyRun
    refine wpPair_bind (wpPair_ofExcept (fun completed _ => ?_) (fun _ _ => trivial))
    refine wpPair_bind (wpPair_ofExcept (fun record _ => ?_) (fun _ _ => trivial))
    refine wpPair_bind (wpPair_query_eq (stateOf_eq_of_own hown hs ht hrun.registered)
      (fun prior _ => ?_) trivial)
    exact wpPair_bind (wpPair_ofExcept (fun next _ => wpPair_pure rfl) (fun _ _ => trivial))

/-! ### Locked steps of a run -/

/-- The record of a run, after it has been written. -/
theorem records_of_written {record : IngestionRunRecord} {bytes : Bytes}
    (hid : record.runId = workers.runId i)
    (hbytes : upsertRun orchestrator.uow.runFormat orchestrator.uow.secrets lake.runs record
      = .ok bytes) (hs : s.runs = some bytes) :
    (workers.ownFiles orchestrator i s).records = {record.withoutTexts} := by
  refine Set.ext (fun fields => ⟨?_, ?_⟩)
  · rintro ⟨r, hr, hrunId, rfl⟩
    rcases (hasRecord_upsert hbytes hs r).mp hr with rfl | ⟨old, -, hne, rfl⟩
    · rfl
    · exact absurd (hrunId.trans hid.symm) hne
  · rintro rfl
    exact ⟨_, (hasRecord_upsert hbytes hs _).mpr (.inl rfl), hid, rfl⟩

/-- The state of a run, after it has been written. -/
theorem states_of_written {next : IngestionState} {bytes : Bytes}
    (hkey : workers.Owns orchestrator i next.key)
    (hbytes : upsertState orchestrator.uow.stateFormat lake.states next = .ok bytes)
    (hs : s.states = some bytes) : (workers.ownFiles orchestrator i s).states = {next} := by
  refine Set.ext (fun state => ⟨?_, ?_⟩)
  · rintro ⟨hstate, howns⟩
    rcases (hasState_upsert hbytes hs state).mp hstate with rfl | ⟨-, hne⟩
    · rfl
    · obtain ⟨contract, hcontract, hkey⟩ := hkey
      obtain ⟨contract', hcontract', hkey'⟩ := howns
      rw [hcontract] at hcontract'
      obtain rfl := Option.some.inj hcontract'
      exact absurd (hkey'.symm.trans hkey) hne
  · rintro rfl
    exact ⟨(hasState_upsert hbytes hs _).mpr (.inl rfl), hkey⟩

/-- **A commit** writes what its run owns, and what it writes depends on nothing else. -/
theorem local_commitRun (hrun : IsRunOf workers orchestrator i run)
    (hcontract : ready.prepared.contract = run.contract)
    (hid : ready.record.runId = workers.runId i) (hkey : ready.state.key = run.contract.key) :
    (workers.ownership orchestrator).Local i (orchestrator.commitRun ready) (fun _ => True) where
  frame lake hlake := by
    refine wp_mono (wp_commitSuccess orchestrator.uow _ _ _ lake) (fun _ s h => ?_)
      (fun _ s h => ?_) (fun _ _ => trivial)
    · obtain ⟨months, -, hcommits⟩ := h
      have htouches := hcommits.committing.touches (hkey.trans (hcontract ▸ rfl))
      rw [hcontract, hid] at htouches
      exact ⟨frame_of_touches hrun.owns htouches hlake, trivial⟩
    · obtain rfl : s = lake := h
      exact ⟨.refl hlake, trivial⟩
  alike s t hs ht hown := by
    refine wpPair_mono (wpPair_and (wpPair_commitSuccess hs ht)
      (wp_commitSuccess orchestrator.uow _ _ _ s) (wp_commitSuccess orchestrator.uow _ _ _ t))
      (fun _ _ s' t' h => ⟨rfl, ?_⟩) (fun s' t' h => ?_)
    · obtain ⟨-, ⟨months, hmonths, hcommits⟩, months', hmonths', hcommits'⟩ := h
      obtain rfl := Except.ok.inj (hmonths.symm.trans hmonths')
      obtain ⟨bytes, hbytes, hruns⟩ := hcommits.runs
      obtain ⟨bytes', hbytes', hruns'⟩ := hcommits'.runs
      obtain ⟨file, hfile, hstates⟩ := hcommits.states
      obtain ⟨file', hfile', hstates'⟩ := hcommits'.states
      have howns : workers.Owns orchestrator i ready.state.key := hkey ▸ hrun.owns
      refine OwnFiles.ext ?_ ?_ ?_
      · refine Option.map_congr (fun contract hregistered => ?_)
        have hfound : contract = ready.prepared.contract :=
          (Option.some.inj (hregistered.symm.trans hrun.registered)).trans hcontract.symm
        have hbefore := months_eq_of_own hown hregistered
        subst hfound
        ext month : 1
        rw [hcommits.month, hcommits'.month, hbefore]
      · exact (states_of_written howns hfile hstates).trans
          (states_of_written howns hfile' hstates').symm
      · exact (records_of_written hid hbytes hruns).trans
          (records_of_written hid hbytes' hruns').symm
    · obtain ⟨-, e, hs', ht'⟩ := h
      obtain rfl : s' = s := hs'
      obtain rfl : t' = t := ht'
      exact hown

/-- What recording a failure shows belongs to its run. -/
theorem frame_of_leavesFailed (hrun : IsRunOf workers orchestrator i run)
    (h : LeavesFailed orchestrator run lake s) (hlake : ReadableRecords orchestrator.uow lake) :
    (workers.ownership orchestrator).Frame i lake s := by
  rcases h with rfl | ⟨completed, fetched, accepted, e, record, hfields, bytes, hbytes, rfl⟩
  · exact .refl hlake
  · have hid : record.runId = workers.runId i :=
      (congrArg RunFields.runId hfields).trans hrun.runId
    exact frame_of_touches hrun.owns
      ⟨fun _ _ => rfl, .inr ⟨record, bytes, hid, hbytes, rfl⟩, .inl rfl⟩ hlake

/-- **The record of a failure** is written of the run alone. -/
theorem local_recordRun (hrun : IsRunOf workers orchestrator i run) (e : PyError) :
    (workers.ownership orchestrator).Local i
      (orchestrator.recordRun run fetchedRows acceptedRows e) (fun _ => True) where
  frame lake hlake := wp_mono (wp_recordRun orchestrator run fetchedRows acceptedRows e lake)
    (fun _ _ h => ⟨frame_of_leavesFailed hrun (.inr h) hlake, trivial⟩)
    (fun _ _ h => ⟨frame_of_leavesFailed hrun h hlake, trivial⟩) (fun _ _ => trivial)
  alike s t hs ht hown := by
    unfold BronzeOrchestrator.recordRun
    refine wpPair_bind (wpPair_ofExcept (fun completed _ => ?_) (fun _ _ => hown))
    refine wpPair_bind (wpPair_ofExcept (fun record hrecord => ?_) (fun _ _ => hown))
    have hid : record.runId = workers.runId i :=
      (congrArg RunFields.runId (ingestionRunRecord_eq_ok hrecord)).trans hrun.runId
    refine wpPair_writeRun hs ht (fun s' t' hs' ht' => ?_) hown
    have hown' : workers.ownFiles orchestrator i s' = workers.ownFiles orchestrator i t' := by
      obtain ⟨bytes, hbytes, rfl⟩ := hs'
      obtain ⟨bytes', hbytes', rfl⟩ := ht'
      have hmonths := congrArg OwnFiles.months hown
      have hstates := congrArg OwnFiles.states hown
      exact OwnFiles.ext hmonths hstates
        ((records_of_written hid hbytes rfl).trans (records_of_written hid hbytes' rfl).symm)
    exact ⟨⟨rfl, hown'⟩, hown'⟩

/-! ### The whole run -/

theorem keeps_recordScript (hrun : IsRunOf workers orchestrator i run) (e : PyError) :
    (workers.ownership orchestrator).Keeps i
      (orchestrator.recordScript run fetchedRows acceptedRows e) := by
  refine .locked _ (local_recordRun hrun e) (fun s seen hs h => frame_of_leavesFailed hrun h hs)
    (fun r _ => ?_)
  cases r with
  | ok _ => exact .done _
  | error _ => exact .done _

/-- A step outside the lock, with what comes after it. -/
theorem keeps_readScript {α : Type} {m : BronzeProgram α}
    {next : α → Script BronzeLake PyError RunEnd} {P : Except PyError α → Prop}
    (hrun : IsRunOf workers orchestrator i run)
    (hm : (workers.ownership orchestrator).Local i m P) (hreads : Moves (· = ·) m)
    (hnext : ∀ a, P (.ok a) → (workers.ownership orchestrator).Keeps i (next a)) :
    (workers.ownership orchestrator).Keeps i
      (orchestrator.readScript run fetchedRows acceptedRows m next) := by
  refine .reading P hm hreads (fun r hr => ?_)
  cases r with
  | ok a => exact hnext a hr
  | error e => exact keeps_recordScript hrun e

/-- **A run keeps to what it owns**, in all its steps. -/
theorem keeps_seriesScript (hid : inputs.runId = workers.runId i) :
    (workers.ownership orchestrator).Keeps i
      (orchestrator.seriesScript inputs (workers.seriesId i) operation today) := by
  refine .reading _ (local_planRun hid) (moves_planRun _ _ _ _ _) (fun r hr => ?_)
  cases r with
  | error e => exact .done _
  | ok run =>
    have hrun := hr run rfl
    refine keeps_readScript hrun (local_ofExcept _) (moves_ofExcept _) (fun incoming _ => ?_)
    refine keeps_readScript hrun (local_ofExcept _) (moves_ofExcept _) (fun accepted _ => ?_)
    refine keeps_readScript hrun (local_prepare hrun accepted) (moves_query _)
      (fun prepared hprepared => ?_)
    refine keeps_readScript hrun (local_readyRun hrun) (moves_readyRun _ _ _ _ _)
      (fun ready h => ?_)
    obtain ⟨rfl, hid', hkey⟩ := h ready rfl
    have hcontract := hprepared ready.prepared rfl
    refine .locked _ (local_commitRun hrun hcontract hid' hkey) (fun s seen hs hseen => ?_)
      (fun r _ => ?_)
    · have htouches := Committing.touches hseen (hkey.trans (hcontract ▸ rfl))
      rw [hcontract, hid'] at htouches
      exact frame_of_touches hrun.owns htouches hs
    · cases r with
      | ok _ => exact .done _
      | error e => exact keeps_recordScript hrun e

/-! ### Until a run is done -/

variable {v : OwnFiles}

theorem stays_recordScript (hrun : IsRunOf workers orchestrator i run) (e : PyError) :
    Stays (workers.ownership orchestrator) i (· = v) (fun _ _ => True)
      (orchestrator.recordScript run fetchedRows acceptedRows e) v := by
  refine .locked rfl (fun s faults r s' rest hs _ hattempt => ?_)
    (fun s faults r s' rest _ _ _ => ?_) (fun s seen hs h => frame_of_leavesFailed hrun h hs)
  · exact ((local_recordRun hrun e).attempt hs hs rfl hattempt).2.1
  · cases r with
    | ok _ => exact .done trivial
    | error _ => exact .done trivial

theorem stays_readScript {α : Type} {m : BronzeProgram α}
    {next : α → Script BronzeLake PyError RunEnd} {P : Except PyError α → Prop}
    (hrun : IsRunOf workers orchestrator i run)
    (hm : (workers.ownership orchestrator).Local i m P) (hreads : Moves (· = ·) m)
    (hnext : ∀ a, P (.ok a) → Stays (workers.ownership orchestrator) i (· = v) (fun _ _ => True)
      (next a) v) :
    Stays (workers.ownership orchestrator) i (· = v) (fun _ _ => True)
      (orchestrator.readScript run fetchedRows acceptedRows m next) v := by
  refine .reading rfl hreads (fun s faults r s' rest hs _ hattempt => ?_)
  have hr := (hm.attempt hs hs rfl hattempt).1
  cases r with
  | ok a => exact hnext a hr
  | error e => exact stays_recordScript hrun e

/-- **Until a run is done, its series is as it was**: what it commits is the last that it
does, and what it takes back leaves nothing. -/
theorem stays_seriesScript (hid : inputs.runId = workers.runId i) :
    Stays (workers.ownership orchestrator) i (· = v) (fun _ _ => True)
      (orchestrator.seriesScript inputs (workers.seriesId i) operation today) v := by
  refine .reading rfl (moves_planRun _ _ _ _ _) (fun s faults r s' rest hs _ hattempt => ?_)
  have hr := ((local_planRun hid).attempt hs hs rfl hattempt).1
  cases r with
  | error e => exact .done trivial
  | ok run =>
    have hrun := hr run rfl
    refine stays_readScript hrun (local_ofExcept _) (moves_ofExcept _) (fun incoming _ => ?_)
    refine stays_readScript hrun (local_ofExcept _) (moves_ofExcept _) (fun accepted _ => ?_)
    refine stays_readScript hrun (local_prepare hrun accepted) (moves_query _)
      (fun prepared hprepared => ?_)
    refine stays_readScript hrun (local_readyRun hrun) (moves_readyRun _ _ _ _ _)
      (fun ready h => ?_)
    obtain ⟨rfl, hid', hkey⟩ := h ready rfl
    have hcontract := hprepared ready.prepared rfl
    refine .locked rfl (fun s faults r s' rest hs _ hattempt =>
      ((local_commitRun hrun hcontract hid' hkey).attempt hs hs rfl hattempt).2.1)
      (fun s faults r s' rest _ hown hattempt => ?_) (fun s seen hs hseen => ?_)
    · cases r with
      | ok _ => exact .done trivial
      | error e =>
        -- a commit that has failed has been taken back
        have hsame := attempt_of_wp (P := fun r t => ∀ e, r = .error e → t = s)
          (wp_mono (wp_commitSuccess orchestrator.uow _ _ _ s) (fun _ _ _ e h => by cases h)
            (fun _ _ h _ _ => h) (fun _ _ => trivial)) hattempt
        rw [hsame e rfl, hown]
        exact stays_recordScript hrun e
    · have htouches := Committing.touches hseen (hkey.trans (hcontract ▸ rfl))
      rw [hcontract, hid'] at htouches
      exact frame_of_touches hrun.owns htouches hs

end BronzeWorkers
