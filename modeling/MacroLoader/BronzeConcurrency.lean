import MacroLoader.BronzeHistory
import MacroLoader.BronzeWorkers

/-!
# Bronze runs at the same time

`run_many` runs its series in the threads of a pool. In which order they read, prepare and
commit is not determined, and neither is what they see of each other's commits while these
go on. What they leave is: each series is left as its run would have left it alone, and the
shared files hold the new records and states of all of them next to what was there before
(`runMany_losesNoUpdate`).
-/

open Program

/-! ## A call of `run_many` -/

/-- A call of `run_many`, with what its runs are given from outside and the faults that their
effects meet. -/
structure RunManyCall where
  selected : List String
  operation : OperationMode
  today : Date
  inputs : String → RunInputs
  faults : String → List (Fault PyError)

/-- Per-series isolation result for a multi-series request. -/
structure BatchRunResult where
  successes : List SeriesRunResult
  failures : List String
  deriving DecidableEq

/-- What a caller sees of the end of a run. -/
def RunEnd.outcome : RunEnd → Outcome PyError SeriesRunResult
  | .succeeded _ result => .returned result
  | .notPlanned e | .failed _ e | .unrecorded _ e => .raised e

namespace RunManyCall

variable (call : RunManyCall)

/-- The runs of a call, by their positions. -/
abbrev Worker := Fin call.selected.length

/-- The series of a run. -/
def seriesId (i : call.Worker) : String := call.selected.get i

/-- The run id of a run. -/
def runId (i : call.Worker) : String := (call.inputs (call.seriesId i)).runId

/-- The steps of a run. -/
def script (orchestrator : BronzeOrchestrator) (i : call.Worker) :
    Script BronzeLake PyError RunEnd :=
  orchestrator.seriesScript (call.inputs (call.seriesId i)) (call.seriesId i) call.operation
    call.today

/-- The world before any run has begun. -/
def initial (orchestrator : BronzeOrchestrator) (lake : BronzeLake) :
    World call.Worker BronzeLake PyError RunEnd where
  shared := lake
  script := call.script orchestrator
  faults i := call.faults (call.seriesId i)

/-- What running a series alone comes to. -/
def alone (orchestrator : BronzeOrchestrator) (lake : BronzeLake) (i : call.Worker) :
    Outcome PyError SeriesRunResult × BronzeLake × List (Fault PyError) :=
  orchestrator.runSeries (call.inputs (call.seriesId i)) (call.seriesId i) call.operation
    call.today lake (call.faults (call.seriesId i))

/-- The result of a call, in the order of its series. -/
def batch (outcome : call.Worker → Outcome PyError SeriesRunResult) : BatchRunResult where
  successes := (List.finRange _).filterMap (fun i =>
    match outcome i with
    | .returned result => some result
    | _ => none)
  failures := (List.finRange _).filterMap (fun i =>
    match outcome i with
    | .raised _ => some (call.seriesId i)
    | _ => none)

section Batch

variable {call} {outcome : call.Worker → Outcome PyError SeriesRunResult} {i : call.Worker}

theorem mem_successes {result : SeriesRunResult} (h : outcome i = .returned result) :
    result ∈ (call.batch outcome).successes :=
  List.mem_filterMap.mpr ⟨i, List.mem_finRange i, by rw [h]⟩

theorem mem_failures {e : PyError} (h : outcome i = .raised e) :
    call.seriesId i ∈ (call.batch outcome).failures :=
  List.mem_filterMap.mpr ⟨i, List.mem_finRange i, by rw [h]⟩

end Batch

/-- **`run_many` has returned**: its series are distinct, since it raises otherwise, and all
its runs have ended, in some order of their steps. -/
structure Returns (orchestrator : BronzeOrchestrator) (lake : BronzeLake)
    (ends : call.Worker → RunEnd) (result : BatchRunResult) (s : BronzeLake) : Prop where
  distinct : call.selected.Nodup
  ended : ∃ w, (call.initial orchestrator lake).Run w ∧ w.shared = s
    ∧ ∀ i, w.script i = .done (ends i)
  result_eq : result = call.batch (fun i => (ends i).outcome)

/-- The runs of a call whose series and whose run ids are distinct. -/
def workers (hdistinct : call.selected.Nodup) (hids : Function.Injective call.runId) :
    BronzeWorkers call.Worker where
  seriesId := call.seriesId
  runId := call.runId
  seriesId_injective := List.nodup_iff_injective_get.mp hdistinct
  runId_injective := hids

end RunManyCall

/-! ## What is left of a run -/

section Remains

variable (uow : BronzeUnitOfWork) (orchestrator : BronzeOrchestrator)

/-- A run has this record and no other one. -/
def HasOneRecord (lake : BronzeLake) (runId : String) (record : IngestionRunRecord) : Prop :=
  HasRecord uow lake record ∧ record.runId = runId
    ∧ ∀ r, HasRecord uow lake r → r.runId = runId → r = record

/-- A series has this state and no other one. -/
def HasOneState (lake : BronzeLake) (key : SeriesKey) (state : IngestionState) : Prop :=
  ∀ r, r.key = key → (HasState uow lake r ↔ r = state)

/-- The months and the state of a series are the same. -/
def SameSeries (seriesId : String) (lake s : BronzeLake) : Prop :=
  ∀ contract, orchestrator.seriesRegistry seriesId = some contract →
    s.months contract.key = lake.months contract.key
    ∧ ∀ state, state.key = contract.key →
      (HasState orchestrator.uow s state ↔ HasState orchestrator.uow lake state)

/-- **What is left of a run** in the end, after all that the others have done. A run that was
planned has one record, for success or for failure; only if recording the failure has itself
raised there may be none. -/
def RunEnd.Remains (inputs : RunInputs) (seriesId : String) (operation : OperationMode)
    (today : Date) (lake s : BronzeLake) : RunEnd → Prop
  | .notPlanned _ =>
    (∀ r, HasRecord orchestrator.uow s r → r.runId ≠ inputs.runId)
      ∧ SameSeries orchestrator seriesId lake s
  | .succeeded run result =>
    IsPlanned orchestrator inputs seriesId operation today lake run
      ∧ ∃ alone accepted prepared record next,
        HasCommitted orchestrator run lake alone accepted prepared record next
        ∧ result = runResult run prepared
        ∧ (∃ r, HasOneRecord orchestrator.uow s inputs.runId r ∧ r.status = .success
          ∧ r.withoutTexts = record.withoutTexts)
        ∧ HasOneState orchestrator.uow s run.contract.key next
  | .failed run _ =>
    IsPlanned orchestrator inputs seriesId operation today lake run
      ∧ (∃ r, HasOneRecord orchestrator.uow s inputs.runId r ∧ r.status = .failed
        ∧ r.WritesNothing)
      ∧ SameSeries orchestrator seriesId lake s
  | .unrecorded run _ =>
    IsPlanned orchestrator inputs seriesId operation today lake run
      ∧ (∀ r, HasRecord orchestrator.uow s r → r.runId = inputs.runId →
        r.status = .failed ∧ r.WritesNothing)
      ∧ SameSeries orchestrator seriesId lake s

end Remains

/-! ## No update is lost -/

section Ended

variable {ι : Type} {workers : BronzeWorkers ι} {orchestrator : BronzeOrchestrator} {i : ι}
  {lake s t : BronzeLake} {inputs : RunInputs} {operation : OperationMode} {today : Date}

open BronzeWorkers

theorem sameSeries_of_own
    (hown : workers.ownFiles orchestrator i s = workers.ownFiles orchestrator i t) :
    SameSeries orchestrator (workers.seriesId i) t s := fun contract hcontract =>
  ⟨months_eq_of_own hown hcontract,
    fun _ hkey => hasState_iff_of_own hown ⟨contract, hcontract, hkey.symm⟩⟩

theorem SameSeries.trans {seriesId : String} (h : SameSeries orchestrator seriesId lake t)
    (h' : SameSeries orchestrator seriesId t s) : SameSeries orchestrator seriesId lake s :=
  fun contract hcontract => ⟨(h' contract hcontract).1.trans (h contract hcontract).1,
    fun state hkey => ((h' contract hcontract).2 state hkey).trans ((h contract hcontract).2 state hkey)⟩

/-- A record of a run, in one of two lakes that its worker cannot tell apart. -/
theorem exists_record_of_own
    (hown : workers.ownFiles orchestrator i s = workers.ownFiles orchestrator i t)
    {record : IngestionRunRecord} (hrecord : HasRecord orchestrator.uow s record)
    (hid : record.runId = workers.runId i) :
    ∃ r, HasRecord orchestrator.uow t r ∧ r.runId = workers.runId i
      ∧ record.withoutTexts = r.withoutTexts := by
  have hmem : record.withoutTexts ∈ (workers.ownFiles orchestrator i s).records :=
    ⟨record, hrecord, hid, rfl⟩
  rw [hown] at hmem
  exact hmem

/-- In a manifest, a run has one record at most. -/
theorem ReadableRecords.hasOneRecord {uow : BronzeUnitOfWork} (hs : ReadableRecords uow s)
    {record : IngestionRunRecord} (hrecord : HasRecord uow s record) :
    HasOneRecord uow s record.runId record := by
  obtain ⟨records, hread, hnodup⟩ := hs.runs
  refine ⟨hrecord, rfl, fun r hr hid => ?_⟩
  obtain ⟨found, hfound, hmem⟩ := hrecord
  obtain ⟨found', hfound', hmem'⟩ := hr
  obtain rfl := Except.ok.inj (hread.symm.trans hfound)
  obtain rfl := Except.ok.inj (hread.symm.trans hfound')
  exact List.inj_on_of_nodup_map hnodup hmem' hmem hid

/-- The record that a run has written is its one record. -/
theorem hasOneRecord_of_own (hs : ReadableRecords orchestrator.uow s)
    (hown : workers.ownFiles orchestrator i s = workers.ownFiles orchestrator i t)
    {fields : RunFields} (hrecords : (workers.ownFiles orchestrator i t).records = {fields}) :
    ∃ r, HasOneRecord orchestrator.uow s (workers.runId i) r ∧ r.withoutTexts = fields := by
  have hmem : fields ∈ (workers.ownFiles orchestrator i s).records := by
    rw [hown, hrecords]
    rfl
  obtain ⟨r, hr, hid, rfl⟩ := hmem
  exact ⟨r, hid ▸ hs.hasOneRecord hr, rfl⟩

/-- The record of a failure, and nothing else of the run. -/
theorem RecordsFailure.remains {run : PlannedRun} (h : RecordsFailure orchestrator run lake t)
    (hid : run.inputs.runId = workers.runId i) (hs : ReadableRecords orchestrator.uow s)
    (hown : workers.ownFiles orchestrator i s = workers.ownFiles orchestrator i t) :
    (∃ r, HasOneRecord orchestrator.uow s (workers.runId i) r ∧ r.status = .failed ∧ r.WritesNothing)
      ∧ SameSeries orchestrator (workers.seriesId i) lake s := by
  obtain ⟨completed, fetched, accepted, e, record, hfields, bytes, hbytes, rfl⟩ := h
  have hrunId : record.runId = workers.runId i := (congrArg RunFields.runId hfields).trans hid
  obtain ⟨r, hr, hsame⟩ := hasOneRecord_of_own hs hown (records_of_written hrunId hbytes rfl)
  have hstatus : r.status = .failed :=
    (congrArg RunFields.status hsame).trans (congrArg RunFields.status hfields)
  have hsame' : SameSeries orchestrator (workers.seriesId i) lake { lake with runs := some bytes } :=
    fun _ _ => ⟨rfl, fun _ _ => Iff.rfl⟩
  exact ⟨⟨r, hr, hstatus, r.failed_writesNothing hstatus⟩, hsame'.trans (sameSeries_of_own hown)⟩

/-- **What a run leaves alone is left of it in the end**, if nothing was there of its run id. -/
theorem RunEnd.Leaves.remains {last : RunEnd}
    (h : last.Leaves orchestrator inputs (workers.seriesId i) operation today lake t)
    (hid : inputs.runId = workers.runId i)
    (hfresh : ∀ record, HasRecord orchestrator.uow lake record → record.runId ≠ workers.runId i)
    (hs : ReadableRecords orchestrator.uow s)
    (hown : workers.ownFiles orchestrator i s = workers.ownFiles orchestrator i t) :
    last.Remains orchestrator inputs (workers.seriesId i) operation today lake s := by
  have hnone : t = lake → ∀ r, HasRecord orchestrator.uow s r → r.runId ≠ inputs.runId := by
    rintro rfl r hr hrunId
    obtain ⟨old, hold, hne, -⟩ := exists_record_of_own hown hr (hrunId.trans hid)
    exact hfresh old hold hne
  cases last with
  | notPlanned e =>
    obtain rfl : t = lake := h
    exact ⟨hnone rfl, sameSeries_of_own hown⟩
  | succeeded run result =>
    obtain ⟨hplanned, accepted, prepared, record, next, hcommitted, hresult⟩ := h
    obtain ⟨incoming, -, -, completed, hrecord, -⟩ := hcommitted.fetched
    obtain ⟨hkey, -⟩ := hcommitted.states
    obtain ⟨months, -, hcommits⟩ := hcommitted.commits
    obtain ⟨bytes, hbytes, hruns⟩ := hcommits.runs
    obtain ⟨file, hfile, hstates⟩ := hcommits.states
    have hrunId : record.runId = workers.runId i := by
      rw [show record.runId = run.inputs.runId from congrArg RunFields.runId hrecord,
        hplanned.inputs_eq, hid]
    obtain ⟨r, hr, hsame⟩ := hasOneRecord_of_own hs hown (records_of_written hrunId hbytes hruns)
    refine ⟨hplanned, t, accepted, prepared, record, next, hcommitted, hresult,
      ⟨r, hid ▸ hr, ?_, hsame⟩, fun state hstate => ?_⟩
    · exact (congrArg RunFields.status hsame).trans (congrArg RunFields.status hrecord)
    · rw [(sameSeries_of_own hown _ hplanned.registered).2 state hstate,
        hasState_upsert hfile hstates, hkey, hstate]
      simp
  | failed run e =>
    obtain ⟨hplanned, hfailure⟩ := h
    have hremains := hfailure.remains ((congrArg RunInputs.runId hplanned.inputs_eq).trans hid) hs hown
    rw [← hid] at hremains
    exact ⟨hplanned, hremains⟩
  | unrecorded run e =>
    obtain ⟨hplanned, hlake | hfailure⟩ := h
    · refine ⟨hplanned, fun r hr hrunId => absurd hrunId (hnone hlake r hr), ?_⟩
      exact hlake ▸ sameSeries_of_own hown
    · obtain ⟨⟨r, hr, hstatus⟩, hseries⟩ :=
        hfailure.remains ((congrArg RunInputs.runId hplanned.inputs_eq).trans hid) hs hown
      refine ⟨hplanned, fun r' hr' hrunId => ?_, hseries⟩
      rw [hr.2.2 r' hr' (hrunId.trans hid)]
      exact hstatus

end Ended

/-- **What the runs of a call have done at any moment**: one that has ended has left what it
leaves alone, in a state that its worker cannot tell from the one that there is, and one that
has not has left nothing yet. -/
theorem RunManyCall.eachAlone {orchestrator : BronzeOrchestrator} {call : RunManyCall}
    {lake : BronzeLake} {w : World call.Worker BronzeLake PyError RunEnd}
    (hrun : (call.initial orchestrator lake).Run w)
    (hlake : ReadableRecords orchestrator.uow lake) (hdistinct : call.selected.Nodup)
    (hids : Function.Injective call.runId) :
    ReadableRecords orchestrator.uow w.shared
      ∧ (call.workers hdistinct hids).KeepsOthers orchestrator lake w.shared
      ∧ ∀ i, (∀ last, w.script i = .done last →
        ∃ t rest, call.alone orchestrator lake i = (last.outcome, t, rest)
          ∧ ReadableRecords orchestrator.uow t
          ∧ last.Leaves orchestrator (call.inputs (call.seriesId i)) (call.seriesId i)
            call.operation call.today lake t
          ∧ (call.workers hdistinct hids).ownFiles orchestrator i w.shared
            = (call.workers hdistinct hids).ownFiles orchestrator i t)
        ∧ ((∃ last, w.script i = .done last)
          ∨ (call.workers hdistinct hids).ownFiles orchestrator i w.shared
            = (call.workers hdistinct hids).ownFiles orchestrator i lake) := by
  have hseems : SeemsAlone ((call.workers hdistinct hids).ownership orchestrator)
      (call.initial orchestrator lake) w :=
    hrun.seemsAlone hlake (fun i => BronzeWorkers.keeps_seriesScript rfl)
  have hstays : AllStay ((call.workers hdistinct hids).ownership orchestrator)
      (fun i => (· = (call.workers hdistinct hids).ownFiles orchestrator i lake))
      (fun _ _ _ => True) (call.initial orchestrator lake) w :=
    hrun.allStay hlake (fun i => BronzeWorkers.stays_seriesScript rfl)
  refine ⟨hseems.valid, hseems.others, fun i => ⟨fun last hdone => ?_, ?_⟩⟩
  · obtain ⟨t, halone, ht, hown⟩ := hseems.of_done hdone
    have hreturned : (call.script orchestrator i).run lake (call.faults (call.seriesId i))
        = (.returned last, t, w.faults i) := halone
    have hleaves : (leavesPost orchestrator _ _ _ _ lake).At
        ((call.script orchestrator i).run lake (call.faults (call.seriesId i))) :=
      wp_seriesScript orchestrator _ _ _ _ lake _
    rw [hreturned] at hleaves
    refine ⟨t, w.faults i, ?_, ht, hleaves, hown⟩
    rw [RunManyCall.alone, runSeries_eq_run]
    show ((call.script orchestrator i).run >>= RunEnd.finish) lake _ = _
    rw [run_bind_of_returned hreturned]
    cases last <;> rfl
  · rcases (hstays.stays i).holds_or_done with hsame | ⟨last, hdone, -⟩
    · exact .inr hsame
    · exact .inl ⟨last, hdone⟩

/-- The same of a call that has returned. -/
theorem RunManyCall.Returns.eachAlone {orchestrator : BronzeOrchestrator} {call : RunManyCall}
    {lake s : BronzeLake} {ends : call.Worker → RunEnd} {result : BatchRunResult}
    (hreturns : call.Returns orchestrator lake ends result s)
    (hlake : ReadableRecords orchestrator.uow lake) (hids : Function.Injective call.runId) :
    ReadableRecords orchestrator.uow s
      ∧ (call.workers hreturns.distinct hids).KeepsOthers orchestrator lake s
      ∧ ∀ i, ∃ t rest, call.alone orchestrator lake i = ((ends i).outcome, t, rest)
        ∧ ReadableRecords orchestrator.uow t
        ∧ (ends i).Leaves orchestrator (call.inputs (call.seriesId i)) (call.seriesId i)
          call.operation call.today lake t
        ∧ (call.workers hreturns.distinct hids).ownFiles orchestrator i s
          = (call.workers hreturns.distinct hids).ownFiles orchestrator i t := by
  obtain ⟨w, hrun, rfl, hdone⟩ := hreturns.ended
  obtain ⟨hreadable, hothers, heach⟩ := RunManyCall.eachAlone hrun hlake hreturns.distinct hids
  exact ⟨hreadable, hothers, fun i => (heach i).1 _ (hdone i)⟩

/-- A run that returns ends as one that has succeeded. -/
theorem exists_succeeded {orchestrator : BronzeOrchestrator} {inputs : RunInputs}
    {seriesId : String} {operation : OperationMode} {today : Date} {lake s : BronzeLake}
    {faults rest : List (Fault PyError)} {result : SeriesRunResult}
    (h : orchestrator.runSeries inputs seriesId operation today lake faults
      = (.returned result, s, rest)) :
    ∃ run, (orchestrator.seriesScript inputs seriesId operation today).run lake faults
      = (.returned (.succeeded run result), s, rest) := by
  rw [runSeries_eq_run] at h
  obtain ⟨last, s', rest', hrun, hfinish⟩ := returned_of_bind h
  cases last with
  | succeeded run result' =>
    cases hfinish
    exact ⟨run, hrun⟩
  | notPlanned e => cases hfinish
  | failed run e => cases hfinish
  | unrecorded run e => cases hfinish

/-- **Runs that each succeed alone succeed together**, in some order of their steps. -/
theorem RunManyCall.exists_returns {orchestrator : BronzeOrchestrator} {call : RunManyCall}
    {lake : BronzeLake} (hlake : ReadableRecords orchestrator.uow lake)
    (hdistinct : call.selected.Nodup) (hids : Function.Injective call.runId)
    (halone : ∀ i, ∃ result s rest,
      call.alone orchestrator lake i = (.returned result, s, rest)) :
    ∃ ends result s, call.Returns orchestrator lake ends result s ∧ result.failures = [] := by
  have hkeeps : ∀ i, ((call.workers hdistinct hids).ownership orchestrator).Keeps i
      (call.script orchestrator i) := fun i => BronzeWorkers.keeps_seriesScript rfl
  obtain ⟨w, hrun, hdone⟩ : ∃ w, (call.initial orchestrator lake).Run w ∧ ∀ i, ∃ last,
      w.script i = .done last ∧ ∃ run result, last = .succeeded run result :=
    World.exists_run_done (o := (call.workers hdistinct hids).ownership orchestrator) hlake
    (fun i s hs hown => by
      obtain ⟨result, t, rest, halone⟩ := halone i
      obtain ⟨run, hscript⟩ := exists_succeeded halone
      obtain ⟨s', hs', hframe⟩ := (hkeeps i).endsAlike hlake hs hown.symm hscript
      exact ⟨_, s', rest, hs', hframe, run, result, rfl⟩)
  choose ends hends hsucceeded using hdone
  refine ⟨ends, _, w.shared, ⟨hdistinct, ⟨w, hrun, rfl, hends⟩, rfl⟩, ?_⟩
  refine List.filterMap_eq_nil_iff.mpr (fun i _ => ?_)
  obtain ⟨run, result, hlast⟩ := hsucceeded i
  have houtcome : (ends i).outcome = .returned result := by rw [hlast]; rfl
  dsimp only
  rw [houtcome]

/-! ## The store of a series -/

section Store

variable {orchestrator : BronzeOrchestrator} {contract : SeriesContract} {lake s t : BronzeLake}
  {frame : BronzeFrame}

/-- The invariant of a series is about its months and its state. -/
theorem StoreInvariant.of_same (h : StoreInvariant orchestrator contract t frame)
    (hs : ReadableRecords orchestrator.uow s) (ht : ReadableRecords orchestrator.uow t)
    (hmonths : s.months contract.key = t.months contract.key)
    (hstates : ∀ state, state.key = contract.key →
      (HasState orchestrator.uow s state ↔ HasState orchestrator.uow t state)) :
    StoreInvariant orchestrator contract s frame where
  holds := h.holds.congr hmonths
  files hrows := by rw [hmonths, h.files hrows]
  state := by
    obtain ⟨states, hread, hnodup⟩ := hs.states
    obtain ⟨states', hread', -, hlast⟩ := h.state
    have hstate := BronzeWorkers.stateOf_congr hs ht hstates
    rw [hread, hread'] at hstate
    refine ⟨states, hread, hnodup, ?_⟩
    rw [show stateOf states contract = stateOf states' contract from Except.ok.inj hstate, hlast]

/-- The run of a series, as a call of its own. -/
def RunManyCall.run (call : RunManyCall) (i : call.Worker) : BronzeCall where
  inputs := call.inputs (call.seriesId i)
  operation := call.operation
  today := call.today
  faults := call.faults (call.seriesId i)

/-- Every adapter answers in the columns of its series. -/
def RunManyCall.AnswersInSchema (call : RunManyCall) (orchestrator : BronzeOrchestrator) : Prop :=
  ∀ i contract, orchestrator.seriesRegistry (call.seriesId i) = some contract →
    (call.run i).AnswersInSchema contract

/-- **Runs at the same time keep the store of every series in order**, and lose none of its
keys, at every moment between their commits. -/
theorem RunManyCall.storeInvariant {call : RunManyCall}
    {w : World call.Worker BronzeLake PyError RunEnd}
    (hrun : (call.initial orchestrator lake).Run w)
    (hlake : ReadableRecords orchestrator.uow lake) (hdistinct : call.selected.Nodup)
    (hids : Function.Injective call.runId) (hanswers : call.AnswersInSchema orchestrator)
    (hregistered : orchestrator.seriesRegistry contract.seriesId = some contract)
    (h : StoreInvariant orchestrator contract lake frame) :
    ∃ frame', StoreInvariant orchestrator contract w.shared frame' ∧ KeepsKeys frame frame' := by
  obtain ⟨hs, hothers, heach⟩ := RunManyCall.eachAlone hrun hlake hdistinct hids
  by_cases hselected : ∃ i, call.seriesId i = contract.seriesId
  · obtain ⟨i, hi⟩ := hselected
    obtain ⟨hended, ⟨last, hdone⟩ | hown⟩ := heach i
    · obtain ⟨t, rest, halone, ht, -, hown⟩ := hended last hdone
      have hcall : (call.run i).run orchestrator contract lake = (last.outcome, t, rest) := by
        rw [← halone, RunManyCall.alone, BronzeCall.run, ← hi]
        rfl
      have hne : last.outcome ≠ .crashed := by
        cases last <;> exact (fun h => by cases h)
      obtain ⟨frame', hframe', hkeys⟩ := h.step hregistered
        ⟨call.run i, _, rest, hanswers i contract (by rw [hi, hregistered]), hcall, hne⟩
      obtain ⟨hmonths, hstates⟩ := sameSeries_of_own hown contract (by rw [← hregistered, ← hi]; rfl)
      exact ⟨frame', hframe'.of_same hs ht hmonths hstates, hkeys⟩
    · -- the run of the series has not written yet
      obtain ⟨hmonths, hstates⟩ := sameSeries_of_own hown contract (by rw [← hregistered, ← hi]; rfl)
      exact ⟨frame, h.of_same hs hlake hmonths hstates, .refl frame⟩
  · -- nobody runs the series
    have hnone : ∀ i, ¬ (call.workers hdistinct hids).Owns orchestrator i contract.key := by
      rintro i ⟨contract', hcontract', hkey⟩
      exact hselected ⟨i, (orchestrator.registry_id _ _ hcontract').symm.trans
        (congrArg Prod.snd hkey)⟩
    exact ⟨frame, h.of_same hs hlake (hothers.months _ hnone)
      (fun state hkey => hothers.states state (hkey ▸ hnone)), .refl frame⟩

end Store

/-- **No update is lost.** However the runs of a call are interleaved, and whichever of their
effects fail: every record that was there is there still, its error texts redacted again at
most; every run that was planned has one record, of its success or of its failure; every
series holds the months and the state that its run would have left alone; and nothing else
has changed. -/
theorem runMany_losesNoUpdate (orchestrator : BronzeOrchestrator) (call : RunManyCall)
    {lake s : BronzeLake} {ends : call.Worker → RunEnd} {result : BatchRunResult}
    (hlake : ReadableRecords orchestrator.uow lake) (hids : Function.Injective call.runId)
    (hfresh : ∀ record, HasRecord orchestrator.uow lake record → ∀ i, record.runId ≠ call.runId i)
    (hreturns : call.Returns orchestrator lake ends result s) :
    ReadableRecords orchestrator.uow s
      ∧ (∀ record, HasRecord orchestrator.uow lake record →
        ∃ n, HasRecord orchestrator.uow s ((sanitizeRecord orchestrator.uow.secrets)^[n] record))
      ∧ (∀ record, HasRecord orchestrator.uow s record → (∀ i, record.runId ≠ call.runId i) →
        ∃ old n, HasRecord orchestrator.uow lake old
          ∧ record = (sanitizeRecord orchestrator.uow.secrets)^[n] old)
      ∧ (∀ key, (∀ i contract, orchestrator.seriesRegistry (call.seriesId i) = some contract →
          contract.key ≠ key) → s.months key = lake.months key ∧ ∀ state, state.key = key →
            (HasState orchestrator.uow s state ↔ HasState orchestrator.uow lake state))
      ∧ result = call.batch (fun i => (call.alone orchestrator lake i).1)
      ∧ ∀ i, SameSeries orchestrator (call.seriesId i) (call.alone orchestrator lake i).2.1 s
        ∧ (ends i).Remains orchestrator (call.inputs (call.seriesId i)) (call.seriesId i)
          call.operation call.today lake s := by
  obtain ⟨hreadable, hothers, hends⟩ := hreturns.eachAlone hlake hids
  refine ⟨hreadable, fun record hrecord => hothers.kept record hrecord (hfresh record hrecord),
    hothers.only, fun key hkey => ?_, ?_, fun i => ?_⟩
  · have hnone : ∀ i, ¬ (call.workers hreturns.distinct hids).Owns orchestrator i key :=
      fun i ⟨contract, hcontract, heq⟩ => hkey i contract hcontract heq
    exact ⟨hothers.months key hnone, fun state hstate => hothers.states state (hstate ▸ hnone)⟩
  · rw [hreturns.result_eq]
    refine congrArg call.batch (funext (fun i => ?_))
    obtain ⟨t, rest, halone, -⟩ := hends i
    rw [halone]
  · obtain ⟨t, rest, halone, -, hleaves, hown⟩ := hends i
    rw [halone]
    exact ⟨sameSeries_of_own hown,
      hleaves.remains rfl (fun record hrecord => hfresh record hrecord i) hreadable hown⟩

/-! ### Calls in which nothing fails -/

/-- If a call has no failures, all its runs have succeeded. -/
theorem RunManyCall.Returns.succeeded {orchestrator : BronzeOrchestrator} {call : RunManyCall}
    {lake s : BronzeLake} {ends : call.Worker → RunEnd} {result : BatchRunResult}
    (h : call.Returns orchestrator lake ends result s) (hnone : result.failures = [])
    (i : call.Worker) :
    ∃ run success, ends i = .succeeded run success ∧ success ∈ result.successes := by
  rw [h.result_eq] at hnone ⊢
  have hnot : ∀ e, (ends i).outcome ≠ .raised e := fun e hraised =>
    List.ne_nil_of_mem (RunManyCall.mem_failures hraised) hnone
  cases hend : ends i with
  | succeeded run success =>
    exact ⟨run, success, rfl, RunManyCall.mem_successes (congrArg RunEnd.outcome hend)⟩
  | notPlanned e => exact absurd (congrArg RunEnd.outcome hend) (hnot e)
  | failed run e => exact absurd (congrArg RunEnd.outcome hend) (hnot e)
  | unrecorded run e => exact absurd (congrArg RunEnd.outcome hend) (hnot e)

/-- What a run is given, whose adapters have one row of a day for every series. -/
def dayInputs (runId : String) (day : Date) : RunInputs :=
  ⟨fun _ => some (fun contract _ => .ok (dayFrame contract [day])), runId, .utc 0, .utc 0, .utc 0⟩

/-- **The first update of a series** commits its row, which is read back. -/
theorem succeeds_firstUpdate {orchestrator : BronzeOrchestrator} {contract : SeriesContract}
    {lake : BronzeLake} {runId : String} {day : Date}
    (hregistered : orchestrator.seriesRegistry contract.seriesId = some contract)
    (hlake : ReadableRecords orchestrator.uow lake)
    (hmonths : lake.months contract.key = KeyedTable.empty) (hid : isBlank runId = false)
    (hday : dateMin ≤ day ∧ day ≤ dateMax) :
    ∃ result s, orchestrator.runSeries (dayInputs runId day) contract.seriesId .update day lake []
        = (.returned result, s, [])
      ∧ orchestrator.uow.readBronze s contract.key = .ok (dayFrame contract [day]) := by
  let request : ProviderRequest := ⟨.bootstrap, none, day, true, by simp, by simp, fun _ => rfl⟩
  obtain ⟨⟨records, hrecords, hrunIds⟩, states, hstates, hkeys⟩ := hlake
  have hdates : ∀ r ∈ (dayFrame contract [day]).rows,
      dateMin ≤ r.observationDate ∧ r.observationDate ≤ dateMax := by
    intro r hr
    obtain rfl := List.mem_singleton.mp hr
    exact hday
  obtain ⟨result, s, hrun, run, -, rfl, -, prepared, record, next, hcommitted, -⟩ :
      Succeeds (orchestrator.runSeries (dayInputs runId day) contract.seriesId .update day) lake _ :=
    succeeds_runSeries hregistered rfl (bronzeHolds_empty hmonths) OperationMode.noConfusion rfl rfl
      rfl le_rfl hid (rfl : providerRequest _ = .ok request) rfl rfl rfl (List.nodup_singleton _)
      hdates hrecords hrunIds hstates hkeys
  exact ⟨result, s, hrun, hcommitted.readBronze_first hmonths rfl⟩

/-- An update of some series, each answered with its row of a day. -/
def dayCall (series : List Series) (runId : String → String) (day : Date) : RunManyCall where
  selected := series.map Series.id
  operation := .update
  today := day
  inputs id := dayInputs (runId id) day
  faults _ := []

section FirstUpdates

variable {orchestrator : BronzeOrchestrator} {series : List Series} {runId : String → String}
  {day : Date} {lake : BronzeLake}

/-- The series of a run of such a call. -/
theorem exists_series_dayCall (i : (dayCall series runId day).Worker) :
    ∃ s ∈ series, (dayCall series runId day).seriesId i = s.id := by
  obtain ⟨s, hs, hid⟩ := List.mem_map.mp (List.get_mem (dayCall series runId day).selected i)
  exact ⟨s, hs, hid.symm⟩

/-- The run of a series in such a call. -/
theorem exists_worker_dayCall {s : Series} (hs : s ∈ series) :
    ∃ i, (dayCall series runId day).seriesId i = s.id := by
  have hmem : s.id ∈ (dayCall series runId day).selected := List.mem_map_of_mem hs
  obtain ⟨i, hi⟩ := List.get_of_mem hmem
  exact ⟨i, hi⟩

/-- The contract of a run of such a call. -/
theorem exists_contract_dayCall
    (hregistered : ∀ s ∈ series, orchestrator.seriesRegistry s.id = some s.contract)
    {i : (dayCall series runId day).Worker} {contract : SeriesContract}
    (h : orchestrator.seriesRegistry ((dayCall series runId day).seriesId i) = some contract) :
    ∃ s ∈ series, contract = s.contract := by
  obtain ⟨s, hs, hi⟩ := exists_series_dayCall i
  rw [hi, hregistered s hs] at h
  exact ⟨s, hs, (Option.some.inj h).symm⟩

/-- Such a call is answered in the columns of its series. -/
theorem answersInSchema_dayCall :
    (dayCall series runId day).AnswersInSchema orchestrator := by
  intro i contract hcontract adapter request incoming hadapter hincoming
  obtain rfl := Option.some.inj hadapter
  obtain rfl := Except.ok.inj hincoming
  rfl

/-- **The first update of some series** returns without failures, and all of them are read
back. -/
theorem exists_dayCall (hlake : ReadableRecords orchestrator.uow lake)
    (hdistinct : (series.map Series.id).Nodup)
    (hids : Function.Injective (dayCall series runId day).runId)
    (hregistered : ∀ s ∈ series, orchestrator.seriesRegistry s.id = some s.contract)
    (hmonths : ∀ s ∈ series, lake.months s.contract.key = KeyedTable.empty)
    (hblank : ∀ s ∈ series, isBlank (runId s.id) = false)
    (hday : dateMin ≤ day ∧ day ≤ dateMax) :
    ∃ ends batch lake',
      (dayCall series runId day).Returns orchestrator lake ends batch lake'
        ∧ batch.failures = []
        ∧ ∀ s ∈ series,
          orchestrator.uow.readBronze lake' s.contract.key = .ok (dayFrame s.contract [day]) := by
  have hrun : ∀ s ∈ series, ∀ i, (dayCall series runId day).seriesId i = s.id →
      ∃ result t, (dayCall series runId day).alone orchestrator lake i = (.returned result, t, [])
        ∧ orchestrator.uow.readBronze t s.contract.key = .ok (dayFrame s.contract [day]) := by
    intro s hs i hi
    obtain ⟨result, t, hrun, hread⟩ := succeeds_firstUpdate (hregistered s hs) hlake (hmonths s hs)
      (hblank s hs) hday
    refine ⟨result, t, ?_, hread⟩
    unfold RunManyCall.alone
    rw [hi]
    exact hrun
  obtain ⟨ends, batch, lake', hreturns, hnone⟩ := RunManyCall.exists_returns hlake hdistinct hids
    (fun i => by
      obtain ⟨s, hs, hi⟩ := exists_series_dayCall i
      obtain ⟨result, t, hrun, -⟩ := hrun s hs i hi
      exact ⟨result, t, [], hrun⟩)
  refine ⟨ends, batch, lake', hreturns, hnone, fun s hs => ?_⟩
  -- a series has the months that its run alone would have left
  obtain ⟨i, hi⟩ : ∃ i, (dayCall series runId day).seriesId i = s.id := exists_worker_dayCall hs
  obtain ⟨result, alone, hrun, hread⟩ := hrun s hs i hi
  obtain ⟨-, -, heach⟩ := hreturns.eachAlone hlake hids
  obtain ⟨t, rest, ht, -, -, hown⟩ := heach i
  obtain rfl : alone = t := congrArg (fun ended => ended.2.1) (hrun.symm.trans ht)
  obtain ⟨hmonths, -⟩ := sameSeries_of_own hown s.contract (by
    show orchestrator.seriesRegistry ((dayCall series runId day).seriesId i) = _
    rw [hi, hregistered s hs])
  rw [← hread]
  unfold BronzeUnitOfWork.readBronze
  rw [hmonths]

end FirstUpdates

/-! ### Two calls -/

/-- The series that is found under an identifier has it. -/
theorem seriesId_of_find {id : String} {contract : SeriesContract}
    (h : (goldSourceSeries.find? (fun s => s.id == id)).map Series.contract = some contract) :
    contract.seriesId = id := by
  obtain ⟨s, hs, rfl⟩ := Option.map_eq_some_iff.mp h
  have hid := List.find?_some hs
  exact eq_of_beq hid

/-- An orchestrator of all series. -/
def canonicalOrchestrator (uow : BronzeUnitOfWork) (config : PlannerConfig) :
    BronzeOrchestrator where
  seriesRegistry id := (goldSourceSeries.find? (fun s => s.id == id)).map Series.contract
  registry_id _ _ := seriesId_of_find
  uow := uow
  config := config

theorem canonicalOrchestrator_seriesRegistry (uow : BronzeUnitOfWork) (config : PlannerConfig)
    (s : Series) : (canonicalOrchestrator uow config).seriesRegistry s.id = some s.contract := by
  cases s <;> rfl

/-- A first call for one series. -/
abbrev estrCall : RunManyCall := dayCall [.estr] (fun _ => "run-1") 0

/-- A later call for two other ones. -/
abbrev vixAndMoveCall : RunManyCall :=
  dayCall [.vix, .move] (fun id => if id = "vix" then "run-2" else "run-3") 1

/-- The record of a run that has succeeded. -/
theorem RunEnd.Remains.exists_record {orchestrator : BronzeOrchestrator} {inputs : RunInputs}
    {seriesId : String} {operation : OperationMode} {today : Date} {lake s : BronzeLake}
    {run : PlannedRun} {result : SeriesRunResult}
    (h : RunEnd.Remains orchestrator inputs seriesId operation today lake s (.succeeded run result)) :
    ∃ record, HasOneRecord orchestrator.uow s inputs.runId record ∧ record.status = .success := by
  obtain ⟨-, -, -, -, -, -, -, -, ⟨record, hrecord, hstatus, -⟩, -⟩ := h
  exact ⟨record, hrecord, hstatus⟩

/-- Two calls one after the other: the later one runs two series, both are recorded, and
what the earlier one has left is there still. -/
theorem runMany_losesNoUpdate_two : ∃ (uow : BronzeUnitOfWork) (lake s : BronzeLake)
    (ends : vixAndMoveCall.Worker → RunEnd) (result : BatchRunResult) (old : IngestionRunRecord),
    uow.readBronze lake Series.estr.contract.key = .ok (dayFrame Series.estr.contract [0])
      ∧ HasOneRecord uow lake "run-1" old
      ∧ vixAndMoveCall.Returns (canonicalOrchestrator uow {}) lake ends result s
      ∧ (∃ n, HasRecord uow s ((sanitizeRecord uow.secrets)^[n] old))
      ∧ s.months Series.estr.contract.key = lake.months Series.estr.contract.key
      ∧ ∀ i, ∃ record, HasOneRecord uow s (vixAndMoveCall.runId i) record
        ∧ record.status = .success := by
  obtain ⟨uow⟩ := BronzeUnitOfWork.nonempty
  have hregistered := canonicalOrchestrator_seriesRegistry uow {}
  have hempty : ReadableRecords uow .empty := ⟨⟨[], rfl, List.nodup_nil⟩, [], rfl, List.nodup_nil⟩
  have hnone : ∀ record, ¬ HasRecord uow .empty record := by
    rintro record ⟨records, hread, hmem⟩
    cases hread
    cases hmem
  have hkeys : ∀ s ∈ [Series.estr], ∀ s' ∈ [Series.vix, .move],
      s.contract.key ≠ s'.contract.key := by decide
  -- the first call
  have hids₁ : Function.Injective estrCall.runId := by decide
  obtain ⟨ends₁, batch₁, lake, hreturns₁, hfailures₁, hread₁⟩ :=
    @exists_dayCall (canonicalOrchestrator uow {}) _ _ _ _ hempty (by decide) hids₁
      (fun s _ => hregistered s) (fun _ _ => rfl) (by decide) epoch_inRange
  obtain ⟨hlake, -, honly₁, hothers₁, -, hends₁⟩ :=
    runMany_losesNoUpdate (canonicalOrchestrator uow {}) estrCall hempty hids₁
      (fun record hrecord => absurd hrecord (hnone record)) hreturns₁
  obtain ⟨run₁, success₁, hend₁, -⟩ := hreturns₁.succeeded hfailures₁ ⟨0, by decide⟩
  have hremains₁ := (hends₁ ⟨0, by decide⟩).2
  rw [hend₁] at hremains₁
  obtain ⟨old, hold, -⟩ := hremains₁.exists_record
  -- the second one
  have hids₂ : Function.Injective vixAndMoveCall.runId := by decide
  have hmonths : ∀ s ∈ [Series.vix, .move], lake.months s.contract.key = KeyedTable.empty := by
    intro s hs
    refine (hothers₁ s.contract.key (fun i contract hcontract => ?_)).1
    obtain ⟨s', hs', rfl⟩ := exists_contract_dayCall (fun s _ => hregistered s) hcontract
    exact hkeys s' hs' s hs
  obtain ⟨ends, batch, s, hreturns, hfailures, -⟩ :=
    @exists_dayCall (canonicalOrchestrator uow {}) _ _ _ _ hlake (by decide) hids₂
      (fun s _ => hregistered s) hmonths (by decide) (by decide)
  have hfresh : ∀ record, HasRecord uow lake record →
      ∀ i, record.runId ≠ vixAndMoveCall.runId i := by
    intro record hrecord i hid
    have hother : ∀ i j, vixAndMoveCall.runId i ≠ estrCall.runId j := by decide
    obtain ⟨earlier, -, hearlier, -⟩ :=
      honly₁ record hrecord (fun j hj => hother i j (hid.symm.trans hj))
    exact hnone earlier hearlier
  obtain ⟨-, hkept, -, hothers, -, hends⟩ :=
    runMany_losesNoUpdate (canonicalOrchestrator uow {}) vixAndMoveCall hlake hids₂ hfresh hreturns
  refine ⟨uow, lake, s, ends, batch, old, hread₁ .estr List.mem_cons_self, hold, hreturns,
    hkept old hold.1, (hothers _ ?_).1, fun i => ?_⟩
  · intro i contract hcontract
    obtain ⟨s', hs', rfl⟩ := exists_contract_dayCall (fun s _ => hregistered s) hcontract
    exact (hkeys .estr List.mem_cons_self s' hs').symm
  · obtain ⟨run, success, hend, -⟩ := hreturns.succeeded hfailures i
    have hremains := (hends i).2
    rw [hend] at hremains
    exact hremains.exists_record
