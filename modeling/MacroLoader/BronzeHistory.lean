import MacroLoader.BronzeOrchestration
import MacroLoader.BronzeRefetch

/-!
# Bronze over many runs

A commit writes the months that it believes changed, and what it believes is right
(`BronzeHolds.commit`). Over many runs – of any mode, with any answers in the columns of
the series, some of them failing at some effect and rolled back – the store therefore holds
a frame at every moment, a run that commits leaves the frame that it has merged, and one
that raises leaves the frame that was there. The ingestion state goes with it: its last
observed date is the last date of the frame (`StoreInvariant`).

Keys are never lost, so neither date goes back.
-/

open Program

/-- A lake without files. -/
def BronzeLake.empty : BronzeLake where
  months := fun _ => .empty
  runs := none
  states := none

/-- A call of `run_series`, with what its effects meet. -/
structure BronzeCall where
  inputs : RunInputs
  operation : OperationMode
  today : Date
  faults : List (Fault PyError)

/-- Run a series. -/
def BronzeCall.run (orchestrator : BronzeOrchestrator) (contract : SeriesContract)
    (call : BronzeCall) (lake : BronzeLake) :
    Outcome PyError SeriesRunResult × BronzeLake × List (Fault PyError) :=
  orchestrator.runSeries call.inputs contract.seriesId call.operation call.today lake call.faults

/-- The adapter of the series answers in its columns. -/
def BronzeCall.AnswersInSchema (call : BronzeCall) (contract : SeriesContract) : Prop :=
  ∀ adapter request incoming, call.inputs.providers contract.provider = some adapter →
    adapter contract request = .ok incoming → incoming.schema = bronzeSchema contract.nativeShape

/-- **One run of a series**, which commits or raises, and whose process does not stop. -/
def BronzeStep (orchestrator : BronzeOrchestrator) (contract : SeriesContract)
    (lake s : BronzeLake) : Prop :=
  ∃ (call : BronzeCall) (outcome : Outcome PyError SeriesRunResult) (rest : List (Fault PyError)),
    call.AnswersInSchema contract
    ∧ call.run orchestrator contract lake = (outcome, s, rest) ∧ outcome ≠ .crashed

/-- The runs of a series, one after the other. -/
abbrev BronzeRuns (orchestrator : BronzeOrchestrator) (contract : SeriesContract) :
    BronzeLake → BronzeLake → Prop :=
  Relation.ReflTransGen (BronzeStep orchestrator contract)

/-- **What is true of the store of a series**: it holds a frame, and its state ends where
the frame ends. -/
structure StoreInvariant (orchestrator : BronzeOrchestrator) (contract : SeriesContract)
    (lake : BronzeLake) (frame : BronzeFrame) : Prop where
  holds : BronzeHolds orchestrator.uow contract lake frame
  /-- No file is without rows. -/
  files : frame.rows = [] → (lake.months contract.key).rows = []
  state : ∃ states, readStates orchestrator.uow.stateFormat lake.states = .ok states
    ∧ (states.map IngestionState.key).Nodup
    ∧ (stateOf states contract).lastObservedDate = latestDate frame

/-- Every key of a frame is a key of another one. -/
def KeepsKeys (frame frame' : BronzeFrame) : Prop :=
  ∀ r ∈ frame.rows, ∃ r' ∈ frame'.rows, r'.key = r.key

section Keys

variable {frame frame' frame'' : BronzeFrame}

theorem KeepsKeys.refl (frame : BronzeFrame) : KeepsKeys frame frame := fun r hr => ⟨r, hr, rfl⟩

theorem KeepsKeys.trans (h : KeepsKeys frame frame') (h' : KeepsKeys frame' frame'') :
    KeepsKeys frame frame'' := by
  intro r hr
  obtain ⟨r', hr', hkey⟩ := h r hr
  obtain ⟨r'', hr'', hkey'⟩ := h' r' hr'
  exact ⟨r'', hr'', hkey'.trans hkey⟩

/-- Where no key is lost, the last date does not go back. -/
theorem KeepsKeys.latestDate_le (h : KeepsKeys frame frame') :
    ∀ d ∈ latestDate frame, ∃ d' ∈ latestDate frame', d ≤ d' := by
  intro d hd
  obtain ⟨r, hr, rfl⟩ := List.mem_map.mp (List.max?_eq_some_iff.mp hd).1
  obtain ⟨r', hr', hkey⟩ := h r hr
  have hmem : r'.observationDate ∈ frame'.rows.map (·.observationDate) := List.mem_map_of_mem hr'
  cases hmax : latestDate frame' with
  | none => exact absurd (List.max?_eq_none_iff.mp hmax) (List.ne_nil_of_mem hmem)
  | some d' =>
    refine ⟨d', rfl, ?_⟩
    rw [← BronzeRow.date_eq_of_key_eq hkey]
    exact (List.max?_eq_some_iff.mp hmax).2 _ hmem

/-- A merge loses no key. -/
theorem IsPrepared.keepsKeys {incoming : BronzeFrame} {contract : SeriesContract}
    {prepared : PreparedBronze} (h : IsPrepared frame incoming contract prepared) :
    KeepsKeys frame prepared.merged := by
  intro r hr
  by_cases hkey : r.key ∈ prepared.diff.changed.rows.map BronzeRow.key
  · obtain ⟨r', hr', hkey'⟩ := List.mem_map.mp hkey
    exact ⟨r', (h.mem_merged r').mpr (.inl hr'), hkey'⟩
  · exact ⟨r, (h.mem_merged r).mpr (.inr ⟨hr, hkey⟩), rfl⟩

end Keys

section Steps

variable {orchestrator : BronzeOrchestrator} {contract : SeriesContract} {lake s : BronzeLake}
  {frame : BronzeFrame}

/-- An empty store. -/
theorem storeInvariant_empty (orchestrator : BronzeOrchestrator) (contract : SeriesContract) :
    StoreInvariant orchestrator contract .empty ⟨bronzeSchema contract.nativeShape, []⟩ where
  holds := bronzeHolds_empty rfl
  files _ := rfl
  state := ⟨[], rfl, List.nodup_nil, rfl⟩

/-- The invariant is about the files of the series and the states. -/
theorem StoreInvariant.congr (h : StoreInvariant orchestrator contract lake frame)
    (hmonths : s.months = lake.months) (hstates : s.states = lake.states) :
    StoreInvariant orchestrator contract s frame where
  holds := h.holds.congr (congrFun hmonths _)
  files hrows := by rw [hmonths, h.files hrows]
  state := by rw [hstates]; exact h.state

/-- What a run accepts is in the columns of the series. -/
theorem HasCommitted.accepted_schema {call : BronzeCall} {run : PlannedRun}
    {accepted : BronzeFrame} {prepared : PreparedBronze} {record : IngestionRunRecord}
    {next : IngestionState} (hanswers : call.AnswersInSchema run.contract)
    (hprovider : call.inputs.providers run.contract.provider = some run.provider)
    (h : HasCommitted orchestrator run lake s accepted prepared record next) :
    accepted.schema = bronzeSchema run.contract.nativeShape := by
  obtain ⟨incoming, hfetch, hwindow, -⟩ := h.fetched
  obtain ⟨request, -, hanswer⟩ := bind_eq_ok.mp hfetch
  rw [(enforceWindow_eq_ok hwindow).1]
  exact hanswers _ request incoming hprovider hanswer

/-- **A commit** leaves the merged frame, with its last date in the state. -/
theorem StoreInvariant.committed {run : PlannedRun} {accepted : BronzeFrame}
    {prepared : PreparedBronze} {record : IngestionRunRecord} {next : IngestionState}
    (h : StoreInvariant orchestrator run.contract lake frame)
    (hcommitted : HasCommitted orchestrator run lake s accepted prepared record next)
    (hschema : accepted.schema = bronzeSchema run.contract.nativeShape) :
    StoreInvariant orchestrator run.contract s prepared.merged
      ∧ IsPrepared frame accepted run.contract prepared := by
  obtain ⟨hholds, hprepared⟩ := hcommitted.holds h.holds (.inr hschema)
  obtain ⟨hkey, hlast, existing, states, -, hstates, hnodup, hmem⟩ := hcommitted.states
  refine ⟨⟨hholds, fun hrows => ?_, states, hstates, hnodup, ?_⟩, hprepared⟩
  · -- a merge without rows is a merge of nothing into nothing, which writes no month
    have hframe : frame.rows = [] := List.eq_nil_iff_forall_not_mem.mpr (fun r hr => by
      obtain ⟨r', hr', -⟩ := hprepared.keepsKeys r hr
      rw [hrows] at hr'
      cases hr')
    have hchanged : prepared.diff.changed.rows = [] :=
      List.eq_nil_iff_forall_not_mem.mpr (fun r hr => by
        have hmerged := (hprepared.mem_merged r).mpr (.inl hr)
        rw [hrows] at hmerged
        cases hmerged)
    obtain ⟨months, hmonths, hcommits⟩ := hcommitted.commits
    have hnil : months = [] := List.eq_nil_iff_forall_not_mem.mpr (fun month hmonth => by
      obtain ⟨r, hr, -⟩ := ((changedMonths_eq_ok hmonths).2 month).mp hmonth
      rw [hchanged] at hr
      cases hr)
    subst hnil
    rw [hcommits.toWritesMonths.agreesOutside.months_eq]
    exact h.files hframe
  · rw [stateOf_of_mem hnodup ((hmem next).mpr (.inl rfl)) hkey, hlast, hprepared.bounds]
    rfl

/-- **A run keeps the invariant and the keys.** -/
theorem StoreInvariant.step (h : StoreInvariant orchestrator contract lake frame)
    (hregistered : orchestrator.seriesRegistry contract.seriesId = some contract)
    (hstep : BronzeStep orchestrator contract lake s) :
    ∃ frame', StoreInvariant orchestrator contract s frame' ∧ KeepsKeys frame frame' := by
  obtain ⟨call, outcome, rest, hanswers, hrun, hne⟩ := hstep
  have hend := wp_runSeries orchestrator call.inputs contract.seriesId call.operation call.today
    lake call.faults
  rw [show orchestrator.runSeries call.inputs contract.seriesId call.operation call.today lake
    call.faults = (outcome, s, rest) from hrun] at hend
  cases outcome with
  | returned result =>
    obtain ⟨run, hplanned, accepted, prepared, record, next, hcommitted, -⟩ := hend
    obtain rfl := hplanned.contract_eq hregistered
    obtain ⟨hinvariant, hprepared⟩ := h.committed hcommitted
      (hcommitted.accepted_schema hanswers hplanned.provider)
    exact ⟨prepared.merged, hinvariant, hprepared.keepsKeys⟩
  | raised e =>
    rcases hend with rfl | ⟨run, -, completed, fetched, accepted, e', record, -, hwritten⟩
    · exact ⟨frame, h, .refl frame⟩
    · exact ⟨frame, h.congr hwritten.months_eq hwritten.states_eq, .refl frame⟩
  | crashed => exact absurd rfl hne

/-- So do many runs. -/
theorem StoreInvariant.runs (h : StoreInvariant orchestrator contract lake frame)
    (hregistered : orchestrator.seriesRegistry contract.seriesId = some contract)
    (hruns : BronzeRuns orchestrator contract lake s) :
    ∃ frame', StoreInvariant orchestrator contract s frame' ∧ KeepsKeys frame frame' := by
  induction hruns with
  | refl => exact ⟨frame, h, .refl frame⟩
  | tail _ hstep ih =>
    obtain ⟨frame₁, h₁, hkeys₁⟩ := ih
    obtain ⟨frame₂, h₂, hkeys₂⟩ := h₁.step hregistered hstep
    exact ⟨frame₂, h₂, hkeys₁.trans hkeys₂⟩

end Steps

/-! ## The store of a series -/

section Store

variable {orchestrator : BronzeOrchestrator} {contract : SeriesContract} {lake s : BronzeLake}
  {frame : BronzeFrame}

/-- **The Bronze of a series after any number of runs.** The keys are distinct, every row
is in the file of its month, and the state ends where the rows end. Whatever runs follow,
no key is lost and the state does not go back. A run that commits leaves the frame that it
has merged, which is read back from all the months; a frame without rows leaves no months,
and is read back without columns. -/
theorem bronzeStore_invariant
    (hregistered : orchestrator.seriesRegistry contract.seriesId = some contract)
    (hreach : BronzeRuns orchestrator contract .empty lake) :
    ∃ frame, StoreInvariant orchestrator contract lake frame
      ∧ (frame.rows.map BronzeRow.key).Nodup
      ∧ (∀ month bytes, (lake.months contract.key).get? month = some bytes →
        ∃ f, orchestrator.uow.frameFormat.decode bytes = .ok f ∧ (f.rows.map BronzeRow.key).Nodup
          ∧ ∀ r, r ∈ f.rows ↔ r ∈ frame.rows ∧ monthKey r.observationDate = month)
      ∧ (∀ s, BronzeRuns orchestrator contract lake s →
        ∃ frame', StoreInvariant orchestrator contract s frame' ∧ KeepsKeys frame frame'
          ∧ ∀ d ∈ latestDate frame, ∃ d' ∈ latestDate frame', d ≤ d')
      ∧ ∀ (call : BronzeCall) result s rest, call.AnswersInSchema contract →
        call.run orchestrator contract lake = (.returned result, s, rest) →
        ∃ run, IsPlanned orchestrator call.inputs contract.seriesId call.operation call.today lake run
          ∧ ∃ accepted prepared record next,
            HasCommitted orchestrator run lake s accepted prepared record next
            ∧ result = runResult run prepared ∧ StoreInvariant orchestrator contract s prepared.merged
            ∧ orchestrator.uow.readBronze s contract.key
              = .ok (if prepared.merged.rows = [] then Frame.noColumns else prepared.merged) := by
  obtain ⟨frame, hframe, -⟩ :=
    (storeInvariant_empty orchestrator contract).runs hregistered hreach
  refine ⟨frame, hframe, hframe.holds.sorted.nodup, fun month bytes hbytes => ?_, fun s hruns => ?_,
    fun call result s rest hanswers hrun => ?_⟩
  · obtain ⟨f, hf, -, hnodup, hrows⟩ := hframe.holds.months.file month bytes hbytes
    exact ⟨f, hf, hnodup, hrows⟩
  · obtain ⟨frame', hframe', hkeys⟩ := hframe.runs hregistered hruns
    exact ⟨frame', hframe', hkeys, hkeys.latestDate_le⟩
  · have hend := wp_runSeries orchestrator call.inputs contract.seriesId call.operation call.today
      lake call.faults
    rw [show orchestrator.runSeries call.inputs contract.seriesId call.operation call.today lake
      call.faults = (.returned result, s, rest) from hrun] at hend
    obtain ⟨run, hplanned, accepted, prepared, record, next, hcommitted, hresult⟩ := hend
    obtain rfl := hplanned.contract_eq hregistered
    obtain ⟨hinvariant, -⟩ := hframe.committed hcommitted
      (hcommitted.accepted_schema hanswers hplanned.provider)
    refine ⟨run, hplanned, accepted, prepared, record, next, hcommitted, hresult, hinvariant, ?_⟩
    rw [hinvariant.holds.readBronze_eq]
    -- there is a file exactly where there is a row
    have hfiles : (s.months run.contract.key).rows = [] ↔ prepared.merged.rows = [] :=
      ⟨hinvariant.holds.months.rows_eq_nil, hinvariant.files⟩
    simp only [hfiles]

end Store

/-! ### The first run of a series -/

/-- An orchestrator of one series. -/
def seriesOrchestrator (series : Series) (uow : BronzeUnitOfWork) : BronzeOrchestrator where
  seriesRegistry := fun id => if id = series.contract.seriesId then some series.contract else none
  registry_id id contract h := by
    split_ifs at h with hid
    obtain rfl := Option.some.inj h
    exact hid.symm
  uow := uow
  config := {}

/-- A bootstrap on the first day of the epoch, with an adapter. -/
def bootstrapCall (adapter : MarketDataProvider) : BronzeCall where
  inputs := {
    providers := fun _ => some adapter
    runId := "run-1"
    started := .utc 0
    completed := .utc 0
    failed := .utc 0 }
  operation := .bootstrap
  today := 0
  faults := []

/-- What a bootstrap asks for on the first day of the epoch. -/
def bootstrapRequest : ProviderRequest := ⟨.bootstrap, none, 0, true, nofun, nofun, fun _ => rfl⟩

/-- **A first run goes through**, whatever rows of the series it is answered with. -/
theorem succeeds_bootstrapCall (series : Series) (uow : BronzeUnitOfWork)
    (adapter : MarketDataProvider) {answer : BronzeFrame}
    (hanswer : adapter series.contract bootstrapRequest = .ok answer)
    (hschema : answer.schema = bronzeSchema series.contract.nativeShape)
    (hnodup : (answer.rows.map BronzeRow.key).Nodup)
    (hdates : ∀ r ∈ answer.rows, dateMin ≤ r.observationDate ∧ r.observationDate ≤ dateMax) :
    ∃ result s, (bootstrapCall adapter).run (seriesOrchestrator series uow) series.contract .empty
        = (.returned result, s, [])
      ∧ ∃ run record prepared next, run.contract = series.contract
        ∧ HasCommitted (seriesOrchestrator series uow) run .empty s answer prepared record next := by
  have hid : isBlank "run-1" = false := by decide
  have hregistered : (seriesOrchestrator series uow).seriesRegistry series.contract.seriesId
      = some series.contract := if_pos rfl
  obtain ⟨result, s, hrun, run, -, hcontract, -, prepared, record, next, hcommitted, -⟩ :
      Succeeds ((seriesOrchestrator series uow).runSeries (bootstrapCall adapter).inputs
        series.contract.seriesId .bootstrap 0) BronzeLake.empty _ :=
    succeeds_runSeries hregistered rfl (bronzeHolds_empty rfl) (fun _ => rfl) rfl rfl rfl le_rfl hid
      (rfl : providerRequest _ = .ok bootstrapRequest) hanswer rfl hschema hnodup hdates rfl
      List.nodup_nil rfl List.nodup_nil
  exact ⟨result, s, hrun, run, record, prepared, next, hcontract, hcommitted⟩

/-- An adapter that always answers with one frame of the series answers in its schema. -/
theorem answersInSchema_const {contract : SeriesContract} {answer : BronzeFrame}
    (hschema : answer.schema = bronzeSchema contract.nativeShape) :
    (bootstrapCall (fun _ _ => .ok answer)).AnswersInSchema contract := by
  rintro adapter request incoming hadapter hanswer
  obtain rfl := Option.some.inj hadapter
  obtain rfl := Except.ok.inj hanswer
  exact hschema

/-- Rows of which there is one. -/
theorem eq_singleton_of_mem_iff {rows : List BronzeRow} {row : BronzeRow}
    (hnodup : (rows.map BronzeRow.key).Nodup) (h : ∀ r, r ∈ rows ↔ r = row) : rows = [row] := by
  refine List.perm_singleton.mp ((List.perm_ext_iff_of_nodup (List.Nodup.of_map _ hnodup)
    (List.nodup_singleton row)).mpr (fun r => ?_))
  rw [h, List.mem_singleton]

/-- **A first commit of one row** is read back. -/
theorem HasCommitted.readBronze_first {orchestrator : BronzeOrchestrator} {run : PlannedRun}
    {lake s : BronzeLake} {accepted : BronzeFrame} {row : BronzeRow} {prepared : PreparedBronze}
    {record : IngestionRunRecord} {next : IngestionState}
    (h : HasCommitted orchestrator run lake s accepted prepared record next)
    (hmonths : lake.months run.contract.key = KeyedTable.empty)
    (haccepted : accepted = ⟨bronzeSchema run.contract.nativeShape, [row]⟩) :
    orchestrator.uow.readBronze s run.contract.key = .ok accepted := by
  subst haccepted
  obtain ⟨hholds, hprepared⟩ := h.holds (bronzeHolds_empty hmonths) (.inr rfl)
  have hrows : prepared.merged.rows = [row] := eq_singleton_of_mem_iff hprepared.sorted.nodup
    (fun r => hprepared.mem_merged_first.trans List.mem_singleton)
  rw [hholds.readBronze_of_ne_nil (by rw [hrows]; exact List.cons_ne_nil _ _)]
  calc Except.ok prepared.merged = .ok ⟨prepared.merged.schema, prepared.merged.rows⟩ := rfl
    _ = .ok ⟨bronzeSchema run.contract.nativeShape, [row]⟩ := by rw [hprepared.schema, hrows]

/-- A row of a series on some day. -/
def dayRow (contract : SeriesContract) (day : Date) : BronzeRow where
  seriesId := contract.seriesId
  provider := contract.provider.value
  observationDate := day
  fetchedAtUtc := 0
  sourceId := contract.sourceId
  sourceUrl := contract.sourceId
  value :=
    match contract.nativeShape with
    | .ohlc => none
    | .scalar => some .one
  bar :=
    match contract.nativeShape with
    | .ohlc => fun _ => some .one
    | .scalar => fun _ => none

/-- A frame with a row on each of some days. -/
def dayFrame (contract : SeriesContract) (days : List Date) : BronzeFrame :=
  ⟨bronzeSchema contract.nativeShape, days.map (dayRow contract)⟩

/-- A bootstrap with one row: the row is read back. -/
theorem bronzeStore_invariant_estr : ∃ (uow : BronzeUnitOfWork) (result : SeriesRunResult)
    (s : BronzeLake) (merged : BronzeFrame),
    (bootstrapCall (fun _ _ => .ok (estrFrame 0))).run (seriesOrchestrator .estr uow)
        Series.estr.contract .empty
        = (.returned result, s, [])
      ∧ StoreInvariant (seriesOrchestrator .estr uow) Series.estr.contract s merged
      ∧ uow.readBronze s Series.estr.contract.key
        = .ok (if merged.rows = [] then Frame.noColumns else merged) := by
  obtain ⟨uow⟩ := BronzeUnitOfWork.nonempty
  have hdates : ∀ r ∈ (estrFrame 0).rows,
      dateMin ≤ r.observationDate ∧ r.observationDate ≤ dateMax := by
    intro r hr
    obtain rfl := List.mem_singleton.mp hr
    exact epoch_inRange
  obtain ⟨result, s, hrun, -⟩ := succeeds_bootstrapCall .estr uow
    (fun _ _ => .ok (estrFrame 0)) rfl rfl (List.nodup_singleton _) hdates
  obtain ⟨frame, -, -, -, -, hcommits⟩ :=
    @bronzeStore_invariant (seriesOrchestrator .estr uow) Series.estr.contract .empty rfl .refl
  obtain ⟨run, -, accepted, prepared, record, next, -, -, hinvariant, hread⟩ :=
    hcommits _ result s [] (answersInSchema_const rfl) hrun
  exact ⟨uow, result, s, prepared.merged, hrun, hinvariant, hread⟩

/-- **A frame without rows is not read back**: its columns are lost. -/
theorem readBronze_ne_merged : ∃ (uow : BronzeUnitOfWork) (result : SeriesRunResult)
    (s : BronzeLake) (run : PlannedRun) (accepted : BronzeFrame) (prepared : PreparedBronze)
    (record : IngestionRunRecord) (next : IngestionState),
    (bootstrapCall (fun _ _ => .ok ⟨bronzeSchema .scalar, []⟩)).AnswersInSchema Series.estr.contract
      ∧ (bootstrapCall (fun _ _ => .ok ⟨bronzeSchema .scalar, []⟩)).run
          (seriesOrchestrator .estr uow) Series.estr.contract .empty = (.returned result, s, [])
      ∧ HasCommitted (seriesOrchestrator .estr uow) run .empty s accepted prepared record next
      ∧ uow.readBronze s Series.estr.contract.key ≠ .ok prepared.merged := by
  obtain ⟨uow⟩ := BronzeUnitOfWork.nonempty
  obtain ⟨result, s, hrun, run, record, prepared, next, hcontract, hcommitted⟩ :=
    succeeds_bootstrapCall .estr uow (fun _ _ => .ok ⟨bronzeSchema .scalar, []⟩) rfl rfl
      List.nodup_nil (by simp)
  refine ⟨uow, result, s, run, _, prepared, record, next, answersInSchema_const rfl, hrun, hcommitted,
    ?_⟩
  obtain ⟨hinvariant, hprepared⟩ := (storeInvariant_empty (seriesOrchestrator .estr uow)
    run.contract).committed hcommitted (by rw [hcontract]; rfl)
  have hrows : prepared.merged.rows = [] := List.eq_nil_iff_forall_not_mem.mpr (fun r hr => by
    rcases (hprepared.mem_merged r).mp hr with hchanged | ⟨hold, -⟩
    · cases ((hprepared.mem_changed r).mp hchanged).1
    · cases hold)
  have hread := hinvariant.holds.readBronze_eq
  rw [if_pos (hinvariant.files hrows), hcontract] at hread
  rw [show uow.readBronze s Series.estr.contract.key = .ok Frame.noColumns from hread]
  intro heq
  have hschema := hprepared.schema
  rw [← Except.ok.inj heq, hcontract] at hschema
  cases hschema
