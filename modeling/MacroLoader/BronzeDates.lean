import MacroLoader.BronzeHistory
import MacroLoader.FullFileProviders

/-!
# Rows from the future

A plan is refused if Bronze holds a row that is dated after today, and an update does not
let such a row in: the orchestrator checks its rows against the window, which ends today.
A bootstrap and a reconcile take the whole file of the provider and check nothing. So a
store stays plannable as long as no whole file has a row from the future
(`datedRuns_notWedged`), and a single row from the future blocks every plan until
its date has come.
-/

open Program

/-- The error of a plan that is made before the last stored date. -/
def wedgedError : PyError := .valueError "today cannot be earlier than latest stored observation"

/-- A run that asks for a whole file is given no row from the future: unless its plan is an
update, the answer to its request has no row that is dated after its day. -/
def BronzeCall.AnswersUpToToday (orchestrator : BronzeOrchestrator) (contract : SeriesContract)
    (call : BronzeCall) (lake : BronzeLake) : Prop :=
  ∀ run incoming,
    IsPlanned orchestrator call.inputs contract.seriesId call.operation call.today lake run →
    run.plan.mode ≠ .update → fetchRun run = .ok incoming →
    ∀ r ∈ incoming.rows, r.observationDate ≤ call.today

/-- **A history of successful runs** on days that do not go back, and the last of the days.
Of each run something may be asked, with the lake it starts from. -/
inductive DatedRuns (orchestrator : BronzeOrchestrator) (contract : SeriesContract)
    (allowed : BronzeCall → BronzeLake → Prop) : Option Date → BronzeLake → Prop
  | start : DatedRuns orchestrator contract allowed none .empty
  | run {last : Option Date} {lake s : BronzeLake} {call : BronzeCall} {result : SeriesRunResult}
      {rest : List (Fault PyError)} (before : DatedRuns orchestrator contract allowed last lake)
      (answers : call.AnswersInSchema contract) (condition : allowed call lake)
      (later : ∀ d ∈ last, d ≤ call.today)
      (returned : call.run orchestrator contract lake = (.returned result, s, rest)) :
      DatedRuns orchestrator contract allowed (some call.today) s

/-- **The store can be planned for**: it holds a frame without rows from after the last day,
so that no plan for that day or a later one is refused because of its dates. -/
structure NotWedged (orchestrator : BronzeOrchestrator) (contract : SeriesContract)
    (last : Option Date) (lake : BronzeLake) (frame : BronzeFrame) : Prop where
  invariant : StoreInvariant orchestrator contract lake frame
  latest : ∀ d ∈ latestDate frame, ∃ day ∈ last, d ≤ day
  plans : ∀ bounds today reconcile,
    observationBounds orchestrator.uow.frameFormat.decode (·.observationDate)
      (bronzeMonthPath orchestrator.uow.root contract.key) (lake.months contract.key) = .ok bounds →
    (∀ day ∈ last, day ≤ today) →
    buildPlan contract bounds today reconcile orchestrator.config ≠ .error wedgedError

section Wedged

variable {orchestrator : BronzeOrchestrator} {contract : SeriesContract} {lake s : BronzeLake}
  {frame : BronzeFrame} {last : Option Date} {today : Date} {reconcile : Bool}
  {bounds : ObservationBounds} {config : PlannerConfig}

theorem subtractDays_ne_wedgedError {d : Date} {days : ℤ} :
    subtractDays d days ≠ .error wedgedError := by
  unfold subtractDays
  split_ifs <;> simp [PyError.overflowError, PyError.valueError, wedgedError]

/-- **A plan is refused for its dates** exactly if there is a stored date after today. -/
theorem buildPlan_eq_wedgedError_iff :
    buildPlan contract bounds today reconcile config = .error wedgedError
      ↔ ∃ latest ∈ bounds.maximum, today < latest := by
  unfold buildPlan chooseMode
  cases hmax : bounds.maximum with
  | none =>
    cases reconcile <;> simp [bind, Except.bind, pure, Except.pure, PyError.valueError, wedgedError]
  | some latest =>
    simp only [Option.mem_def, Option.some.injEq, exists_eq_left']
    by_cases hlatest : latest ≤ today
    · refine iff_of_false (fun h => ?_) (not_lt.mpr hlatest)
      cases reconcile with
      | true =>
        simp [bind, Except.bind, pure, Except.pure, check, hlatest] at h
      | false =>
        -- what is left is the subtraction of the overlap
        cases hstart : subtractDays latest config.overlapDays with
        | error e =>
          simp [bind, Except.bind, check, hlatest, hstart] at h
          exact subtractDays_ne_wedgedError (hstart.trans (congrArg _ h))
        | ok start =>
          simp [bind, Except.bind, pure, Except.pure, check, hlatest, hstart] at h
    · refine iff_of_true ?_ (not_le.mp hlatest)
      cases reconcile <;> simp [bind, Except.bind, check, hlatest, wedgedError]

/-- What a run accepts is not dated after its day, if whole files have no rows from the
future: the rows of an update are checked. -/
theorem IsPlanned.accepted_le {call : BronzeCall} {run : PlannedRun} {accepted : BronzeFrame}
    {prepared : PreparedBronze} {record : IngestionRunRecord} {next : IngestionState}
    (h : IsPlanned orchestrator call.inputs run.contract.seriesId call.operation call.today lake run)
    (hcommitted : HasCommitted orchestrator run lake s accepted prepared record next)
    (hfiles : call.AnswersUpToToday orchestrator run.contract lake) :
    ∀ r ∈ accepted.rows, r.observationDate ≤ call.today := by
  obtain ⟨incoming, hfetch, hwindow, -⟩ := hcommitted.fetched
  obtain ⟨rfl, hchecked⟩ := enforceWindow_eq_ok hwindow
  by_cases hmode : run.plan.mode = .update
  · -- the window of an update ends on the day of the run
    obtain ⟨bounds, -, -, hplan⟩ := h.plan
    rcases buildPlan_cases hplan with ⟨-, -, heq⟩ | ⟨latest, -, -, -, heq⟩
      | ⟨latest, -, -, -, -, heq⟩ <;> rw [heq] at hmode hchecked
    · cases hmode
    · cases hmode
    · exact fun r hr => (hchecked rfl r hr _ rfl).2
  · exact hfiles run accepted h hmode hfetch

/-- A run is planned in one way. -/
theorem IsPlanned.unique {call : BronzeCall} {run run' : PlannedRun} {seriesId : String}
    (h : IsPlanned orchestrator call.inputs seriesId call.operation call.today lake run)
    (h' : IsPlanned orchestrator call.inputs seriesId call.operation call.today lake run') :
    run = run' := by
  have hcontract : run.contract = run'.contract :=
    Option.some.inj (h.registered.symm.trans h'.registered)
  have hprovider : run.provider = run'.provider :=
    Option.some.inj (h.provider.symm.trans (hcontract ▸ h'.provider))
  have hplan : run.plan = run'.plan := by
    obtain ⟨bounds, hbounds, -, hbuild⟩ := h.plan
    obtain ⟨bounds', hbounds', -, hbuild'⟩ := h'.plan
    rw [← hcontract] at hbounds' hbuild'
    obtain rfl := Except.ok.inj (hbounds.symm.trans hbounds')
    exact Except.ok.inj (hbuild.symm.trans hbuild')
  have hstarted : run.started = run'.started := Except.ok.inj (h.started.symm.trans h'.started)
  calc run = ⟨run.inputs, run.contract, run.provider, run.plan, run.started⟩ := rfl
    _ = ⟨run'.inputs, run'.contract, run'.provider, run'.plan, run'.started⟩ := by
      rw [h.inputs_eq, h'.inputs_eq, hcontract, hprovider, hplan, hstarted]
    _ = run' := rfl

/-- **A store can be planned for** exactly if it holds no row from after the last day. -/
theorem StoreInvariant.exists_notWedged_iff
    (hframe : StoreInvariant orchestrator contract lake frame) :
    (∃ frame', NotWedged orchestrator contract last lake frame')
      ↔ ∀ r ∈ frame.rows, ∃ day ∈ last, r.observationDate ≤ day := by
  constructor
  · rintro ⟨frame', hframe'⟩ r hr
    obtain rfl := hframe.holds.unique hframe'.invariant.holds
    have hmem : r.observationDate ∈ frame.rows.map (·.observationDate) := List.mem_map_of_mem hr
    cases hmax : latestDate frame with
    | none =>
      rw [List.max?_eq_none_iff.mp hmax] at hmem
      cases hmem
    | some d =>
      obtain ⟨day, hday, hle⟩ := hframe'.latest d hmax
      exact ⟨day, hday, ((List.max?_eq_some_iff.mp hmax).2 _ hmem).trans hle⟩
  · intro hdates
    have hlatest : ∀ d ∈ latestDate frame, ∃ day ∈ last, d ≤ day := by
      intro d hd
      obtain ⟨r, hr, rfl⟩ := List.mem_map.mp (List.max?_eq_some_iff.mp hd).1
      exact hdates r hr
    refine ⟨frame, hframe, hlatest, fun bounds today reconcile hbounds htoday herror => ?_⟩
    rw [hframe.holds.observationBounds_eq] at hbounds
    obtain rfl := Except.ok.inj hbounds
    obtain ⟨d, hd, hlt⟩ := buildPlan_eq_wedgedError_iff.mp herror
    obtain ⟨day, hday, hle⟩ := hlatest d hd
    exact absurd (hle.trans (htoday day hday)) (not_le.mpr hlt)

/-- What a run that returns has done to the store. -/
theorem StoreInvariant.returned {call : BronzeCall} {result : SeriesRunResult}
    {rest : List (Fault PyError)} (hframe : StoreInvariant orchestrator contract lake frame)
    (hregistered : orchestrator.seriesRegistry contract.seriesId = some contract)
    (answers : call.AnswersInSchema contract)
    (returned : call.run orchestrator contract lake = (.returned result, s, rest)) :
    ∃ run accepted prepared record next, run.contract = contract
      ∧ IsPlanned orchestrator call.inputs contract.seriesId call.operation call.today lake run
      ∧ HasCommitted orchestrator run lake s accepted prepared record next
      ∧ StoreInvariant orchestrator contract s prepared.merged
      ∧ IsPrepared frame accepted contract prepared := by
  have hend := wp_runSeries orchestrator call.inputs contract.seriesId call.operation call.today
    lake call.faults
  rw [show orchestrator.runSeries call.inputs contract.seriesId call.operation call.today lake
    call.faults = (.returned result, s, rest) from returned] at hend
  obtain ⟨run, hplanned, accepted, prepared, record, next, hcommitted, -⟩ := hend
  obtain rfl := hplanned.contract_eq hregistered
  obtain ⟨hinvariant, hprepared⟩ := hframe.committed hcommitted
    (hcommitted.accepted_schema answers hplanned.provider)
  exact ⟨run, accepted, prepared, record, next, rfl, hplanned, hcommitted, hinvariant, hprepared⟩

/-- **A run leaves no row from the future** exactly if its answer has none where it asks for
a whole file. -/
theorem StoreInvariant.returned_upToToday_iff {call : BronzeCall} {result : SeriesRunResult}
    {rest : List (Fault PyError)} (hframe : StoreInvariant orchestrator contract lake frame)
    (hregistered : orchestrator.seriesRegistry contract.seriesId = some contract)
    (answers : call.AnswersInSchema contract)
    (hdates : ∀ r ∈ frame.rows, r.observationDate ≤ call.today)
    (returned : call.run orchestrator contract lake = (.returned result, s, rest)) :
    ∃ merged, StoreInvariant orchestrator contract s merged
      ∧ ((∀ r ∈ merged.rows, r.observationDate ≤ call.today)
        ↔ call.AnswersUpToToday orchestrator contract lake) := by
  obtain ⟨run, accepted, prepared, record, next, rfl, hplanned, hcommitted, hinvariant, hprepared⟩ :=
    hframe.returned hregistered answers returned
  refine ⟨prepared.merged, hinvariant, fun hmerged run' incoming hplanned' _ hfetch r hr => ?_,
    fun hfiles r hr => ?_⟩
  · -- every row of the answer is repeated in the merge
    obtain rfl := hplanned'.unique hplanned
    obtain ⟨incoming', hfetch', hwindow, -⟩ := hcommitted.fetched
    obtain rfl := Except.ok.inj (hfetch.symm.trans hfetch')
    obtain ⟨rfl, -⟩ := enforceWindow_eq_ok hwindow
    obtain ⟨r', hr', hkey, -⟩ := hprepared.isRepeated hr
    rw [← BronzeRow.date_eq_of_key_eq hkey]
    exact hmerged r' hr'
  · rcases (hprepared.mem_merged r).mp hr with hchanged | ⟨hold, -⟩
    · exact hplanned.accepted_le hcommitted hfiles r ((hprepared.mem_changed r).mp hchanged).1
    · exact hdates r hold

/-- **Without rows from the future in whole files the store is never wedged**, by whatever
successful runs on days that do not go back, and the first run that is given such a row
wedges it. -/
theorem datedRuns_notWedged
    (hregistered : orchestrator.seriesRegistry contract.seriesId = some contract)
    (h : DatedRuns orchestrator contract
      (fun call lake => call.AnswersUpToToday orchestrator contract lake) last lake) :
    (∃ frame, NotWedged orchestrator contract last lake frame)
      ∧ ∀ (call : BronzeCall) result s rest, call.AnswersInSchema contract →
        (∀ d ∈ last, d ≤ call.today) →
        call.run orchestrator contract lake = (.returned result, s, rest) →
        ((∃ frame, NotWedged orchestrator contract (some call.today) s frame)
          ↔ call.AnswersUpToToday orchestrator contract lake) := by
  have hstep : ∀ {last : Option Date} {lake s : BronzeLake} {frame : BronzeFrame}
      {call : BronzeCall} {result : SeriesRunResult} {rest : List (Fault PyError)},
      StoreInvariant orchestrator contract lake frame →
      (∀ r ∈ frame.rows, ∃ day ∈ last, r.observationDate ≤ day) → call.AnswersInSchema contract →
      (∀ d ∈ last, d ≤ call.today) →
      call.run orchestrator contract lake = (.returned result, s, rest) →
      ∃ merged, StoreInvariant orchestrator contract s merged
        ∧ ((∀ r ∈ merged.rows, r.observationDate ≤ call.today)
          ↔ call.AnswersUpToToday orchestrator contract lake) := by
    intro last lake s frame call result rest hframe hdates answers later returned
    refine hframe.returned_upToToday_iff hregistered answers (fun r hr => ?_) returned
    obtain ⟨day, hday, hle⟩ := hdates r hr
    exact hle.trans (later day hday)
  have hrows : ∃ frame, StoreInvariant orchestrator contract lake frame
      ∧ ∀ r ∈ frame.rows, ∃ day ∈ last, r.observationDate ≤ day := by
    induction h with
    | start => exact ⟨_, storeInvariant_empty orchestrator contract, fun r hr => by cases hr⟩
    | run _ answers condition later returned ih =>
      obtain ⟨frame, hframe, hdates⟩ := ih
      obtain ⟨merged, hmerged, hiff⟩ := hstep hframe hdates answers later returned
      exact ⟨merged, hmerged, fun r hr => ⟨_, rfl, hiff.mpr condition r hr⟩⟩
  obtain ⟨frame, hframe, hdates⟩ := hrows
  refine ⟨hframe.exists_notWedged_iff.mpr hdates, fun call result s rest answers later returned => ?_⟩
  obtain ⟨merged, hmerged, hiff⟩ := hstep hframe hdates answers later returned
  rw [hmerged.exists_notWedged_iff, ← hiff]
  simp only [Option.mem_some_iff, exists_eq_left']

end Wedged

/-! ### A row from the future -/

/-- Some days, as files of CBOE write them. -/
def januaryDays : List (String × Date) := [("01/01/1970", 0), ("01/02/1970", 1), ("01/03/1970", 2)]

/-- A file of CBOE with a bar of ones on each of some days. -/
def barsCsv (days : List String) : CsvFrame where
  columns := ["DATE", "OPEN", "HIGH", "LOW", "CLOSE"]
  rows := days.map (fun day => [some day, some "1", some "1", some "1", some "1"])

/-- A source that delivers the file. -/
def barsSource (days : List String) : FileSource where
  polars := {
    readCsv := fun _ _ => .ok (barsCsv days)
    stripUpper := id
    strptime := fun format text => if format = "%m/%d/%Y" then januaryDays.lookup text else none
    castFloat := fun text => if text = "1" then some .one else none }
  columnName := id
  send := fun _ => .ok ⟨200,
    (String.join ("DATE,OPEN,HIGH,LOW,CLOSE\n" :: days.map (· ++ ",1,1,1,1\n"))).toUTF8.toList⟩
  clock := .utc 0

/-- The adapter with the file. -/
def barsProvider (days : List String) : FullFileAdapter :=
  cboeProvider "https://cdn.cboe.com/api/global/us_indices/daily_prices" (barsSource days)

/-- The adapter with a file of one bar, which is dated on the second day of the epoch. -/
def futureProvider : FullFileAdapter := barsProvider ["01/02/1970"]

/-- After a first run the last day is that of its answer. -/
theorem IsPrepared.latestDate_first {contract : SeriesContract} {schema : List (String × String)}
    {incoming : BronzeFrame} {prepared : PreparedBronze}
    (h : IsPrepared ⟨schema, []⟩ incoming contract prepared) :
    latestDate prepared.merged = latestDate incoming := by
  have hdates : ∀ d, d ∈ prepared.merged.rows.map (·.observationDate)
      ↔ d ∈ incoming.rows.map (·.observationDate) := fun d => by
    simp only [List.mem_map, h.mem_merged_first]
  refine Option.ext (fun d => ?_)
  show List.max? _ = some d ↔ List.max? _ = some d
  rw [List.max?_eq_some_iff, List.max?_eq_some_iff]
  simp only [hdates]

/-- The files of the runs and of the states can be read after a run. -/
theorem HasCommitted.readable {orchestrator : BronzeOrchestrator} {run : PlannedRun}
    {lake s : BronzeLake} {accepted : BronzeFrame} {prepared : PreparedBronze}
    {record : IngestionRunRecord} {next : IngestionState}
    (h : HasCommitted orchestrator run lake s accepted prepared record next) :
    (∃ records, readRuns orchestrator.uow.runFormat s.runs = .ok records
        ∧ (records.map (·.runId)).Nodup)
      ∧ ∃ states, readStates orchestrator.uow.stateFormat s.states = .ok states
        ∧ (states.map IngestionState.key).Nodup := by
  obtain ⟨-, -, existing, states, -, hstates, hnodup, -⟩ := h.states
  obtain ⟨months, -, hcommits⟩ := h.commits
  obtain ⟨bytes, hbytes, hruns⟩ := hcommits.runs
  obtain ⟨-, records, -, hrecords, hrunIds, -⟩ := upsertRun_spec hbytes
  exact ⟨⟨records, hruns ▸ hrecords, hrunIds⟩, states, hstates, hnodup⟩

/-- An update on the second day of the epoch, with an adapter. -/
def updateCall (adapter : MarketDataProvider) : BronzeCall where
  inputs := { (bootstrapCall adapter).inputs with runId := "run-2" }
  operation := .update
  today := 1
  faults := []

/-- What it asks for where the last stored day is the first of the epoch. -/
def updateRequest : ProviderRequest :=
  ⟨.update, some (-7), 1, false, by simp, fun _ => rfl, fun h => absurd rfl h⟩

/-- A file without rows from the future has none for any run. -/
theorem FullFileAdapter.answersUpToToday {adapter : FullFileAdapter}
    {orchestrator : BronzeOrchestrator} {contract : SeriesContract} {call : BronzeCall}
    {lake : BronzeLake} {file : BronzeFrame}
    (hregistered : orchestrator.seriesRegistry contract.seriesId = some contract)
    (hadapter : call.inputs.providers contract.provider = some adapter.fetch)
    (hfile : adapter.parse contract = .ok file)
    (hdates : ∀ r ∈ file.rows, r.observationDate ≤ call.today) :
    call.AnswersUpToToday orchestrator contract lake := by
  intro run incoming hplanned _ hfetch r hr
  obtain rfl := hplanned.contract_eq hregistered
  obtain ⟨request, -, hincoming⟩ := bind_eq_ok.mp hfetch
  rw [Option.some.inj (hplanned.provider.symm.trans hadapter)] at hincoming
  obtain ⟨file', hfile', -, -, hmem⟩ := FullFileAdapter.fetch_eq_ok hincoming
  obtain rfl := Except.ok.inj (hfile.symm.trans hfile')
  exact hdates r ((hmem r).mp hr).1

/-- Neither has an update of a store with rows, whatever the file says. -/
theorem StoreInvariant.answersUpToToday {orchestrator : BronzeOrchestrator}
    {contract : SeriesContract} {call : BronzeCall} {lake : BronzeLake} {frame : BronzeFrame}
    {latest : Date} (h : StoreInvariant orchestrator contract lake frame)
    (hregistered : orchestrator.seriesRegistry contract.seriesId = some contract)
    (hlatest : latestDate frame = some latest) (hoperation : call.operation = .update) :
    call.AnswersUpToToday orchestrator contract lake := by
  intro run incoming hplanned hmode
  obtain rfl := hplanned.contract_eq hregistered
  obtain ⟨-, hplan⟩ := hplanned.buildPlan_eq h.holds
  rw [hlatest, hoperation] at hplan
  rcases buildPlan_cases hplan with ⟨hmax, -, -⟩ | ⟨_, -, -, hreconcile, -⟩
    | ⟨_, -, -, -, -, heq⟩
  · cases hmax
  · cases hreconcile
  · rw [heq] at hmode
    exact absurd rfl hmode

/-- A bootstrap, and an update on the next day: its file has a bar from the future, which is
not in the window. -/
theorem datedRuns_notWedged_vix : ∃ (uow : BronzeUnitOfWork) (s : BronzeLake) (frame : BronzeFrame),
    DatedRuns (seriesOrchestrator .vix uow) Series.vix.contract (fun call lake =>
        call.AnswersUpToToday (seriesOrchestrator .vix uow) Series.vix.contract lake) (some 1) s
      ∧ NotWedged (seriesOrchestrator .vix uow) Series.vix.contract (some 1) s frame
      ∧ latestDate frame = some 1 := by
  obtain ⟨uow⟩ := BronzeUnitOfWork.nonempty
  let first := barsProvider ["01/01/1970"]
  let second := barsProvider ["01/01/1970", "01/02/1970", "01/03/1970"]
  obtain ⟨answer₁, hanswer₁, hschema₁, hdates₁⟩ : ∃ answer,
      first.fetch Series.vix.contract bootstrapRequest = .ok answer
        ∧ answer.schema = bronzeSchema .ohlc ∧ answer.rows.map (·.observationDate) = [0] :=
    ⟨_, rfl, rfl, rfl⟩
  obtain ⟨answer₂, hanswer₂, hschema₂, hdates₂, hwindow₂⟩ : ∃ answer,
      second.fetch Series.vix.contract updateRequest = .ok answer
        ∧ answer.schema = bronzeSchema .ohlc ∧ answer.rows.map (·.observationDate) = [0, 1]
        ∧ enforceWindow answer (updatePlan .fullFile (-7) 1) = .ok answer :=
    ⟨_, rfl, rfl, rfl, rfl⟩
  have hrow₁ : ∀ r ∈ answer₁.rows, r.observationDate = 0 := fun r hr =>
    List.mem_singleton.mp (hdates₁ ▸ List.mem_map_of_mem hr)
  have hrow₂ : ∀ r ∈ answer₂.rows, r.observationDate = 0 ∨ r.observationDate = 1 := by
    intro r hr
    have hmem : r.observationDate ∈ ([0, 1] : List Date) := hdates₂ ▸ List.mem_map_of_mem hr
    simpa using hmem
  obtain ⟨-, -, -, hnodup₁, -⟩ := FullFileAdapter.fetch_eq_ok hanswer₁
  obtain ⟨-, -, -, hnodup₂, -⟩ := FullFileAdapter.fetch_eq_ok hanswer₂
  have hanswers : ∀ (adapter : FullFileAdapter) (call : BronzeCall),
      call.inputs.providers = (fun _ => some adapter.fetch) →
      call.AnswersInSchema Series.vix.contract := by
    intro adapter call hproviders adapter' request incoming hadapter hincoming
    rw [hproviders] at hadapter
    obtain rfl := Option.some.inj hadapter
    exact adapter.fetch_schema hincoming
  -- the bootstrap
  obtain ⟨result₁, s₁, hrun₁, run₁, record₁, prepared₁, next₁, hcontract₁, hcommitted₁⟩ :=
    succeeds_bootstrapCall .vix uow first.fetch hanswer₁ hschema₁ hnodup₁
      (fun r hr => hrow₁ r hr ▸ (by decide))
  obtain ⟨hinvariant₁, hprepared₁⟩ := (storeInvariant_empty (seriesOrchestrator .vix uow)
    run₁.contract).committed hcommitted₁ (by rw [hcontract₁]; exact hschema₁)
  rw [hcontract₁] at hinvariant₁
  have hlatest₁ : latestDate prepared₁.merged = some 0 := by
    rw [hprepared₁.latestDate_first, latestDate, hdates₁]
    rfl
  have hcondition₁ : (bootstrapCall first.fetch).AnswersUpToToday (seriesOrchestrator .vix uow)
      Series.vix.contract .empty := by
    obtain ⟨file, hfile, hfileDates⟩ : ∃ file, first.parse Series.vix.contract = .ok file
        ∧ file.rows.map (·.observationDate) = [0] := ⟨_, rfl, rfl⟩
    refine FullFileAdapter.answersUpToToday rfl rfl hfile (fun r hr => ?_)
    exact (List.mem_singleton.mp (hfileDates ▸ List.mem_map_of_mem hr)).le
  -- the update
  obtain ⟨⟨records, hrecords, hrunIds⟩, states, hstates, hkeys⟩ := hcommitted₁.readable
  obtain ⟨result₂, s₂, hrun₂, run₂, -, hcontract₂, -, prepared₂, record₂, next₂, hcommitted₂, -⟩ :=
    @succeeds_runSeries (seriesOrchestrator .vix uow) (updateCall second.fetch).inputs "vix" .update 1
      s₁ Series.vix.contract second.fetch prepared₁.merged answer₂ (updatePlan .fullFile (-7) 1)
      updateRequest 0 0 records states rfl rfl hinvariant₁.holds OperationMode.noConfusion
      (by rw [hlatest₁]; rfl) rfl rfl le_rfl (by decide) rfl hanswer₂ hwindow₂ hschema₂ hnodup₂
      (fun r hr => by rcases hrow₂ r hr with h | h <;> rw [h] <;> decide) hrecords hrunIds hstates
      hkeys
  have hruns : DatedRuns (seriesOrchestrator .vix uow) Series.vix.contract (fun call lake =>
      call.AnswersUpToToday (seriesOrchestrator .vix uow) Series.vix.contract lake) (some 1) s₂ :=
    .run (.run .start (hanswers first _ rfl) hcondition₁ (by simp) hrun₁)
      (hanswers second (updateCall second.fetch) rfl)
      (hinvariant₁.answersUpToToday rfl hlatest₁ rfl) (by simp [bootstrapCall, updateCall]) hrun₂
  obtain ⟨⟨frame, hframe⟩, -⟩ := datedRuns_notWedged rfl hruns
  -- the bar of the second day is stored
  obtain ⟨hholds₂, hprepared₂⟩ := hcommitted₂.holds (hcontract₂ ▸ hinvariant₁.holds)
    (.inr (by rw [hcontract₂]; exact hschema₂))
  obtain ⟨r, hr, hdate⟩ : ∃ r ∈ answer₂.rows, r.observationDate = 1 :=
    List.mem_map.mp (hdates₂ ▸ List.mem_cons_of_mem 0 (List.mem_singleton_self 1))
  obtain ⟨r', hr', hkey, -⟩ := hprepared₂.isRepeated hr
  rw [hcontract₂] at hholds₂
  obtain rfl := hframe.invariant.holds.unique hholds₂
  have hmem : (1 : Date) ∈ prepared₂.merged.rows.map (·.observationDate) :=
    List.mem_map.mpr ⟨r', hr', (BronzeRow.date_eq_of_key_eq hkey).trans hdate⟩
  refine ⟨uow, s₂, _, hruns, hframe, List.max?_eq_some_iff.mpr ⟨hmem, fun d hd => ?_⟩⟩
  obtain ⟨old, hold, rfl⟩ := List.mem_map.mp hd
  obtain ⟨day, hday, hle⟩ := hframe.invariant.exists_notWedged_iff.mp ⟨_, hframe⟩ old hold
  exact Option.some.inj hday ▸ hle

/-- **One row from the future blocks every plan** of the day of the bootstrap that has
stored it, also the one of a reconcile. -/
theorem cboe_wedged : ∃ (uow : BronzeUnitOfWork) (result : SeriesRunResult) (s : BronzeLake)
    (bounds : ObservationBounds), (bootstrapCall futureProvider.fetch).run
        (seriesOrchestrator .vix uow) Series.vix.contract .empty = (.returned result, s, [])
      ∧ DatedRuns (seriesOrchestrator .vix uow) Series.vix.contract (fun _ _ => True) (some 0) s
      ∧ observationBounds uow.frameFormat.decode (·.observationDate)
        (bronzeMonthPath uow.root Series.vix.contract.key) (s.months Series.vix.contract.key)
        = .ok bounds
      ∧ bounds.maximum = some 1
      ∧ ∀ reconcile, buildPlan Series.vix.contract bounds 0 reconcile {} = .error wedgedError := by
  obtain ⟨uow⟩ := BronzeUnitOfWork.nonempty
  obtain ⟨answer, hanswer, hschema, hdates⟩ : ∃ answer,
      futureProvider.fetch Series.vix.contract bootstrapRequest = .ok answer
        ∧ answer.schema = bronzeSchema .ohlc ∧ answer.rows.map (·.observationDate) = [1] :=
    ⟨_, rfl, rfl, rfl⟩
  have hrow : ∀ r ∈ answer.rows, r.observationDate = 1 := by
    intro r hr
    exact List.mem_singleton.mp (hdates ▸ List.mem_map_of_mem hr)
  have hnodup : (answer.rows.map BronzeRow.key).Nodup := by
    have hnodup : (answer.rows.map (·.observationDate)).Nodup := hdates ▸ List.nodup_singleton 1
    exact List.pairwise_map.mpr ((List.pairwise_map.mp hnodup).imp
      (fun hne hkey => hne (BronzeRow.date_eq_of_key_eq hkey)))
  obtain ⟨result, s, hrun, run, record, prepared, next, hcontract, hcommitted⟩ :=
    succeeds_bootstrapCall .vix uow futureProvider.fetch hanswer hschema hnodup
      (fun r hr => hrow r hr ▸ (by decide))
  have hanswers : (bootstrapCall futureProvider.fetch).AnswersInSchema Series.vix.contract := by
    rintro adapter request incoming hadapter hincoming
    obtain rfl := Option.some.inj hadapter
    exact futureProvider.fetch_schema hincoming
  obtain ⟨hinvariant, hprepared⟩ := (storeInvariant_empty (seriesOrchestrator .vix uow)
    run.contract).committed hcommitted (by rw [hcontract]; exact hschema)
  rw [hcontract] at hinvariant
  have hmax : latestDate prepared.merged = some 1 := by
    rw [hprepared.latestDate_first, latestDate, hdates]
    rfl
  refine ⟨uow, result, s, _, hrun, .run .start hanswers trivial (by simp) hrun,
    hinvariant.holds.observationBounds_eq _, hmax, fun reconcile => ?_⟩
  exact buildPlan_eq_wedgedError_iff.mpr ⟨1, hmax, by decide⟩
