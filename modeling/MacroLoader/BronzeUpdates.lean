import MacroLoader.BronzeDates

/-!
# Updates

An update asks its provider for a window, from an overlap before the last stored date to
today, and for nothing else (`BronzeOrchestrator.runSeries_congr`). The window is computed
by the planner; the merge and the writer of the months do not know of it. What keeps them
inside is the check of the orchestrator, which refuses an answer with a row outside, and
the merge itself, which changes the rows that are news only. So the rows outside of the
window stay, and so does every month without news (`update_isDelta`).
-/

open Program

/-- The first day of the window of an update. -/
def BronzeOrchestrator.windowStart (orchestrator : BronzeOrchestrator) (latest : Date) : Date :=
  latest - orchestrator.config.overlapDays

/-- The window does not begin after the last stored date. -/
theorem BronzeOrchestrator.windowStart_le (orchestrator : BronzeOrchestrator) (latest : Date) :
    orchestrator.windowStart latest ≤ latest :=
  sub_le_self latest orchestrator.config.nonneg

/-- **The request of an update.** -/
def windowRequest (orchestrator : BronzeOrchestrator) {latest today : Date} (h : latest ≤ today) :
    ProviderRequest where
  operation := .update
  logicalStart := some (orchestrator.windowStart latest)
  logicalEnd := today
  maximumHistory := false
  ordered start hstart := by
    obtain rfl := Option.some.inj hstart
    exact (orchestrator.windowStart_le latest).trans h
  bounded _ := rfl
  maximum := maximumHistory_of_ne_update

section Requests

variable {orchestrator : BronzeOrchestrator} {contract : SeriesContract} {inputs : RunInputs}
  {seriesId : String} {latest today : Date} {lake : BronzeLake} {frame : BronzeFrame}
  {run : PlannedRun}

/-- The request of the plan of an update. -/
theorem providerRequest_updatePlan (h : latest ≤ today) (capability : FetchCapability) :
    providerRequest (updatePlan capability (orchestrator.windowStart latest) today)
      = .ok (windowRequest orchestrator h) := by
  have hordered : ∀ start ∈ (updatePlan capability (orchestrator.windowStart latest)
      today).logicalStart, start ≤ (updatePlan capability (orchestrator.windowStart latest)
      today).requestEnd := (windowRequest orchestrator h).ordered
  have hbounded : (updatePlan capability (orchestrator.windowStart latest) today).mode = .update →
      (updatePlan capability (orchestrator.windowStart latest) today).logicalStart.isSome = true :=
    fun _ => rfl
  have hmaximum : (updatePlan capability (orchestrator.windowStart latest) today).mode ≠ .update →
      (updatePlan capability (orchestrator.windowStart latest) today).maximumHistory = true :=
    fun hne => absurd rfl hne
  unfold providerRequest
  rw [dif_pos hordered, dif_pos hbounded, dif_pos hmaximum]
  rfl

/-- **An update of a series with rows is planned over the window.** -/
theorem IsPlanned.plan_eq_updatePlan
    (h : IsPlanned orchestrator inputs seriesId .update today lake run)
    (hholds : BronzeHolds orchestrator.uow run.contract lake frame)
    (hlatest : latestDate frame = some latest) :
    latest ≤ today
      ∧ run.plan = updatePlan run.contract.fetchCapability (orchestrator.windowStart latest) today := by
  obtain ⟨-, hplan⟩ := h.buildPlan_eq hholds
  rcases buildPlan_cases hplan with ⟨hmax, -, -⟩ | ⟨_, -, -, hmode, -⟩
    | ⟨latest', hmax, htoday, -, -, heq⟩
  · exact absurd (hlatest.symm.trans hmax) nofun
  · exact absurd hmode nofun
  · obtain rfl : latest = latest' := Option.some.inj (hlatest.symm.trans hmax)
    exact ⟨htoday, heq⟩

/-- A reconcile of a series with rows asks for everything. -/
theorem IsPlanned.plan_eq_maximumPlan
    (h : IsPlanned orchestrator inputs seriesId .reconcile today lake run)
    (hholds : BronzeHolds orchestrator.uow run.contract lake frame)
    (hlatest : latestDate frame = some latest) :
    latest ≤ today ∧ run.plan = maximumPlan .reconcile today := by
  obtain ⟨-, hplan⟩ := h.buildPlan_eq hholds
  rcases buildPlan_cases hplan with ⟨hmax, -, -⟩ | ⟨latest', hmax, htoday, -, heq⟩
    | ⟨_, -, -, hmode, -, -⟩
  · exact absurd (hlatest.symm.trans hmax) nofun
  · obtain rfl : latest = latest' := Option.some.inj (hlatest.symm.trans hmax)
    exact ⟨htoday, heq⟩
  · exact absurd hmode nofun

/-- The plans can be made where the window begins at a date. -/
theorem buildPlan_isOk {config : PlannerConfig} {first : Option Date} (htoday : latest ≤ today)
    (hmin : dateMin ≤ latest - config.overlapDays) (hmax : latest ≤ dateMax) :
    buildPlan contract ⟨first, some latest⟩ today false config
        = .ok (updatePlan contract.fetchCapability (latest - config.overlapDays) today)
      ∧ buildPlan contract ⟨first, some latest⟩ today true config
        = .ok (maximumPlan .reconcile today) := by
  have hdays : ¬ (999999999 : ℤ) < config.overlapDays := by
    have hsmall : dateMax - dateMin ≤ 999999999 := by decide
    linarith only [hmin, hmax, hsmall]
  have hstart : subtractDays latest config.overlapDays = .ok (latest - config.overlapDays) := by
    rw [subtractDays, if_neg hdays, if_neg (not_lt.mpr hmin)]
  constructor
  · exact bind_eq_ok.mpr ⟨.update, rfl, bind_eq_ok.mpr ⟨(), check_eq_ok.mpr htoday,
      bind_eq_ok.mpr ⟨_, hstart, rfl⟩⟩⟩
  · exact bind_eq_ok.mpr ⟨.reconcile, rfl, bind_eq_ok.mpr ⟨(), check_eq_ok.mpr htoday, rfl⟩⟩

/-- A run that has the plan of an update asks for the window. -/
theorem fetchRun_of_updatePlan (h : latest ≤ today)
    (hplan : run.plan
      = updatePlan run.contract.fetchCapability (orchestrator.windowStart latest) today) :
    fetchRun run = run.provider run.contract (windowRequest orchestrator h) := by
  unfold fetchRun
  rw [hplan, providerRequest_updatePlan h]
  rfl

end Requests

/-! ## What a run asks for -/

/-- Sequences agree where what follows agrees. -/
theorem Program.run_bind_congr {σ ε α β : Type} {m : Program σ ε α} {k k' : α → Program σ ε β}
    {s : σ} (h : wp m ⟨fun a s' => k a s' = k' a s', fun _ _ => True, fun _ => True⟩ s) :
    (m >>= k) s = (m >>= k') s := by
  funext faults
  have hm := h faults
  rcases hend : m s faults with ⟨a | e | _, s', faults'⟩
  · rw [hend] at hm
    rw [run_bind_of_returned hend, run_bind_of_returned hend]
    exact congrFun hm faults'
  · rw [run_bind_of_raised hend, run_bind_of_raised hend]
  · rw [run_bind_of_crashed hend, run_bind_of_crashed hend]

section Congr

variable {orchestrator : BronzeOrchestrator} {contract : SeriesContract} {inputs : RunInputs}
  {providers : Provider → Option MarketDataProvider} {adapter adapter' : MarketDataProvider}
  {latest today : Date} {lake : BronzeLake} {frame : BronzeFrame} {started : Timestamp}
  {plan : FetchInstruction}

/-- A planned run depends on its adapter through the answer to its request. -/
theorem runPlanned_congr
    (h : fetchRun ⟨inputs, contract, adapter, plan, started⟩
      = fetchRun ⟨{ inputs with providers := providers }, contract, adapter', plan, started⟩) :
    orchestrator.runPlanned ⟨inputs, contract, adapter, plan, started⟩
      = orchestrator.runPlanned
        ⟨{ inputs with providers := providers }, contract, adapter', plan, started⟩ := by
  unfold BronzeOrchestrator.runPlanned
  rw [h]
  rfl

/-- **An update asks for the window and for nothing else**: adapters with the same answer
to the request of the window have the same run. -/
theorem BronzeOrchestrator.runSeries_congr
    (hregistered : orchestrator.seriesRegistry contract.seriesId = some contract)
    (hadapter : inputs.providers contract.provider = some adapter)
    (hadapter' : providers contract.provider = some adapter')
    (hholds : BronzeHolds orchestrator.uow contract lake frame)
    (hlatest : latestDate frame = some latest) (htoday : latest ≤ today)
    (hsame : adapter contract (windowRequest orchestrator htoday)
      = adapter' contract (windowRequest orchestrator htoday)) :
    orchestrator.runSeries inputs contract.seriesId .update today lake
      = orchestrator.runSeries { inputs with providers := providers } contract.seriesId .update
        today lake := by
  have hresolve : orchestrator.resolveSeries contract.seriesId = .ok contract := by
    rw [BronzeOrchestrator.resolveSeries, hregistered]
  have hprovider : BronzeOrchestrator.resolveProvider inputs contract.provider = .ok adapter := by
    rw [BronzeOrchestrator.resolveProvider, hadapter]
  have hprovider' : BronzeOrchestrator.resolveProvider { inputs with providers := providers }
      contract.provider = .ok adapter' := by
    have hfound : ({ inputs with providers := providers } : RunInputs).providers contract.provider
        = some adapter' := hadapter'
    rw [BronzeOrchestrator.resolveProvider, hfound]
  unfold BronzeOrchestrator.runSeries BronzeOrchestrator.planRun
  simp only [run_bind_assoc]
  refine run_bind_congr (wp_ofExcept (fun contract' h => ?_) (fun _ _ => trivial))
  obtain rfl := Except.ok.inj (hresolve.symm.trans h)
  dsimp only
  rw [hprovider, hprovider']
  show (orchestrator.uow.bounds contract >>= _) lake = (orchestrator.uow.bounds contract >>= _) lake
  refine run_bind_congr (wp_query (fun bounds hbounds => ?_) (fun _ => trivial) trivial)
  refine run_bind_congr (wp_require (fun _ => ?_) (fun _ => trivial))
  refine run_bind_congr (wp_ofExcept (fun plan hplan => ?_) (fun _ _ => trivial))
  refine run_bind_congr (wp_require (fun _ => ?_) (fun _ => trivial))
  refine run_bind_congr (wp_require (fun _ => ?_) (fun _ => trivial))
  refine run_bind_congr (wp_ofExcept (fun started hstarted => ?_) (fun _ _ => trivial))
  have hrun : IsPlanned orchestrator inputs contract.seriesId .update today lake
      ⟨inputs, contract, adapter, plan, started⟩ :=
    ⟨rfl, hregistered, hadapter, ⟨bounds, hbounds, by simp, hplan⟩, hstarted⟩
  have hwindow := (hrun.plan_eq_updatePlan hholds hlatest).2
  have hfetch : ∀ run : PlannedRun, run.contract = contract → run.plan = plan →
      fetchRun run = run.provider contract (windowRequest orchestrator htoday) := by
    rintro run rfl rfl
    exact fetchRun_of_updatePlan htoday hwindow
  refine congrFun (runPlanned_congr ?_) lake
  rw [hfetch _ rfl rfl, hfetch _ rfl rfl]
  exact hsame

end Congr

/-! ## What an update leaves -/

/-- **What an update has changed**: rows of its window, and months with news. -/
structure IsDelta (orchestrator : BronzeOrchestrator) (contract : SeriesContract)
    (adapter : MarketDataProvider) (request : ProviderRequest) (frame : BronzeFrame)
    (lake s : BronzeLake) (result : SeriesRunResult) : Prop where
  asked : result.requestStart = request.logicalStart ∧ result.requestEnd = request.logicalEnd
    ∧ result.mode = .update ∧ result.maximumHistory = false
  merge : ∃ answer merged, adapter contract request = .ok answer
    ∧ BronzeHolds orchestrator.uow contract s merged ∧ MergesNews frame answer merged
    ∧ KeepsOtherMonths contract frame answer lake s
    ∧ ∀ start ∈ request.logicalStart, ∀ r, inWindow start request.logicalEnd r = false →
      (r ∈ merged.rows ↔ r ∈ frame.rows)

/-- The rows and the states are as they were. -/
def Unchanged (lake s : BronzeLake) : Prop := s.months = lake.months ∧ s.states = lake.states

section Delta

variable {orchestrator : BronzeOrchestrator} {contract : SeriesContract} {inputs : RunInputs}
  {adapter : MarketDataProvider} {latest today : Date} {lake s : BronzeLake} {frame : BronzeFrame}
  {run : PlannedRun} {accepted : BronzeFrame} {prepared : PreparedBronze}
  {record : IngestionRunRecord} {next : IngestionState}

/-- What an update accepts is the answer to its request, and in the window. -/
theorem HasCommitted.answer_inWindow (htoday : latest ≤ today)
    (hplan : run.plan
      = updatePlan run.contract.fetchCapability (orchestrator.windowStart latest) today)
    (h : HasCommitted orchestrator run lake s accepted prepared record next) :
    run.provider run.contract (windowRequest orchestrator htoday) = .ok accepted
      ∧ ∀ r ∈ accepted.rows, inWindow (orchestrator.windowStart latest) today r = true := by
  obtain ⟨incoming, hfetch, hwindow, -⟩ := h.fetched
  rw [fetchRun_of_updatePlan htoday hplan] at hfetch
  obtain ⟨rfl, hchecked⟩ := enforceWindow_eq_ok hwindow
  rw [hplan] at hchecked
  exact ⟨hfetch, fun r hr => decide_eq_true (hchecked rfl r hr _ rfl)⟩

/-- A merge changes no row outside a window in which all incoming rows are. -/
theorem MergesNews.mem_outside {incoming merged : BronzeFrame} {start end_ : Date}
    (h : MergesNews frame incoming merged)
    (hin : ∀ r ∈ incoming.rows, inWindow start end_ r = true) {r : BronzeRow}
    (hr : inWindow start end_ r = false) : r ∈ merged.rows ↔ r ∈ frame.rows := by
  have hwindow : ∀ new, IsNews frame incoming new → new.key ≠ r.key := by
    intro new hnew hkey
    have hdate := hin new hnew.1
    unfold inWindow at hdate hr
    rw [BronzeRow.date_eq_of_key_eq hkey, hr] at hdate
    cases hdate
  rw [h.mem]
  constructor
  · rintro (hnews | ⟨hold, -⟩)
    · exact absurd rfl (hwindow r hnews)
    · exact hold
  · exact fun hold => .inr ⟨hold, hwindow⟩

theorem LeavesFailed.unchanged (h : LeavesFailed orchestrator run lake s) : Unchanged lake s := by
  rcases h with rfl | ⟨_, _, _, _, record, -, hwritten⟩
  · exact ⟨rfl, rfl⟩
  · exact ⟨hwritten.months_eq, hwritten.states_eq⟩

/-- **An answer with a row outside the window is refused**, before anything is merged. -/
theorem wp_runPlanned_refused {answer : BronzeFrame} {r : BronzeRow} (htoday : latest ≤ today)
    (hplan : run.plan
      = updatePlan run.contract.fetchCapability (orchestrator.windowStart latest) today)
    (hanswer : run.provider run.contract (windowRequest orchestrator htoday) = .ok answer)
    (hr : r ∈ answer.rows) (hout : inWindow (orchestrator.windowStart latest) today r = false) :
    wp (orchestrator.runPlanned run)
      ⟨fun _ _ => False, fun _ s => Unchanged lake s, fun s => Unchanged lake s⟩ lake := by
  unfold BronzeOrchestrator.runPlanned
  refine wp_bind (wp_orFail (wp_ofExcept (fun incoming hfetch => ?_) (fun _ _ => rfl))
    (fun _ _ h => h.unchanged) (fun _ h => h.unchanged))
  rw [fetchRun_of_updatePlan htoday hplan, hanswer] at hfetch
  obtain rfl := Except.ok.inj hfetch
  refine wp_bind (wp_orFail (wp_ofExcept (fun accepted haccepted => ?_) (fun _ _ => rfl))
    (fun _ _ h => h.unchanged) (fun _ h => h.unchanged))
  obtain ⟨-, hchecked⟩ := enforceWindow_eq_ok haccepted
  rw [hplan] at hchecked
  exact absurd (hchecked rfl r hr _ rfl) (of_decide_eq_false hout)

/-- A committed update is a delta. -/
theorem HasCommitted.isDelta (htoday : latest ≤ today)
    (hplan : run.plan
      = updatePlan run.contract.fetchCapability (orchestrator.windowStart latest) today)
    (hholds : BronzeHolds orchestrator.uow run.contract lake frame) (hrows : frame.rows ≠ [])
    (h : HasCommitted orchestrator run lake s accepted prepared record next) :
    IsDelta orchestrator run.contract run.provider (windowRequest orchestrator htoday) frame lake s
      (runResult run prepared) := by
  obtain ⟨hanswer, hin⟩ := h.answer_inWindow htoday hplan
  obtain ⟨hmerged, hprepared⟩ := h.holds hholds (.inl hrows)
  obtain ⟨months, hmonths, hcommits⟩ := h.commits
  refine ⟨?_, accepted, prepared.merged, hanswer, hmerged, hprepared.mergesNews,
    hcommits.toWritesMonths.agreesOutside.keepsOtherMonths hprepared hmonths, ?_⟩
  · unfold runResult
    rw [hplan]
    exact ⟨rfl, rfl, rfl, rfl⟩
  · intro start hstart r hr
    obtain rfl := Option.some.inj hstart
    exact hprepared.mergesNews.mem_outside hin hr

/-- **Updates are deltas.** However the effects of an update go, if it returns then it has
changed rows of its window and months with news only, and if it raises then it has
changed neither rows nor states. An answer with a row outside the window makes it fail,
and its run depends on the answer to the request of the window only. -/
theorem update_isDelta
    (hregistered : orchestrator.seriesRegistry contract.seriesId = some contract)
    (hadapter : inputs.providers contract.provider = some adapter)
    (hholds : BronzeHolds orchestrator.uow contract lake frame)
    (hlatest : latestDate frame = some latest) (htoday : latest ≤ today) :
    wp (orchestrator.runSeries inputs contract.seriesId .update today)
        ⟨fun result s => IsDelta orchestrator contract adapter
            (windowRequest orchestrator htoday) frame lake s result,
          fun _ s => Unchanged lake s, fun _ => True⟩ lake
      ∧ (∀ answer r, adapter contract (windowRequest orchestrator htoday) = .ok answer →
        r ∈ answer.rows → inWindow (orchestrator.windowStart latest) today r = false →
        wp (orchestrator.runSeries inputs contract.seriesId .update today)
          ⟨fun _ _ => False, fun _ s => Unchanged lake s, fun s => Unchanged lake s⟩ lake)
      ∧ ∀ providers adapter', providers contract.provider = some adapter' →
        adapter contract (windowRequest orchestrator htoday)
          = adapter' contract (windowRequest orchestrator htoday) →
        orchestrator.runSeries inputs contract.seriesId .update today lake
          = orchestrator.runSeries { inputs with providers := providers } contract.seriesId .update
            today lake := by
  have hrows : frame.rows ≠ [] := fun hnil => by
    unfold latestDate at hlatest
    rw [hnil] at hlatest
    cases hlatest
  -- what a planned update is about
  have hplanned : ∀ run, IsPlanned orchestrator inputs contract.seriesId .update today lake run →
      run.contract = contract ∧ run.provider = adapter ∧ run.plan
        = updatePlan run.contract.fetchCapability (orchestrator.windowStart latest) today := by
    intro run hrun
    obtain rfl := hrun.contract_eq hregistered
    exact ⟨rfl, Option.some.inj (hrun.provider.symm.trans hadapter),
      (hrun.plan_eq_updatePlan hholds hlatest).2⟩
  refine ⟨wp_mono (wp_runSeries orchestrator inputs contract.seriesId .update today lake)
    (fun result s hs => ?_) (fun _ s hs => ?_) (fun _ _ => trivial), fun answer r hanswer hr hout => ?_,
    fun providers adapter' hadapter' hsame =>
      BronzeOrchestrator.runSeries_congr hregistered hadapter hadapter' hholds hlatest htoday hsame⟩
  · obtain ⟨run, hrun, accepted, prepared, record, next, hcommitted, rfl⟩ := hs
    obtain ⟨rfl, rfl, hplan⟩ := hplanned run hrun
    exact hcommitted.isDelta htoday hplan hholds hrows
  · rcases hs with rfl | ⟨run, -, hfailed⟩
    · exact ⟨rfl, rfl⟩
    · exact LeavesFailed.unchanged (.inr hfailed)
  · unfold BronzeOrchestrator.runSeries
    refine wp_bind (wp_mono (wp_planRun orchestrator inputs contract.seriesId .update today lake)
      (fun run s hs => ?_) (fun _ s hs => hs ▸ ⟨rfl, rfl⟩) (fun s hs => hs ▸ ⟨rfl, rfl⟩))
    obtain ⟨rfl, hrun⟩ := hs
    obtain ⟨rfl, rfl, hplan⟩ := hplanned run hrun
    exact wp_runPlanned_refused htoday hplan hanswer hr hout

end Delta

/-- Rows of the series on some days. -/
abbrev estrDays (days : List Date) : BronzeFrame := dayFrame Series.estr.contract days

/-- An update on the second day of the epoch, a hundred days after a row that it leaves alone. -/
theorem update_isDelta_estr : ∃ (uow : BronzeUnitOfWork) (lake s : BronzeLake)
    (frame : BronzeFrame) (request : ProviderRequest) (result : SeriesRunResult),
    BronzeHolds uow Series.estr.contract lake frame
      ∧ (∃ old ∈ frame.rows, inWindow (-7) 1 old = false)
      ∧ (seriesOrchestrator .estr uow).runSeries
          (updateCall (fun _ _ => .ok (estrDays [0, 1]))).inputs "estr" .update 1 lake []
        = (.returned result, s, [])
      ∧ IsDelta (seriesOrchestrator .estr uow) Series.estr.contract
        (fun _ _ => .ok (estrDays [0, 1])) request frame lake s result := by
  obtain ⟨uow⟩ := BronzeUnitOfWork.nonempty
  have hdates : ∀ r ∈ (estrDays [-100, 0]).rows ++ (estrDays [0, 1]).rows,
      dateMin ≤ r.observationDate ∧ r.observationDate ≤ dateMax := by
    simp only [dayFrame, List.map_cons, List.map_nil, List.cons_append, List.nil_append,
      List.forall_mem_cons, List.not_mem_nil, IsEmpty.forall_iff, implies_true, and_true]
    decide
  -- the bootstrap
  obtain ⟨_, lake, -, run, record, prepared, next, hcontract, hcommitted⟩ :=
    succeeds_bootstrapCall .estr uow (fun _ _ => .ok (estrDays [-100, 0])) rfl rfl (by decide)
      (fun r hr => hdates r (List.mem_append_left _ hr))
  obtain ⟨hinvariant, hprepared⟩ := (storeInvariant_empty (seriesOrchestrator .estr uow)
    run.contract).committed hcommitted (by rw [hcontract]; rfl)
  rw [hcontract] at hinvariant
  have hlatest : latestDate prepared.merged = some 0 := by
    rw [hprepared.latestDate_first]
    decide
  -- the update
  obtain ⟨⟨records, hrecords, hrunIds⟩, states, hstates, hkeys⟩ := hcommitted.readable
  obtain ⟨result, s, hrun, -⟩ :=
    @succeeds_runSeries (seriesOrchestrator .estr uow)
      (updateCall (fun _ _ => .ok (estrDays [0, 1]))).inputs "estr" .update 1 lake
      Series.estr.contract _ prepared.merged (estrDays [0, 1]) (updatePlan .dateRange (-7) 1)
      updateRequest 0 0 records states rfl rfl hinvariant.holds OperationMode.noConfusion
      (by rw [hlatest]; rfl) rfl rfl le_rfl (by decide) rfl rfl rfl rfl (by decide)
      (fun r hr => hdates r (List.mem_append_right _ hr)) hrecords hrunIds hstates hkeys
  obtain ⟨hdelta, -, -⟩ := @update_isDelta (seriesOrchestrator .estr uow) Series.estr.contract
    (updateCall (fun _ _ => .ok (estrDays [0, 1]))).inputs _ 0 1 lake prepared.merged rfl rfl
    hinvariant.holds hlatest (by decide)
  have hend := hdelta []
  rw [show (seriesOrchestrator .estr uow).runSeries _ Series.estr.contract.seriesId .update 1 lake []
    = _ from hrun] at hend
  refine ⟨uow, lake, s, _, _, result, hinvariant.holds, ?_, hrun, hend⟩
  exact ⟨dayRow Series.estr.contract (-100),
    hprepared.mem_merged_first.mpr List.mem_cons_self, rfl⟩

/-! ## Updates from whole files -/

/-- The part of a file that is in a window. -/
def windowPart (start end_ : Date) (file : BronzeFrame) : BronzeFrame :=
  ⟨file.schema, file.rows.filter (inWindow start end_)⟩

/-- A frame is the upsert of another one, key by key: a row with the meaning of the stored
one of its key leaves that as it is. -/
structure IsUpsert (frame incoming merged : BronzeFrame) : Prop where
  schema : merged.schema = frame.schema
  sorted : KeyedRows.Sorted BronzeRow.key merged.rows
  table : KeyedRows.table BronzeRow.key merged.rows
    = (KeyedRows.table BronzeRow.key frame.rows).upsert BronzeRow.sameMeaning
      (KeyedRows.table BronzeRow.key incoming.rows)

/-- Nothing but its effects can keep a run from ending well: the clock is aware and does not
run backwards, the run has an id, and the shared files can be read. -/
structure Undisturbed (orchestrator : BronzeOrchestrator) (inputs : RunInputs)
    (lake : BronzeLake) : Prop where
  clock : ∃ started completed, inputs.started = .utc started ∧ inputs.completed = .utc completed
    ∧ started ≤ completed
  runId : isBlank inputs.runId = false
  runs : ∃ records, readRuns orchestrator.uow.runFormat lake.runs = .ok records
    ∧ (records.map (·.runId)).Nodup
  states : ∃ states, readStates orchestrator.uow.stateFormat lake.states = .ok states
    ∧ (states.map IngestionState.key).Nodup

/-- **Where the runs of a mode lead to**: to a frame whenever they return, and they return
unless something disturbs them. -/
structure LeadsTo (orchestrator : BronzeOrchestrator) (contract : SeriesContract)
    (adapter : MarketDataProvider) (operation : OperationMode) (latest today : Date)
    (lake : BronzeLake) (merged : BronzeFrame) : Prop where
  returns : ∀ inputs : RunInputs, inputs.providers contract.provider = some adapter →
    wp (orchestrator.runSeries inputs contract.seriesId operation today)
      ⟨fun _ s => latest ≤ today ∧ BronzeHolds orchestrator.uow contract s merged,
        fun _ s => Unchanged lake s, fun _ => True⟩ lake
  succeeds : ∀ inputs : RunInputs, inputs.providers contract.provider = some adapter →
    Undisturbed orchestrator inputs lake → latest ≤ today →
    Succeeds (orchestrator.runSeries inputs contract.seriesId operation today) lake
      (fun _ s => BronzeHolds orchestrator.uow contract s merged)

section WholeFiles

variable {orchestrator : BronzeOrchestrator} {contract : SeriesContract} {inputs : RunInputs}
  {adapter : FullFileAdapter} {latest today start end_ : Date} {lake s : BronzeLake}
  {frame file incoming merged merged' : BronzeFrame}

theorem mem_windowPart {r : BronzeRow} :
    r ∈ (windowPart start end_ file).rows ↔ r ∈ file.rows ∧ inWindow start end_ r = true :=
  List.mem_filter

/-- There is news in what is in the window only, if what is outside is repeated. -/
theorem isNews_windowPart (h : ∀ r ∈ file.rows, inWindow start end_ r = false → IsRepeated frame r)
    {r : BronzeRow} : IsNews frame (windowPart start end_ file) r ↔ IsNews frame file r := by
  unfold IsNews
  rw [mem_windowPart]
  refine ⟨fun hr => ⟨hr.1.1, hr.2⟩, fun hr => ⟨⟨hr.1, ?_⟩, hr.2⟩⟩
  by_contra hout
  exact hr.2 (h r hr.1 (Bool.eq_false_iff.mpr hout))

/-- A merge is determined by its news. -/
theorem MergesNews.unique {incoming' : BronzeFrame} (h : MergesNews frame incoming merged)
    (h' : MergesNews frame incoming' merged')
    (hnews : ∀ r, IsNews frame incoming r ↔ IsNews frame incoming' r)
    (hsorted : KeyedRows.Sorted BronzeRow.key merged.rows)
    (hsorted' : KeyedRows.Sorted BronzeRow.key merged'.rows)
    (hschema : merged.schema = merged'.schema) : merged = merged' := by
  have hmem : ∀ r, r ∈ merged.rows ↔ r ∈ merged'.rows := by
    intro r
    rw [h.mem, h'.mem]
    simp only [hnews]
  have hrows : merged.rows = merged'.rows := KeyedRows.eq_of_table_eq hsorted hsorted'
    (KeyedRows.table_congr hsorted.nodup hsorted'.nodup hmem)
  calc merged = ⟨merged.schema, merged.rows⟩ := rfl
    _ = ⟨merged'.schema, merged'.rows⟩ := by rw [hschema, hrows]
    _ = merged' := rfl

/-- **The request of an update is answered with the part of the file in its window.** -/
theorem FullFileAdapter.fetch_windowRequest (hfile : adapter.parse contract = .ok file)
    (htoday : latest ≤ today) :
    ∃ answer, adapter.fetch contract (windowRequest orchestrator htoday) = .ok answer := by
  unfold FullFileAdapter.fetch FullFileAdapter.select FullFileAdapter.restrict
  rw [hfile]
  exact ⟨_, rfl⟩

/-- A request of the maximum history is answered with the file. -/
theorem FullFileAdapter.fetch_maximum (hfile : adapter.parse contract = .ok file)
    {request : ProviderRequest} (hrequest : request.operation ≠ .update) :
    ∃ answer, adapter.fetch contract request = .ok answer := by
  unfold FullFileAdapter.fetch FullFileAdapter.select
  rw [hfile]
  simp only [if_neg hrequest]
  exact ⟨_, rfl⟩

/-- A run whose answer has the news of some rows leaves their merge. -/
theorem HasCommitted.holds_merged {run : PlannedRun} {accepted : BronzeFrame}
    {prepared : PreparedBronze} {record : IngestionRunRecord} {next : IngestionState}
    (hholds : BronzeHolds orchestrator.uow run.contract lake frame) (hrows : frame.rows ≠ [])
    (hmerged : IsUpsert frame incoming merged) (hmergesNews : MergesNews frame incoming merged)
    (h : HasCommitted orchestrator run lake s accepted prepared record next)
    (hnews : ∀ answer, fetchRun run = .ok answer → ∀ r, IsNews frame answer r
      ↔ IsNews frame incoming r) :
    BronzeHolds orchestrator.uow run.contract s merged := by
  obtain ⟨answer, hfetch, hwindow, -⟩ := h.fetched
  obtain ⟨hend, hprepared⟩ := h.holds hholds (.inl hrows)
  rw [(enforceWindow_eq_ok hwindow).1] at hprepared
  rw [hmergesNews.unique hprepared.mergesNews (fun r => (hnews answer hfetch r).symm) hmerged.sorted
    hprepared.sorted (hmerged.schema.trans hprepared.schema.symm)]
  exact hend

/-- What is known of the runs of a mode on a store: their plan, and the answer to its
request, with the news in it. -/
structure AnswersNews (orchestrator : BronzeOrchestrator) (contract : SeriesContract)
    (adapter : FullFileAdapter) (operation : OperationMode) (latest today : Date)
    (lake : BronzeLake) (frame incoming : BronzeFrame) (plan : FetchInstruction) : Prop where
  planned : ∀ inputs run, IsPlanned orchestrator inputs contract.seriesId operation today lake run →
    run.contract = contract → latest ≤ today ∧ run.plan = plan
  build : latest ≤ today → buildPlan contract
    ⟨(frame.rows.map (·.observationDate)).min?, some latest⟩ today
    (decide (operation = .reconcile)) orchestrator.config = .ok plan
  answer : latest ≤ today → ∃ request answer, providerRequest plan = .ok request
    ∧ adapter.fetch contract request = .ok answer ∧ enforceWindow answer plan = .ok answer
    ∧ (∀ r, IsNews frame answer r ↔ IsNews frame incoming r)
    ∧ ∀ r ∈ answer.rows, dateMin ≤ r.observationDate ∧ r.observationDate ≤ dateMax

theorem AnswersNews.leadsTo {operation : OperationMode} {plan : FetchInstruction}
    (hregistered : orchestrator.seriesRegistry contract.seriesId = some contract)
    (hholds : BronzeHolds orchestrator.uow contract lake frame)
    (hlatest : latestDate frame = some latest) (hoperation : operation ≠ .bootstrap)
    (hmerged : IsUpsert frame incoming merged) (hmergesNews : MergesNews frame incoming merged)
    (h : AnswersNews orchestrator contract adapter operation latest today lake frame incoming plan) :
    LeadsTo orchestrator contract adapter.fetch operation latest today lake merged := by
  have hrows : frame.rows ≠ [] := fun hnil => by
    unfold latestDate at hlatest
    rw [hnil] at hlatest
    cases hlatest
  have hend : ∀ inputs run s accepted prepared record next,
      inputs.providers contract.provider = some adapter.fetch →
      IsPlanned orchestrator inputs contract.seriesId operation today lake run →
      HasCommitted orchestrator run lake s accepted prepared record next →
      latest ≤ today ∧ BronzeHolds orchestrator.uow contract s merged := by
    intro inputs run s accepted prepared record next hadapter hrun hcommitted
    obtain rfl := hrun.contract_eq hregistered
    obtain ⟨htoday, hplan⟩ := h.planned inputs run hrun rfl
    refine ⟨htoday, hcommitted.holds_merged hholds hrows hmerged hmergesNews (fun answer hfetch => ?_)⟩
    obtain ⟨request, answer', hrequest, hanswer, -, hnews, -⟩ := h.answer htoday
    unfold fetchRun at hfetch
    rw [hplan, hrequest, Option.some.inj (hrun.provider.symm.trans hadapter)] at hfetch
    obtain rfl := Except.ok.inj (hfetch.symm.trans hanswer)
    exact hnews
  constructor
  · intro inputs hadapter
    refine wp_mono (wp_runSeries orchestrator inputs contract.seriesId operation today lake)
      (fun result s hs => ?_) (fun _ s hs => ?_) (fun _ _ => trivial)
    · obtain ⟨run, hrun, accepted, prepared, record, next, hcommitted, -⟩ := hs
      exact hend inputs run s accepted prepared record next hadapter hrun hcommitted
    · rcases hs with rfl | ⟨run, -, hfailed⟩
      · exact ⟨rfl, rfl⟩
      · exact LeavesFailed.unchanged (.inr hfailed)
  · intro inputs hadapter hinputs htoday
    obtain ⟨started, completed, hstarted, hcompleted, hclock⟩ := hinputs.clock
    obtain ⟨records, hruns, hrunIds⟩ := hinputs.runs
    obtain ⟨states, hstates, hstateKeys⟩ := hinputs.states
    obtain ⟨request, answer, hrequest, hanswer, hwindow, -, hdates⟩ := h.answer htoday
    obtain ⟨file, hfile, hschema, hnodup, -⟩ := FullFileAdapter.fetch_eq_ok hanswer
    refine (succeeds_runSeries hregistered hadapter hholds (fun hop => absurd hop hoperation)
      (by rw [hlatest]; exact h.build htoday) hstarted hcompleted hclock hinputs.runId hrequest hanswer
      hwindow (FullFileAdapter.fetch_schema hanswer) hnodup hdates hruns hrunIds hstates
      hstateKeys).mono (fun result s hs => ?_)
    obtain ⟨run, hrun, -, -, prepared, record, next, hcommitted, -⟩ := hs
    exact (hend inputs run s answer prepared record next hadapter hrun hcommitted).2

/-- The window check passes what a window is answered with. -/
theorem enforceWindow_windowPart {answer : BronzeFrame} {capability : FetchCapability}
    (hschema : answer.schema = bronzeSchema contract.nativeShape)
    (hrows : ∀ r ∈ answer.rows, inWindow start today r = true) :
    enforceWindow answer (updatePlan capability start today) = .ok answer := by
  refine enforceWindow_isOk ?_ (fun _ => ⟨start, rfl, fun r hr => of_decide_eq_true (hrows r hr)⟩)
  rw [Frame.columns, hschema]
  cases contract.nativeShape <;> decide

/-- **Incremental updates agree with full reconciles.** There is one frame, the upsert of
the part of the file that is in the window, to which every update from the file leads: the
answer to its request is that part of the file, and the window check passes it. If what
the file says outside of the window is stored already, every reconcile leads there too. -/
theorem update_agrees_reconcile
    (hregistered : orchestrator.seriesRegistry contract.seriesId = some contract)
    (hholds : BronzeHolds orchestrator.uow contract lake frame)
    (hlatest : latestDate frame = some latest)
    (hstart : dateMin ≤ orchestrator.windowStart latest) (hend : today ≤ dateMax)
    (hfile : adapter.parse contract = .ok file) :
    ∃ merged, IsUpsert frame (windowPart (orchestrator.windowStart latest) today file) merged
      ∧ (∀ htoday : latest ≤ today, ∃ answer,
        adapter.fetch contract (windowRequest orchestrator htoday) = .ok answer
          ∧ (∀ r, r ∈ answer.rows
            ↔ r ∈ (windowPart (orchestrator.windowStart latest) today file).rows)
          ∧ enforceWindow answer (updatePlan contract.fetchCapability
            (orchestrator.windowStart latest) today) = .ok answer)
      ∧ LeadsTo orchestrator contract adapter.fetch .update latest today lake merged
      ∧ ((∀ r ∈ file.rows, inWindow (orchestrator.windowStart latest) today r = false →
          IsRepeated frame r) →
        LeadsTo orchestrator contract adapter.fetch .reconcile latest today lake merged) := by
  have hfull := adapter.isFullHistory contract file hfile
  have hwindow : ∀ r ∈ (windowPart (orchestrator.windowStart latest) today file).rows,
      dateMin ≤ r.observationDate ∧ r.observationDate ≤ dateMax := by
    intro r hr
    obtain ⟨hlow, hhigh⟩ := of_decide_eq_true (mem_windowPart.mp hr).2
    exact ⟨hstart.trans hlow, hhigh.trans hend⟩
  -- the last stored date is a date
  obtain ⟨hmem, -⟩ := List.max?_eq_some_iff.mp hlatest
  obtain ⟨last, hlast, hdate⟩ := List.mem_map.mp hmem
  have hmax : latest ≤ dateMax := hdate ▸ (hholds.dates last hlast).2
  -- the merge of what is in the window
  have hschema : (windowPart (orchestrator.windowStart latest) today file).schema
      = bronzeSchema contract.nativeShape := hfull.schema
  have hnodup : ((windowPart (orchestrator.windowStart latest) today file).rows.map
      BronzeRow.key).Nodup := List.Nodup.sublist (List.filter_sublist.map _) hfull.nodup
  obtain ⟨prepared, hprepared⟩ := hholds.exists_prepared hschema hnodup hwindow
  have hmerge := hholds.isPrepared (.inr hschema) hprepared
  have hanswer : ∀ htoday : latest ≤ today, ∃ answer,
      adapter.fetch contract (windowRequest orchestrator htoday) = .ok answer
        ∧ (∀ r, r ∈ answer.rows
          ↔ r ∈ (windowPart (orchestrator.windowStart latest) today file).rows)
        ∧ enforceWindow answer (updatePlan contract.fetchCapability
          (orchestrator.windowStart latest) today) = .ok answer := by
    intro htoday
    obtain ⟨answer, hanswer⟩ := adapter.fetch_windowRequest hfile htoday
    obtain ⟨file', hfile', -, -, hmem⟩ := FullFileAdapter.fetch_eq_ok hanswer
    obtain rfl := Except.ok.inj (hfile.symm.trans hfile')
    have hrows : ∀ r, r ∈ answer.rows
        ↔ r ∈ (windowPart (orchestrator.windowStart latest) today file).rows := by
      intro r
      rw [hmem, mem_windowPart]
      refine and_congr_right (fun _ => ⟨fun h => ?_, fun h _ => ⟨_, rfl, h⟩⟩)
      obtain ⟨start, hstart, hin⟩ := h rfl
      obtain rfl := Option.some.inj hstart
      exact hin
    exact ⟨answer, hanswer, hrows, enforceWindow_windowPart (FullFileAdapter.fetch_schema hanswer)
      (fun r hr => (mem_windowPart.mp ((hrows r).mp hr)).2)⟩
  have hupsert : IsUpsert frame (windowPart (orchestrator.windowStart latest) today file)
      prepared.merged := ⟨hmerge.schema, hmerge.sorted, hmerge.table⟩
  refine ⟨prepared.merged, hupsert, hanswer, ?_, fun hout => ?_⟩
  · have hupdate : AnswersNews orchestrator contract adapter .update latest today lake frame
        (windowPart (orchestrator.windowStart latest) today file)
        (updatePlan contract.fetchCapability (orchestrator.windowStart latest) today) := by
      refine ⟨fun inputs run hrun hcontract => ?_,
        fun htoday => (buildPlan_isOk htoday hstart hmax).1, fun htoday => ?_⟩
      · rw [← hcontract] at hholds ⊢
        exact hrun.plan_eq_updatePlan hholds hlatest
      obtain ⟨answer, hfetch, hrows, hcheck⟩ := hanswer htoday
      exact ⟨_, answer, providerRequest_updatePlan htoday _, hfetch, hcheck,
        fun r => and_congr_left' (hrows r), fun r hr => hwindow r ((hrows r).mp hr)⟩
    exact hupdate.leadsTo hregistered hholds hlatest (by decide) hupsert hmerge.mergesNews
  · have hreconcile : AnswersNews orchestrator contract adapter .reconcile latest today lake frame
        (windowPart (orchestrator.windowStart latest) today file) (maximumPlan .reconcile today) := by
      refine ⟨fun inputs run hrun hcontract => hrun.plan_eq_maximumPlan (hcontract ▸ hholds) hlatest,
        fun htoday => (buildPlan_isOk htoday hstart hmax).2, fun htoday => ?_⟩
      let request : ProviderRequest := ⟨.reconcile, none, today, true, by simp, by simp, fun _ => rfl⟩
      have hrequest : request.operation ≠ .update := OperationMode.noConfusion
      obtain ⟨answer, hfetch⟩ := adapter.fetch_maximum hfile hrequest
      obtain ⟨file', hfile', -, -, hmem⟩ := FullFileAdapter.fetch_eq_ok hfetch
      obtain rfl := Except.ok.inj (hfile.symm.trans hfile')
      have hrows : ∀ r, r ∈ answer.rows ↔ r ∈ file.rows :=
        fun r => (hmem r).trans (and_iff_left (fun h => absurd h hrequest))
      refine ⟨request, answer, rfl, hfetch, rfl, fun r => ?_, fun r hr => ?_⟩
      · rw [isNews_windowPart hout]
        exact and_congr_left' (hrows r)
      · -- a row outside of the window has the date of a stored row
        by_cases hin : inWindow (orchestrator.windowStart latest) today r = true
        · exact hwindow r (mem_windowPart.mpr ⟨(hrows r).mp hr, hin⟩)
        · obtain ⟨old, hold, hkey, -⟩ := hout r ((hrows r).mp hr) (Bool.eq_false_iff.mpr hin)
          rw [← BronzeRow.date_eq_of_key_eq hkey]
          exact hholds.dates old hold
    exact hreconcile.leadsTo hregistered hholds hlatest (by decide) hupsert hmerge.mergesNews

end WholeFiles

/-! ### A file with one new bar -/

/-- A bar of the VIX on the first day of the epoch. -/
def vixRow : BronzeRow where
  seriesId := "vix"
  provider := "cboe"
  observationDate := 0
  fetchedAtUtc := 0
  sourceId := "VIX_History.csv"
  sourceUrl := "https://cdn.cboe.com/api/global/us_indices/daily_prices/VIX_History.csv"
  value := none
  bar := fun _ => some .one

/-- A lake in which the bar is stored. -/
def vixLake (uow : BronzeUnitOfWork) : BronzeLake where
  months := fun _ =>
    KeyedTable.empty.insert (monthKey 0) (uow.frameFormat.encode ⟨bronzeSchema .ohlc, [vixRow]⟩)
  runs := none
  states := none

theorem bronzeHolds_vixLake (uow : BronzeUnitOfWork) :
    BronzeHolds uow Series.vix.contract (vixLake uow) ⟨bronzeSchema .ohlc, [vixRow]⟩ :=
  bronzeHolds_singleton rfl epoch_inRange

/-- The file that is delivered, and the run of a day with it. -/
theorem exists_futureFile : ∃ file, futureProvider.parse Series.vix.contract = .ok file
    ∧ file.rows.map (·.observationDate) = [1] := ⟨_, rfl, rfl⟩

theorem undisturbed_vixLake (orchestrator : BronzeOrchestrator) (uow : BronzeUnitOfWork)
    (adapter : MarketDataProvider) :
    Undisturbed orchestrator (bootstrapCall adapter).inputs (vixLake uow) where
  clock := ⟨0, 0, rfl, rfl, le_rfl⟩
  runId := show isBlank "run-1" = false by decide
  runs := ⟨[], rfl, List.nodup_nil⟩
  states := ⟨[], rfl, List.nodup_nil⟩

/-- A file with one new bar, on the next day, with the overlap of a week. -/
theorem update_agrees_reconcile_vix : ∃ (uow : BronzeUnitOfWork) (merged : BronzeFrame),
    LeadsTo (seriesOrchestrator .vix uow) Series.vix.contract futureProvider.fetch .update 0 1
        (vixLake uow) merged
      ∧ LeadsTo (seriesOrchestrator .vix uow) Series.vix.contract futureProvider.fetch .reconcile 0 1
        (vixLake uow) merged := by
  obtain ⟨uow⟩ := BronzeUnitOfWork.nonempty
  obtain ⟨file, hfile, hdates⟩ := exists_futureFile
  obtain ⟨merged, -, -, hupdate, hreconcile⟩ := @update_agrees_reconcile
    (seriesOrchestrator .vix uow) Series.vix.contract futureProvider 0 1 (vixLake uow) _ file rfl
    (bronzeHolds_vixLake uow) rfl (show dateMin ≤ (-7 : Date) by decide) (by decide) hfile
  refine ⟨uow, merged, hupdate, hreconcile (fun r hr hout => ?_)⟩
  have hdate : r.observationDate = 1 := List.mem_singleton.mp (hdates ▸ List.mem_map_of_mem hr)
  have hin : decide ((-7 : Date) ≤ r.observationDate ∧ r.observationDate ≤ 1) = false := hout
  rw [hdate] at hin
  exact absurd hin (by decide)

/-- **Where the window begins before the first date there is**, an update raises. -/
theorem update_raises {orchestrator : BronzeOrchestrator} {contract : SeriesContract}
    {inputs : RunInputs} {latest today : Date} {lake : BronzeLake} {frame : BronzeFrame}
    (hregistered : orchestrator.seriesRegistry contract.seriesId = some contract)
    (hholds : BronzeHolds orchestrator.uow contract lake frame)
    (hlatest : latestDate frame = some latest) (hstart : orchestrator.windowStart latest < dateMin) :
    wp (orchestrator.runSeries inputs contract.seriesId .update today)
      ⟨fun _ _ => False, fun _ s => s = lake, fun _ => True⟩ lake := by
  have hnone : ∀ run, ¬ IsPlanned orchestrator inputs contract.seriesId .update today lake run := by
    intro run hrun
    obtain rfl := hrun.contract_eq hregistered
    obtain ⟨-, hplan⟩ := hrun.buildPlan_eq hholds
    rw [hlatest] at hplan
    rcases buildPlan_cases hplan with ⟨hmax, -, -⟩ | ⟨_, -, -, hmode, -⟩
      | ⟨_, hmax, -, -, hmin, -⟩
    · cases hmax
    · cases hmode
    · obtain rfl := Option.some.inj hmax
      exact absurd hstart (not_lt.mpr hmin)
  refine wp_mono (wp_runSeries orchestrator inputs contract.seriesId .update today lake)
    (fun _ _ hs => ?_) (fun _ _ hs => hs.resolve_right ?_) (fun _ _ => trivial)
  · obtain ⟨run, hrun, -⟩ := hs
    exact hnone run hrun
  · rintro ⟨run, hrun, -⟩
    exact hnone run hrun

/-- An orchestrator of the VIX whose overlap is longer than the time since the first date. -/
def longOverlap (uow : BronzeUnitOfWork) : BronzeOrchestrator :=
  { seriesOrchestrator .vix uow with config := { overlapDays := 800000 } }

/-- **With such an overlap a reconcile stores a bar that an update does not**: the update
raises an `OverflowError`. -/
theorem update_ne_reconcile : ∃ (uow : BronzeUnitOfWork) (file frame : BronzeFrame),
    futureProvider.parse Series.vix.contract = .ok file
      ∧ BronzeHolds uow Series.vix.contract (vixLake uow) frame
      ∧ (∀ r ∈ file.rows, inWindow ((longOverlap uow).windowStart 0) 1 r = false →
        IsRepeated frame r)
      ∧ wp ((longOverlap uow).runSeries (bootstrapCall futureProvider.fetch).inputs "vix" .update 1)
        ⟨fun _ _ => False, fun _ s => s = vixLake uow, fun _ => True⟩ (vixLake uow)
      ∧ Succeeds ((longOverlap uow).runSeries (bootstrapCall futureProvider.fetch).inputs "vix"
        .reconcile 1) (vixLake uow) (fun _ s => ¬ BronzeHolds uow Series.vix.contract s frame) := by
  obtain ⟨uow⟩ := BronzeUnitOfWork.nonempty
  obtain ⟨file, hfile, hdates⟩ := exists_futureFile
  have hrow : ∀ r ∈ file.rows, r.observationDate = 1 := fun r hr =>
    List.mem_singleton.mp (hdates ▸ List.mem_map_of_mem hr)
  have hholds := bronzeHolds_vixLake uow
  refine ⟨uow, file, _, hfile, hholds, fun r hr hout => ?_,
    @update_raises (longOverlap uow) Series.vix.contract _ 0 1 _ _ rfl hholds rfl
      (show (-800000 : Date) < dateMin by decide), ?_⟩
  · have hin : decide ((-800000 : Date) ≤ r.observationDate ∧ r.observationDate ≤ 1) = false := hout
    rw [hrow r hr] at hin
    exact absurd hin (by decide)
  · let request : ProviderRequest := ⟨.reconcile, none, 1, true, by simp, by simp, fun _ => rfl⟩
    have hrequest : request.operation ≠ .update := OperationMode.noConfusion
    obtain ⟨answer, hfetch⟩ := futureProvider.fetch_maximum hfile hrequest
    obtain ⟨file', hfile', hschema, hnodup, hmem⟩ := FullFileAdapter.fetch_eq_ok hfetch
    obtain rfl := Except.ok.inj (hfile.symm.trans hfile')
    have hrows : ∀ r, r ∈ answer.rows ↔ r ∈ file.rows :=
      fun r => (hmem r).trans (and_iff_left (fun h => absurd h hrequest))
    have hinputs := undisturbed_vixLake (longOverlap uow) uow futureProvider.fetch
    refine (@succeeds_runSeries (longOverlap uow) (bootstrapCall futureProvider.fetch).inputs "vix"
      .reconcile 1 (vixLake uow) Series.vix.contract futureProvider.fetch _ answer
      (maximumPlan .reconcile 1) request 0 0 [] [] rfl rfl hholds (by simp) rfl rfl rfl le_rfl
      hinputs.runId rfl hfetch rfl (FullFileAdapter.fetch_schema hfetch) hnodup
      (fun r hr => hrow r ((hrows r).mp hr) ▸ (by decide)) rfl List.nodup_nil rfl
      List.nodup_nil).mono (fun result s hs => ?_)
    obtain ⟨run, -, hcontract, -, prepared, record, next, hcommitted, -⟩ := hs
    intro hsame
    obtain ⟨hend, hprepared⟩ := hcommitted.holds (hcontract ▸ hholds) (.inl (List.cons_ne_nil _ _))
    -- the merge has the bar of the file
    have hmerged := hend.unique (hcontract ▸ hsame)
    obtain ⟨r, hr, hdate⟩ : ∃ r ∈ file.rows, r.observationDate = 1 :=
      List.mem_map.mp (hdates ▸ List.mem_singleton_self 1)
    obtain ⟨old, hold, hkey, -⟩ := hprepared.isRepeated ((hrows r).mpr hr)
    rw [hmerged] at hold
    obtain rfl := List.mem_singleton.mp hold
    exact absurd ((BronzeRow.date_eq_of_key_eq hkey).trans hdate) (by decide)
