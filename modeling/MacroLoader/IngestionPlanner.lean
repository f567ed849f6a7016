import MacroLoader.ParquetRepository

/-!
# What an ingestion run asks for

A run is planned from what Bronze holds of the series and from nothing else: an
empty series is bootstrapped with all the history there is, a series that has
history is updated over a window that ends today and begins an overlap before
its last stored date, and only an explicit reconcile asks for the whole history
again. `buildPlan_cases` says this once; every later argument about a plan goes
through it.
-/

/-- Explicit ingestion operations. -/
inductive OperationMode
  | bootstrap | update | reconcile
  deriving DecidableEq, Repr

/-- The value of a mode. -/
def OperationMode.value : OperationMode → String
  | .bootstrap => "bootstrap"
  | .update => "update"
  | .reconcile => "reconcile"

/-- Provider-neutral fetch instruction with a logical acceptance window. -/
structure FetchInstruction where
  mode : OperationMode
  requestStart : Option Date
  requestEnd : Date
  maximumHistory : Bool
  filterStart : Option Date
  filterEnd : Option Date
  deriving DecidableEq

/-- `plan.filter_start or plan.request_start`. -/
def FetchInstruction.logicalStart (plan : FetchInstruction) : Option Date :=
  plan.filterStart.or plan.requestStart

/-- Strict incremental update configuration. -/
structure PlannerConfig where
  overlapDays : ℤ := 7
  nonneg : 0 ≤ overlapDays := by decide

/-- `choose_mode`. -/
def chooseMode (bounds : ObservationBounds) (explicitReconcile : Bool) :
    Except PyError OperationMode :=
  match bounds.maximum, explicitReconcile with
  | none, true => .error (.valueError "cannot reconcile a series with no Bronze history")
  | none, false => .ok .bootstrap
  | some _, true => .ok .reconcile
  | some _, false => .ok .update

/-- `d - timedelta(days=days)`. -/
def subtractDays (d : Date) (days : ℤ) : Except PyError Date :=
  if 999999999 < days then
    .error (.overflowError ("days=" ++ toString days ++ "; must have magnitude <= 999999999"))
  else if d - days < dateMin then .error (.overflowError "date value out of range")
  else .ok (d - days)

theorem subtractDays_eq_ok {d start : Date} {days : ℤ} (h : subtractDays d days = .ok start) :
    start = d - days ∧ dateMin ≤ d - days := by
  unfold subtractDays at h
  split_ifs at h with hdays hmin
  exact ⟨(Except.ok.inj h).symm, not_lt.mp hmin⟩

/-- The plan of a run that asks for all the history there is. -/
def maximumPlan (mode : OperationMode) (today : Date) : FetchInstruction where
  mode := mode
  requestStart := none
  requestEnd := today
  maximumHistory := true
  filterStart := none
  filterEnd := none

/-- The plan of an update over a window that begins at a date. -/
def updatePlan (capability : FetchCapability) (start today : Date) : FetchInstruction where
  mode := .update
  requestStart :=
    match capability with
    | .dateRange => some start
    | .fullFile => none
  requestEnd := today
  maximumHistory := false
  filterStart := some start
  filterEnd := some today

/-- **`build_plan`.** -/
def buildPlan (contract : SeriesContract) (bounds : ObservationBounds) (today : Date)
    (explicitReconcile : Bool) (config : PlannerConfig) : Except PyError FetchInstruction := do
  let mode ← chooseMode bounds explicitReconcile
  match mode, bounds.maximum with
  | .bootstrap, _ => return maximumPlan .bootstrap today
  | _, none =>
    .error (.assertionError "existing-history mode requires authoritative Bronze maximum")
  | .reconcile, some latest => do
    check (latest ≤ today) (.valueError "today cannot be earlier than latest stored observation")
    return maximumPlan .reconcile today
  | .update, some latest => do
    check (latest ≤ today) (.valueError "today cannot be earlier than latest stored observation")
    let start ← subtractDays latest config.overlapDays
    return updatePlan contract.fetchCapability start today

/-- **The three plans there are.** -/
theorem buildPlan_cases {contract : SeriesContract} {bounds : ObservationBounds} {today : Date}
    {explicitReconcile : Bool} {config : PlannerConfig} {plan : FetchInstruction}
    (h : buildPlan contract bounds today explicitReconcile config = .ok plan) :
    (bounds.maximum = none ∧ explicitReconcile = false ∧ plan = maximumPlan .bootstrap today)
    ∨ (∃ latest, bounds.maximum = some latest ∧ latest ≤ today ∧ explicitReconcile = true
        ∧ plan = maximumPlan .reconcile today)
    ∨ ∃ latest, bounds.maximum = some latest ∧ latest ≤ today ∧ explicitReconcile = false
        ∧ dateMin ≤ latest - config.overlapDays
        ∧ plan = updatePlan contract.fetchCapability (latest - config.overlapDays) today := by
  unfold buildPlan chooseMode at h
  cases hmax : bounds.maximum with
  | none =>
    cases explicitReconcile with
    | true =>
      simp only [hmax, bind_eq_ok, reduceCtorEq, false_and, exists_false] at h
    | false =>
      simp only [hmax, bind_eq_ok, Except.ok.injEq, exists_eq_left'] at h
      exact .inl ⟨rfl, rfl, (Except.ok.inj h).symm⟩
  | some latest =>
    cases explicitReconcile with
    | true =>
      simp only [hmax, bind_eq_ok, check_eq_ok, Except.ok.injEq, exists_eq_left',
        exists_const] at h
      exact .inr (.inl ⟨latest, rfl, h.1, rfl, (Except.ok.inj h.2).symm⟩)
    | false =>
      simp only [hmax, bind_eq_ok, check_eq_ok, Except.ok.injEq, exists_eq_left',
        exists_const] at h
      obtain ⟨htoday, start, hstart, h⟩ := h
      obtain ⟨rfl, hmin⟩ := subtractDays_eq_ok hstart
      exact .inr (.inr ⟨latest, rfl, htoday, rfl, hmin, (Except.ok.inj h).symm⟩)

/-! ## Requests to a provider -/

/-- **A request that a provider accepts**: its window is in order, an update has one, and
everything else asks for the maximum history. -/
structure ProviderRequest where
  operation : OperationMode
  logicalStart : Option Date
  logicalEnd : Date
  maximumHistory : Bool
  ordered : ∀ start ∈ logicalStart, start ≤ logicalEnd
  bounded : operation = .update → logicalStart.isSome = true
  maximum : operation ≠ .update → maximumHistory = true

/-- An update is not asked for the maximum history. -/
theorem maximumHistory_of_ne_update {maximumHistory : Bool}
    (h : OperationMode.update ≠ .update) : maximumHistory = true := absurd rfl h

/-- `BronzeOrchestrator._provider_request`, with the checks that a request makes of
itself. -/
def providerRequest (plan : FetchInstruction) : Except PyError ProviderRequest :=
  if ordered : ∀ start ∈ plan.logicalStart, start ≤ plan.requestEnd then
    if bounded : plan.mode = .update → plan.logicalStart.isSome = true then
      if maximum : plan.mode ≠ .update → plan.maximumHistory = true then
        .ok ⟨plan.mode, plan.logicalStart, plan.requestEnd, plan.maximumHistory, ordered, bounded,
          maximum⟩
      else .error (.valueError "bootstrap/reconcile require maximum_history")
    else .error (.valueError "update requires a bounded logical_start")
  else .error (.valueError "logical_start cannot be after logical_end")

