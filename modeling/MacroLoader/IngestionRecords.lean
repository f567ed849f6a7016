import MacroLoader.IngestionPlanner

/-!
# What an ingestion run leaves behind

Besides its Bronze rows a run leaves two traces: a record in the manifest of
runs, and the ingestion state of its series. Both are files that hold the
records of everyone, and both are rewritten whole: the records that are there,
without the one that is to be replaced, and the new one (`upsertRun_spec`,
`upsertState_spec`).

A record cannot be built unless it makes sense: a run that has failed has
written nothing. Error texts are redacted whenever the manifest is written, the
old ones with the new one.
-/

/-! ## Text -/

/-- `c.isspace()`. -/
def isPySpace (c : Char) : Bool :=
  let n := c.toNat
  (9 ≤ n && n ≤ 13) || (28 ≤ n && n ≤ 32) || n == 0x85 || n == 0xA0 || n == 0x1680
    || (0x2000 ≤ n && n ≤ 0x200A) || n == 0x2028 || n == 0x2029 || n == 0x202F || n == 0x205F
    || n == 0x3000

/-- `not text.strip()`. -/
def isBlank (text : String) : Bool := text.toList.all isPySpace

/-- The characters of a text with the occurrences of a pattern replaced, from left to
right and not overlapping, where a count of characters is still to be left out. -/
def replaceChars (pattern replacement : List Char) : ℕ → List Char → List Char
  | _, [] => []
  | skip + 1, _ :: rest => replaceChars pattern replacement skip rest
  | 0, c :: rest =>
    if pattern.isPrefixOf (c :: rest) then
      replacement ++ replaceChars pattern replacement (pattern.length - 1) rest
    else c :: replaceChars pattern replacement 0 rest

/-- `text.replace(pattern, replacement)` of a pattern that is not empty. -/
def replaceText (pattern replacement text : String) : String :=
  String.ofList (replaceChars pattern.toList replacement.toList 0 text.toList)

/-- `_sanitize`. -/
def sanitize (secrets : List String) (text : Option String) : Option String :=
  text.map (fun text => secrets.foldl
    (fun text secret => if secret = "" then text else replaceText secret "***" text) text)

/-! ## Run records -/

/-- Durable source-run outcome. -/
inductive RunStatus
  | success | failed
  deriving DecidableEq, Repr

/-- The fields of a run record. -/
structure RunFields where
  runId : String
  provider : Provider
  seriesId : String
  mode : OperationMode
  requestedStart : Option Date
  requestedEnd : Option Date
  fetchedRows : ℤ
  acceptedRows : ℤ
  insertedRows : ℤ
  revisedRows : ℤ
  writtenPartitions : ℤ
  status : RunStatus
  startedAtUtc : Timestamp
  completedAtUtc : Timestamp
  errorCategory : Option String := none
  errorMessage : Option String := none
  deriving DecidableEq

namespace RunFields

/-- The counts of a record. -/
def counts (fields : RunFields) : List ℤ :=
  [fields.fetchedRows, fields.acceptedRows, fields.insertedRows, fields.revisedRows,
    fields.writtenPartitions]

/-- Whether a record claims no durable write. -/
def WritesNothing (fields : RunFields) : Prop :=
  fields.insertedRows = 0 ∧ fields.revisedRows = 0 ∧ fields.writtenPartitions = 0

instance (fields : RunFields) : Decidable fields.WritesNothing :=
  inferInstanceAs (Decidable (_ ∧ _))

end RunFields

/-- **Durable audit record for one source execution.** -/
structure IngestionRunRecord extends RunFields where
  runId_nonblank : isBlank runId = false
  counts_nonneg : ∀ count ∈ toRunFields.counts, 0 ≤ count
  started_le_completed : startedAtUtc ≤ completedAtUtc
  failed_writesNothing : status = .failed → toRunFields.WritesNothing
  deriving DecidableEq

/-- `IngestionRunRecord(...)`. -/
def ingestionRunRecord (fields : RunFields) : Except PyError IngestionRunRecord :=
  if h₁ : isBlank fields.runId = false then
    if h₂ : ∀ count ∈ fields.counts, 0 ≤ count then
      if h₃ : fields.startedAtUtc ≤ fields.completedAtUtc then
        if h₄ : fields.status = .failed → fields.WritesNothing then .ok ⟨fields, h₁, h₂, h₃, h₄⟩
        else .error (.valueError "failed run cannot claim non-durable writes")
      else .error (.valueError "completed_at_utc cannot precede started_at_utc")
    else .error (.valueError "run counts must be >= 0")
  else .error (.valueError "run_id must be non-empty")

theorem ingestionRunRecord_eq_ok {fields : RunFields} {record : IngestionRunRecord}
    (h : ingestionRunRecord fields = .ok record) : record.toRunFields = fields := by
  unfold ingestionRunRecord at h
  split_ifs at h
  obtain rfl := Except.ok.inj h
  rfl

/-- Fields that make sense make a record. -/
theorem ingestionRunRecord_isOk {fields : RunFields} (hid : isBlank fields.runId = false)
    (hcounts : ∀ count ∈ fields.counts, 0 ≤ count)
    (hclock : fields.startedAtUtc ≤ fields.completedAtUtc)
    (hfailed : fields.status = .failed → fields.WritesNothing) :
    ∃ record, ingestionRunRecord fields = .ok record :=
  ⟨_, by rw [ingestionRunRecord, dif_pos hid, dif_pos hcounts, dif_pos hclock, dif_pos hfailed]⟩

/-- A record with its error texts redacted. -/
def sanitizeRecord (secrets : List String) (record : IngestionRunRecord) : IngestionRunRecord :=
  { record with
    errorCategory := sanitize secrets record.errorCategory
    errorMessage := sanitize secrets record.errorMessage }

@[simp] theorem sanitizeRecord_runId (secrets : List String) (record : IngestionRunRecord) :
    (sanitizeRecord secrets record).runId = record.runId := rfl

section Runs

variable (format : FileFormat (List IngestionRunRecord))

/-- `read_runs`. -/
def readRuns (file : Option Bytes) : Except PyError (List IngestionRunRecord) :=
  match file with
  | none => .ok []
  | some bytes => format.decode bytes

/-- `_run_frame`: the rows of the manifest, in the order of their starts. -/
def runFrame (secrets : List String) (records : List IngestionRunRecord) :
    Except PyError (List IngestionRunRecord) := do
  check (records.map (·.runId)).Nodup (.valueError "duplicate ingestion run_id")
  return KeyedRows.sortRows (fun record => toLex (record.startedAtUtc, record.runId))
    (records.map (sanitizeRecord secrets))

/-- `upsert_run`: the bytes that replace the manifest. -/
def upsertRun (secrets : List String) (file : Option Bytes) (record : IngestionRunRecord) :
    Except PyError Bytes := do
  let existing ← readRuns format file
  let retained := existing.filter (fun item => decide (item.runId ≠ record.runId))
  let rows ← runFrame secrets (retained ++ [record])
  return format.encode rows

variable {format}

/-- **The manifest after an upsert**: the new record, and the records of the other runs. -/
theorem upsertRun_spec {secrets : List String} {file : Option Bytes} {record : IngestionRunRecord}
    {bytes : Bytes} (h : upsertRun format secrets file record = .ok bytes) :
    ∃ existing rows, readRuns format file = .ok existing ∧ readRuns format (some bytes) = .ok rows
      ∧ (rows.map (·.runId)).Nodup
      ∧ ∀ r, r ∈ rows ↔ r = sanitizeRecord secrets record
        ∨ ∃ old ∈ existing, old.runId ≠ record.runId ∧ r = sanitizeRecord secrets old := by
  unfold upsertRun runFrame at h
  simp only [bind_eq_ok, check_eq_ok, exists_const] at h
  obtain ⟨existing, hexisting, rows, ⟨hnodup, hrows⟩, h⟩ := h
  obtain rfl := Except.ok.inj hrows
  obtain rfl := Except.ok.inj h
  refine ⟨existing, _, hexisting, format.readBack _, ?_, fun r => ?_⟩
  · refine ((KeyedRows.perm_sortRows _ _).map _).nodup_iff.mpr ?_
    rw [List.map_map]
    exact hnodup
  · rw [KeyedRows.mem_sortRows, List.mem_map]
    simp only [List.mem_append, List.mem_filter, decide_eq_true_iff, List.mem_singleton]
    constructor
    · rintro ⟨old, hold | rfl, rfl⟩
      · exact .inr ⟨old, hold.1, hold.2, rfl⟩
      · exact .inl rfl
    · rintro (rfl | ⟨old, hold, hne, rfl⟩)
      · exact ⟨record, .inr rfl, rfl⟩
      · exact ⟨old, .inl ⟨hold, hne⟩, rfl⟩

/-- **A run has one record**, the last one that was written of it. -/
theorem upsertRun_filter {secrets : List String} {file : Option Bytes}
    {record : IngestionRunRecord} {bytes : Bytes}
    (h : upsertRun format secrets file record = .ok bytes) :
    ∃ rows, readRuns format (some bytes) = .ok rows
      ∧ rows.filter (fun r => decide (r.runId = record.runId)) = [sanitizeRecord secrets record] := by
  obtain ⟨existing, rows, -, hrows, hnodup, hmem⟩ := upsertRun_spec h
  exact ⟨rows, hrows, KeyedRows.filter_keyOf_eq hnodup ((hmem _).mpr (.inl rfl))⟩

/-- An upsert into a manifest that can be read, without the run id twice, succeeds. -/
theorem upsertRun_isOk {secrets : List String} {file : Option Bytes}
    {existing : List IngestionRunRecord} (hread : readRuns format file = .ok existing)
    (hnodup : (existing.map (·.runId)).Nodup) (record : IngestionRunRecord) :
    ∃ bytes, upsertRun format secrets file record = .ok bytes := by
  have hall : ((existing.filter (fun item => decide (item.runId ≠ record.runId))
      ++ [record]).map (·.runId)).Nodup := by
    rw [List.map_append]
    refine List.Nodup.append (hnodup.sublist (List.filter_sublist.map _))
      (List.nodup_singleton _) ?_
    intro id hid hid'
    obtain ⟨item, hitem, rfl⟩ := List.mem_map.mp hid
    exact of_decide_eq_true (List.mem_filter.mp hitem).2 (List.mem_singleton.mp hid')
  refine ⟨_, bind_eq_ok.mpr ⟨existing, hread, bind_eq_ok.mpr ⟨_, bind_eq_ok.mpr
    ⟨(), check_eq_ok.mpr hall, rfl⟩, rfl⟩⟩⟩

end Runs

/-! ## Ingestion state -/

/-- Durable per-provider/series ingestion progress. -/
structure IngestionState where
  provider : Provider
  seriesId : String
  lastSuccessUtc : Option Timestamp := none
  lastObservedDate : Option Date := none
  lastRequestedStart : Option Date := none
  lastRequestedEnd : Option Date := none
  mode : Option OperationMode := none
  fetchedRowCount : ℤ := 0
  acceptedRowCount : ℤ := 0
  changedRowCount : ℤ := 0
  lastReconcileUtc : Option Timestamp := none
  deriving DecidableEq

/-- A provider and a series: what a state belongs to. -/
abbrev SeriesKey := Provider × String

/-- What a state belongs to. -/
def IngestionState.key (state : IngestionState) : SeriesKey := (state.provider, state.seriesId)

/-- What a contract is about. -/
def SeriesContract.key (contract : SeriesContract) : SeriesKey :=
  (contract.provider, contract.seriesId)

/-- The value of a provider. -/
def Provider.value : Provider → String
  | .cboe => "cboe"
  | .stoxx => "stoxx"
  | .yahoo => "yahoo"
  | .ecb => "ecb"
  | .fred => "fred"

theorem Provider.value_injective : Function.Injective Provider.value := by
  intro a b
  cases a <;> cases b <;> decide

/-- `advance_state`. -/
def advanceState (prior : IngestionState) (plan : FetchInstruction) (committedAtUtc : Timestamp)
    (authoritativeBounds : ObservationBounds) (fetchedRows acceptedRows changedRows : ℤ)
    (durableBronze durableSuccessManifest : Bool) : Except PyError IngestionState :=
  if !durableBronze || !durableSuccessManifest then .ok prior
  else do
    check (0 ≤ fetchedRows) (.valueError "fetched_rows must be >= 0")
    check (0 ≤ acceptedRows) (.valueError "accepted_rows must be >= 0")
    check (0 ≤ changedRows) (.valueError "changed_rows must be >= 0")
    return { prior with
      lastSuccessUtc := some committedAtUtc
      lastObservedDate := authoritativeBounds.maximum
      lastRequestedStart := plan.logicalStart
      lastRequestedEnd := some plan.requestEnd
      mode := some plan.mode
      fetchedRowCount := fetchedRows
      acceptedRowCount := acceptedRows
      changedRowCount := changedRows
      lastReconcileUtc :=
        if plan.mode = .reconcile then some committedAtUtc else prior.lastReconcileUtc }

theorem advanceState_eq_ok {prior state : IngestionState} {plan : FetchInstruction}
    {committedAtUtc : Timestamp} {bounds : ObservationBounds} {fetched accepted changed : ℤ}
    (h : advanceState prior plan committedAtUtc bounds fetched accepted changed true true
      = .ok state) :
    state.key = prior.key ∧ state.lastObservedDate = bounds.maximum := by
  unfold advanceState at h
  simp only [Bool.not_true, Bool.or_self, Bool.false_eq_true, ↓reduceIte, bind_eq_ok, check_eq_ok,
    exists_const] at h
  obtain ⟨-, -, -, h⟩ := h
  obtain rfl := Except.ok.inj h
  exact ⟨rfl, rfl⟩

theorem advanceState_isOk (prior : IngestionState) (plan : FetchInstruction)
    (committedAtUtc : Timestamp) (bounds : ObservationBounds) {fetched accepted changed : ℤ}
    (hfetched : 0 ≤ fetched) (haccepted : 0 ≤ accepted) (hchanged : 0 ≤ changed) :
    ∃ state, advanceState prior plan committedAtUtc bounds fetched accepted changed true true
      = .ok state :=
  ⟨_, bind_eq_ok.mpr ⟨(), check_eq_ok.mpr hfetched, bind_eq_ok.mpr
    ⟨(), check_eq_ok.mpr haccepted, bind_eq_ok.mpr ⟨(), check_eq_ok.mpr hchanged, rfl⟩⟩⟩⟩

section States

variable (format : FileFormat (List IngestionState))

/-- `read_states`. -/
def readStates (file : Option Bytes) : Except PyError (List IngestionState) :=
  match file with
  | none => .ok []
  | some bytes => format.decode bytes

/-- The frame of the states, in the order of their keys. -/
def stateFrame (states : List IngestionState) : Except PyError (List IngestionState) := do
  check (states.map IngestionState.key).Nodup (.valueError "duplicate ingestion-state key")
  return KeyedRows.sortRows (fun state => toLex (state.provider.value, state.seriesId)) states

/-- `upsert_state`: the bytes that replace the state file. -/
def upsertState (file : Option Bytes) (state : IngestionState) : Except PyError Bytes := do
  let existing ← readStates format file
  let retained := existing.filter (fun item => decide (item.key ≠ state.key))
  let rows ← stateFrame (retained ++ [state])
  return format.encode rows

/-- The state of a series, or the state of a series without any. -/
def stateOf (states : List IngestionState) (contract : SeriesContract) : IngestionState :=
  (states.find? (fun state => decide (state.key = contract.key))).getD
    { provider := contract.provider, seriesId := contract.seriesId }

variable {format}

/-- **The states after an upsert**: the new one, and those of the other series. -/
theorem upsertState_spec {file : Option Bytes} {state : IngestionState} {bytes : Bytes}
    (h : upsertState format file state = .ok bytes) :
    ∃ existing rows, readStates format file = .ok existing
      ∧ readStates format (some bytes) = .ok rows ∧ (rows.map IngestionState.key).Nodup
      ∧ ∀ r, r ∈ rows ↔ r = state ∨ r ∈ existing ∧ r.key ≠ state.key := by
  unfold upsertState stateFrame at h
  simp only [bind_eq_ok, check_eq_ok, exists_const] at h
  obtain ⟨existing, hexisting, rows, ⟨hnodup, hrows⟩, h⟩ := h
  obtain rfl := Except.ok.inj hrows
  obtain rfl := Except.ok.inj h
  refine ⟨existing, _, hexisting, format.readBack _, ?_, fun r => ?_⟩
  · exact ((KeyedRows.perm_sortRows _ _).map _).nodup_iff.mpr hnodup
  · rw [KeyedRows.mem_sortRows, List.mem_append, List.mem_filter, decide_eq_true_iff,
      List.mem_singleton, or_comm]

theorem upsertState_isOk {file : Option Bytes} {existing : List IngestionState}
    (hread : readStates format file = .ok existing)
    (hnodup : (existing.map IngestionState.key).Nodup) (state : IngestionState) :
    ∃ bytes, upsertState format file state = .ok bytes := by
  have hall : ((existing.filter (fun item => decide (item.key ≠ state.key))
      ++ [state]).map IngestionState.key).Nodup := by
    rw [List.map_append]
    refine List.Nodup.append (hnodup.sublist (List.filter_sublist.map _))
      (List.nodup_singleton _) ?_
    intro key hkey hkey'
    obtain ⟨item, hitem, rfl⟩ := List.mem_map.mp hkey
    exact of_decide_eq_true (List.mem_filter.mp hitem).2 (List.mem_singleton.mp hkey')
  refine ⟨_, bind_eq_ok.mpr ⟨existing, hread, bind_eq_ok.mpr ⟨_, bind_eq_ok.mpr
    ⟨(), check_eq_ok.mpr hall, rfl⟩, rfl⟩⟩⟩

/-- The state of a series is the one under its key. -/
theorem stateOf_of_mem {states : List IngestionState} (h : (states.map IngestionState.key).Nodup)
    {state : IngestionState} (hstate : state ∈ states) {contract : SeriesContract}
    (hkey : state.key = contract.key) : stateOf states contract = state := by
  unfold stateOf
  cases hfound : states.find? (fun state => decide (state.key = contract.key)) with
  | none =>
    exact absurd (decide_eq_true hkey) (List.find?_eq_none.mp hfound state hstate)
  | some other =>
    have hother : other.key = contract.key := of_decide_eq_true (List.find?_some hfound :)
    exact List.inj_on_of_nodup_map h (List.mem_of_find?_eq_some hfound) hstate
      (hother.trans hkey.symm)

theorem stateOf_of_not_mem {states : List IngestionState} {contract : SeriesContract}
    (h : ∀ state ∈ states, state.key ≠ contract.key) :
    stateOf states contract = { provider := contract.provider, seriesId := contract.seriesId } := by
  rw [stateOf, List.find?_eq_none.mpr (fun state hstate => by simpa using h state hstate)]
  rfl

@[simp] theorem stateOf_key (states : List IngestionState) (contract : SeriesContract) :
    (stateOf states contract).key = contract.key := by
  unfold stateOf
  cases hfound : states.find? (fun state => decide (state.key = contract.key)) with
  | none => rfl
  | some state => exact of_decide_eq_true (List.find?_some hfound :)

end States

/-! ## Formats of these records

Records and states are countable data, so there are formats for them. -/

theorem OperationMode.value_injective : Function.Injective OperationMode.value := by
  intro a b
  cases a <;> cases b <;> decide

instance : Countable Provider := Provider.value_injective.countable

instance : Countable OperationMode := OperationMode.value_injective.countable

instance : Countable RunStatus :=
  Function.Injective.countable (f := fun status : RunStatus => decide (status = .failed)) (by
    intro a b
    cases a <;> cases b <;> decide)

instance : Countable RunFields :=
  Function.Injective.countable (f := fun r : RunFields =>
    ((r.runId, r.provider, r.seriesId, r.mode, r.requestedStart, r.requestedEnd),
      (r.fetchedRows, r.acceptedRows, r.insertedRows, r.revisedRows, r.writtenPartitions),
      (r.status, r.startedAtUtc, r.completedAtUtc, r.errorCategory, r.errorMessage))) (by
    rintro ⟨⟩ ⟨⟩ h
    simp only [Prod.mk.injEq] at h
    simp_all only)

instance : Countable IngestionRunRecord :=
  Function.Injective.countable (f := IngestionRunRecord.toRunFields) (by
    rintro ⟨a, _, _, _, _⟩ ⟨b, _, _, _, _⟩ h
    cases (h : a = b)
    rfl)

instance : Countable IngestionState :=
  Function.Injective.countable (f := fun s : IngestionState =>
    ((s.provider, s.seriesId, s.lastSuccessUtc, s.lastObservedDate, s.lastRequestedStart),
      (s.lastRequestedEnd, s.mode, s.fetchedRowCount, s.acceptedRowCount, s.changedRowCount,
        s.lastReconcileUtc))) (by
    rintro ⟨⟩ ⟨⟩ h
    simp only [Prod.mk.injEq] at h
    simp_all only)
