import MacroLoader.Program
import MacroLoader.IngestionRecords

/-!
# The Bronze unit of work

A commit writes three kinds of files, one after the other: the months that have
changed, the manifest of runs and the ingestion states. There is no transaction
around them. What there is instead is a copy of every file that may be written,
taken before the first write, and put back if anything is raised on the way.

That this is enough is what this module proves: whatever fails, the files that a
failed commit leaves are the ones it found (`wp_commitSuccess`).
-/

/-! ## Rows -/

/-- **A row of Bronze.** Every adapter puts its own identity, a parsed date and its
clock into each row, so these are never null; which of the other columns there are
depends on the shape of the series. -/
structure BronzeRow where
  seriesId : String
  provider : String
  observationDate : Date
  fetchedAtUtc : Timestamp
  sourceId : String
  sourceUrl : String
  value : Option Float64
  bar : OhlcField → Option Float64

/-- The key of a Bronze row: its provider, its series and its date. -/
abbrev BronzeKey := String ×ₗ (String ×ₗ Date)

namespace BronzeRow

/-- The key of a row. -/
def key (row : BronzeRow) : BronzeKey :=
  toLex (row.provider, toLex (row.seriesId, row.observationDate))

/-- Whether the columns outside the key and the time of the fetch are equal. -/
def sameMeaning (row old : BronzeRow) : Bool :=
  row.sourceId == old.sourceId && row.sourceUrl == old.sourceUrl
    && Float64.eqMissing row.value old.value
    && ohlcFields.all (fun f => Float64.eqMissing (row.bar f) (old.bar f))

/-- Whether all columns outside the key are equal. -/
def samePayload (row old : BronzeRow) : Bool :=
  row.fetchedAtUtc == old.fetchedAtUtc && row.sameMeaning old

@[simp] theorem sameMeaning_self (row : BronzeRow) : row.sameMeaning row = true := by
  simp [sameMeaning]

@[simp] theorem samePayload_self (row : BronzeRow) : row.samePayload row = true := by
  simp [samePayload]

/-- Rows of one key have one date. -/
theorem date_eq_of_key_eq {row old : BronzeRow} (h : row.key = old.key) :
    row.observationDate = old.observationDate := by
  have hinner := congrArg (fun k : BronzeKey => (ofLex (ofLex k).2).2) h
  exact hinner

end BronzeRow

/-- `_KEY`, and what it means for a row. -/
def bronzeLayout : FrameLayout BronzeRow BronzeKey where
  keyColumns := ["provider", "series_id", "observation_date"]
  keyOf := BronzeRow.key
  samePayload := BronzeRow.samePayload

abbrev BronzeFrame := Frame BronzeRow

/-! ## Files -/

/-- **The files that Bronze commits write.** -/
@[ext] structure BronzeLake where
  /-- The month files of a series. -/
  months : SeriesKey → MonthFiles
  /-- The manifest of runs. -/
  runs : Option Bytes
  /-- The ingestion states. -/
  states : Option Bytes

/-- The lake with a month file put in the place of what is there. -/
def BronzeLake.setMonth (lake : BronzeLake) (key : SeriesKey) (month : Month)
    (content : Option Bytes) : BronzeLake :=
  { lake with
    months := Function.update lake.months key ((lake.months key).alter month (fun _ => content)) }

/-- A program on the Bronze files. -/
abbrev BronzeProgram := Program BronzeLake PyError

/-- `LakePaths.bronze_month`. -/
def bronzeMonthPath (root : String) (key : SeriesKey) (month : Month) : String :=
  root ++ "/bronze/provider=" ++ key.1.value ++ "/series=" ++ key.2 ++ "/year="
    ++ String.ofList (digits 4 (ofLex month).1.toNat) ++ "/month="
    ++ String.ofList (digits 2 (ofLex month).2.toNat) ++ "/data.parquet"

/-- `FilesystemBronzeUnitOfWork`: the root of its paths, the secrets it redacts, and the
formats of its files. -/
structure BronzeUnitOfWork where
  root : String
  secrets : List String
  frameFormat : FileFormat BronzeFrame
  runFormat : FileFormat (List IngestionRunRecord)
  stateFormat : FileFormat (List IngestionState)

instance : Countable Float64 :=
  Function.Injective.countable (f := fun x : Float64 => x.bits.toNat) (by
    rintro ⟨a⟩ ⟨b⟩ h
    exact congrArg Float64.mk (BitVec.eq_of_toNat_eq h))

instance : Countable BronzeRow :=
  Function.Injective.countable (f := fun r : BronzeRow =>
    ((r.seriesId, r.provider, r.observationDate, r.fetchedAtUtc, r.sourceId, r.sourceUrl),
      (r.value, r.bar .open_, r.bar .high, r.bar .low, r.bar .close))) (by
    rintro ⟨_, _, _, _, _, _, _, bar⟩ ⟨_, _, _, _, _, _, _, bar'⟩ h
    simp only [Prod.mk.injEq] at h
    have hbar : bar = bar' := funext (fun f => by cases f <;> simp_all only)
    simp_all only)

instance {ρ : Type} [Countable ρ] : Countable (Frame ρ) :=
  Function.Injective.countable (f := fun frame : Frame ρ => (frame.schema, frame.rows)) (by
    rintro ⟨⟩ ⟨⟩ h
    simp_all only [Prod.mk.injEq])

/-- There are formats for all files. -/
theorem BronzeUnitOfWork.nonempty : Nonempty BronzeUnitOfWork := by
  obtain ⟨frameFormat⟩ := FileFormat.nonempty BronzeFrame
  obtain ⟨runFormat⟩ := FileFormat.nonempty (List IngestionRunRecord)
  obtain ⟨stateFormat⟩ := FileFormat.nonempty (List IngestionState)
  exact ⟨"lake", [], frameFormat, runFormat, stateFormat⟩

/-! ## Preparing -/

/-- `_post_bounds`. -/
def postBounds (frame : BronzeFrame) : Except PyError ObservationBounds := do
  let minimum ← loadDate? (frame.rows.map (·.observationDate)).min?
  let maximum ← loadDate? (frame.rows.map (·.observationDate)).max?
  return ⟨minimum, maximum⟩

/-- `_changed_months`: the months of some rows, in order. -/
def changedMonths (frame : BronzeFrame) : Except PyError (List Month) := do
  let dates ← (frame.rows.map (·.observationDate)).mapM loadDate
  return (dates.map monthKey).dedup.insertionSort (· ≤ ·)

/-- An incoming row, with the fetch time of an old row that says the same. -/
def keepFetchTime (row old : BronzeRow) : BronzeRow :=
  if row.sameMeaning old then { row with fetchedAtUtc := old.fetchedAtUtc } else row

/-- An incoming row, joined with the old rows of its key. -/
def stableRows (existing : BronzeFrame) (row : BronzeRow) : List BronzeRow :=
  match existing.rows.filter (fun old => decide (old.key = row.key)) with
  | [] => [row]
  | olds => olds.map (keepFetchTime row)

/-- `_stable_incoming`. -/
def stableIncoming (existing incoming : BronzeFrame) : Except PyError BronzeFrame :=
  if existing.isEmpty || incoming.isEmpty || decide ("fetched_at_utc" ∉ incoming.columns) then
    .ok incoming
  else do
    check (∀ column ∈ incoming.columns, column ∈ existing.columns)
      ⟨.other "ColumnNotFoundError", "unable to find column"⟩
    return ⟨incoming.schema, incoming.rows.flatMap (stableRows existing)⟩

/-- `PreparedBronze`: pure staged Bronze mutation. -/
structure PreparedBronze where
  contract : SeriesContract
  merged : BronzeFrame
  diff : FrameDiff BronzeRow
  postBounds : ObservationBounds
  writtenPartitions : ℕ

/-- `prepare`, of the rows that are there. -/
def prepareFrame (contract : SeriesContract) (existing incoming : BronzeFrame) :
    Except PyError PreparedBronze := do
  let existing := if existing.columns = [] then incoming.head0 else existing
  let normalized ← stableIncoming existing incoming
  let (merged, diff) ← mergeFrames bronzeLayout existing normalized
  let months ← changedMonths diff.changed
  let bounds ← postBounds merged
  return {
    contract := contract
    merged := merged
    diff := diff
    postBounds := bounds
    writtenPartitions := months.length }

namespace BronzeUnitOfWork

open Program

variable (uow : BronzeUnitOfWork)

/-- The rows of a series, from all its months. -/
def readBronze (lake : BronzeLake) (key : SeriesKey) : Except PyError BronzeFrame :=
  readMonthly uow.frameFormat.decode bronzeLayout (lake.months key)

/-- `bounds`. -/
def bounds (contract : SeriesContract) : BronzeProgram ObservationBounds :=
  query (fun lake => observationBounds uow.frameFormat.decode (·.observationDate)
    (bronzeMonthPath uow.root contract.key) (lake.months contract.key))

/-- `state`. -/
def state (contract : SeriesContract) : BronzeProgram IngestionState :=
  query (fun lake => (readStates uow.stateFormat lake.states).map (stateOf · contract))

/-- `prepare`. -/
def prepare (contract : SeriesContract) (incoming : BronzeFrame) : BronzeProgram PreparedBronze :=
  query (fun lake => do
    let existing ← uow.readBronze lake contract.key
    prepareFrame contract existing incoming)

/-! ## Committing -/

/-- A call of the fault injector: it changes no file but may fail. -/
def signal (_stage : String) : BronzeProgram Unit := query (fun _ => .ok ())

/-- `_Backup` of every file that a commit may write. -/
structure Backup where
  months : List (Month × Option Bytes)
  runs : Option Bytes
  states : Option Bytes

/-- `_backup` of the files of some months, of the manifest and of the states. -/
def backup (key : SeriesKey) (months : List Month) (lake : BronzeLake) : Backup where
  months := months.map (fun month => (month, (lake.months key).get? month))
  runs := lake.runs
  states := lake.states

/-- `_restore` of all backups, the last one first. -/
def restore (key : SeriesKey) (saved : Backup) (lake : BronzeLake) : BronzeLake :=
  saved.months.reverse.foldl (fun lake item => lake.setMonth key item.1 item.2)
    { lake with
      runs := saved.runs
      states := saved.states }

/-- The rows of a month. -/
def monthFrame (merged : BronzeFrame) (month : Month) : BronzeFrame :=
  ⟨merged.schema, merged.rows.filter (fun row => decide (monthKey row.observationDate = month))⟩

/-- `atomic_write_parquet` of a month. -/
def writeMonth (prepared : PreparedBronze) (month : Month) : BronzeProgram Unit :=
  write (fun lake => lake.setMonth prepared.contract.key month
    (some (uow.frameFormat.encode (monthFrame prepared.merged month))))

/-- `upsert_run` on the manifest. -/
def writeRun (run : IngestionRunRecord) : BronzeProgram Unit :=
  effect (fun lake =>
    match upsertRun uow.runFormat uow.secrets lake.runs run with
    | .ok bytes => (.ok (), { lake with runs := some bytes })
    | .error e => (.error e, lake))

/-- `upsert_state` on the ingestion states. -/
def writeState (next : IngestionState) : BronzeProgram Unit :=
  effect (fun lake =>
    match upsertState uow.stateFormat lake.states next with
    | .ok bytes => (.ok (), { lake with states := some bytes })
    | .error e => (.error e, lake))

/-- The writes of a commit, in order. -/
def commitWrites (prepared : PreparedBronze) (months : List Month) (run : IngestionRunRecord)
    (next : IngestionState) : BronzeProgram Unit := do
  forEach months (uow.writeMonth prepared)
  signal "after_bronze"
  uow.writeRun run
  signal "after_run"
  uow.writeState next
  signal "after_state"

/-- **`commit_success`.** -/
def commitSuccess (prepared : PreparedBronze) (run : IngestionRunRecord) (next : IngestionState) :
    BronzeProgram Unit := do
  let months ← ofExcept (changedMonths prepared.diff.changed)
  let saved ← query (fun lake => .ok (backup prepared.contract.key months lake))
  tryCatch (uow.commitWrites prepared months run next) (fun e => do
    update (restore prepared.contract.key saved)
    throw e)

/-- `record_failure`. -/
def recordFailure (run : IngestionRunRecord) : BronzeProgram Unit := uow.writeRun run

end BronzeUnitOfWork

/-! ## The rollback -/

section Rollback

variable {lake s : BronzeLake} {key : SeriesKey} {months : List Month}

@[simp] theorem BronzeLake.setMonth_months_self (lake : BronzeLake) (key : SeriesKey)
    (month : Month) (content : Option Bytes) :
    (lake.setMonth key month content).months key
      = (lake.months key).alter month (fun _ => content) :=
  Function.update_self ..

@[simp] theorem BronzeLake.setMonth_months_of_ne {key' : SeriesKey} (h : key' ≠ key)
    (lake : BronzeLake) (month : Month) (content : Option Bytes) :
    (lake.setMonth key month content).months key' = lake.months key' :=
  Function.update_of_ne h ..

@[simp] theorem BronzeLake.setMonth_runs (lake : BronzeLake) (key : SeriesKey) (month : Month)
    (content : Option Bytes) : (lake.setMonth key month content).runs = lake.runs := rfl

@[simp] theorem BronzeLake.setMonth_states (lake : BronzeLake) (key : SeriesKey) (month : Month)
    (content : Option Bytes) : (lake.setMonth key month content).states = lake.states := rfl

/-- Two lakes that differ in some month files of one series at most, and in the two files
that all series share. -/
structure AgreesOutside (key : SeriesKey) (months : List Month) (lake s : BronzeLake) : Prop where
  other : ∀ key', key' ≠ key → s.months key' = lake.months key'
  outside : ∀ month, month ∉ months → (s.months key).get? month = (lake.months key).get? month

theorem AgreesOutside.refl (key : SeriesKey) (months : List Month) (lake : BronzeLake) :
    AgreesOutside key months lake lake := ⟨fun _ _ => rfl, fun _ _ => rfl⟩

/-- The lake after the files of some months have been put back. -/
theorem restoreMonths_spec (saved : Month → Option Bytes) (months : List Month) (s : BronzeLake) :
    let restored := months.foldr (fun month lake => lake.setMonth key month (saved month)) s
    restored.runs = s.runs ∧ restored.states = s.states
      ∧ (∀ key', key' ≠ key → restored.months key' = s.months key')
      ∧ ∀ month, (restored.months key).get? month
        = if month ∈ months then saved month else (s.months key).get? month := by
  induction months with
  | nil => exact ⟨rfl, rfl, fun _ _ => rfl, fun _ => rfl⟩
  | cons first rest ih =>
    obtain ⟨hruns, hstates, hother, hmonth⟩ := ih
    refine ⟨hruns, hstates, fun key' hne => ?_, fun month => ?_⟩
    · rw [List.foldr_cons, BronzeLake.setMonth_months_of_ne hne, hother key' hne]
    · rw [List.foldr_cons, BronzeLake.setMonth_months_self, KeyedTable.get?_alter, hmonth]
      by_cases hfirst : month = first
      · subst hfirst
        simp
      · simp [hfirst]

/-- **The backups restore every file that may have been written**, and the others have
not been. -/
theorem restore_backup (h : AgreesOutside key months lake s) :
    BronzeUnitOfWork.restore key (BronzeUnitOfWork.backup key months lake) s = lake := by
  obtain ⟨hruns, hstates, hother, hmonth⟩ := @restoreMonths_spec key
    (fun month => (lake.months key).get? month) months
    { s with
      runs := lake.runs
      states := lake.states }
  have hfold : BronzeUnitOfWork.restore key (BronzeUnitOfWork.backup key months lake) s
      = months.foldr (fun month s => s.setMonth key month ((lake.months key).get? month))
        { s with
          runs := lake.runs
          states := lake.states } := by
    unfold BronzeUnitOfWork.restore BronzeUnitOfWork.backup
    rw [List.foldl_reverse, List.foldr_map]
  rw [hfold]
  refine BronzeLake.ext (funext (fun key' => ?_)) hruns hstates
  by_cases hkey : key' = key
  · subst hkey
    ext month : 1
    rw [hmonth]
    split_ifs with hmem
    · rfl
    · exact h.outside month hmem
  · rw [hother key' hkey, ← h.other key' hkey]

end Rollback

/-! ## What a commit leaves -/

open Program

section Commits

variable {uow : BronzeUnitOfWork} {lake s : BronzeLake} {prepared : PreparedBronze}
  {months : List Month} {run : IngestionRunRecord} {next : IngestionState}

/-- The files of some months have been written, and no other file of the series or of
another one. -/
structure WritesMonths (uow : BronzeUnitOfWork) (prepared : PreparedBronze) (months : List Month)
    (lake s : BronzeLake) : Prop where
  other : ∀ key, key ≠ prepared.contract.key → s.months key = lake.months key
  month : ∀ month, (s.months prepared.contract.key).get? month = if month ∈ months then
      some (uow.frameFormat.encode (BronzeUnitOfWork.monthFrame prepared.merged month))
    else (lake.months prepared.contract.key).get? month

theorem WritesMonths.agreesOutside (h : WritesMonths uow prepared months lake s) :
    AgreesOutside prepared.contract.key months lake s where
  other := h.other
  outside month hmonth := by rw [h.month, if_neg hmonth]

/-- **What a successful commit has written.** -/
structure Commits (uow : BronzeUnitOfWork) (prepared : PreparedBronze) (months : List Month)
    (run : IngestionRunRecord) (next : IngestionState) (lake s : BronzeLake) : Prop
    extends WritesMonths uow prepared months lake s where
  runs : ∃ bytes, upsertRun uow.runFormat uow.secrets lake.runs run = .ok bytes
    ∧ s.runs = some bytes
  states : ∃ bytes, upsertState uow.stateFormat lake.states next = .ok bytes
    ∧ s.states = some bytes

/-- A lake in the middle of its month writes. -/
structure IsWriting (uow : BronzeUnitOfWork) (prepared : PreparedBronze) (months : List Month)
    (lake : BronzeLake) (rest : List Month) (s : BronzeLake) : Prop where
  runs : s.runs = lake.runs
  states : s.states = lake.states
  other : ∀ key, key ≠ prepared.contract.key → s.months key = lake.months key
  rest_subset : rest ⊆ months
  month : ∀ month, month ∉ rest → (s.months prepared.contract.key).get? month
    = if month ∈ months then
        some (uow.frameFormat.encode (BronzeUnitOfWork.monthFrame prepared.merged month))
      else (lake.months prepared.contract.key).get? month

theorem IsWriting.agreesOutside {rest : List Month}
    (h : IsWriting uow prepared months lake rest s) :
    AgreesOutside prepared.contract.key months lake s where
  other := h.other
  outside month hmonth := by rw [h.month month (fun hmem => hmonth (h.rest_subset hmem)), if_neg hmonth]

theorem IsWriting.setMonth {first : Month} {rest : List Month}
    (h : IsWriting uow prepared months lake (first :: rest) s) :
    IsWriting uow prepared months lake rest (s.setMonth prepared.contract.key first
      (some (uow.frameFormat.encode (BronzeUnitOfWork.monthFrame prepared.merged first)))) where
  runs := h.runs
  states := h.states
  other key hkey := by rw [BronzeLake.setMonth_months_of_ne hkey, h.other key hkey]
  rest_subset := fun _ hmem => h.rest_subset (List.mem_cons_of_mem _ hmem)
  month month hmonth := by
    rw [BronzeLake.setMonth_months_self, KeyedTable.get?_alter]
    split_ifs with hfirst hmem hmem
    · rw [hfirst]
    · exact absurd (hfirst ▸ h.rest_subset List.mem_cons_self) hmem
    · rw [h.month month (by simp [hfirst, hmonth]), if_pos hmem]
    · rw [h.month month (by simp [hfirst, hmonth]), if_neg hmem]

/-- A shared file that has been written does not change what has been written of the
series. -/
theorem AgreesOutside.congr {key : SeriesKey} {s' : BronzeLake}
    (h : AgreesOutside key months lake s) (hmonths : s'.months = s.months) :
    AgreesOutside key months lake s' :=
  ⟨fun key' hne => by rw [hmonths, h.other key' hne],
    fun month hmem => by rw [hmonths, h.outside month hmem]⟩

theorem wp_signal {Q : Post BronzeLake PyError Unit} {stage : String} (hok : Q.returned () s)
    (hraise : ∀ e, Q.raised e s) (hcrash : Q.crashed s) :
    wp (BronzeUnitOfWork.signal stage) Q s :=
  wp_query (fun _ _ => hok) hraise hcrash

/-- The manifest has been rewritten with a record, and no other file. -/
def RunWritten (uow : BronzeUnitOfWork) (run : IngestionRunRecord) (lake s : BronzeLake) : Prop :=
  ∃ bytes, upsertRun uow.runFormat uow.secrets lake.runs run = .ok bytes
    ∧ s = { lake with runs := some bytes }

theorem RunWritten.months_eq (h : RunWritten uow run lake s) : s.months = lake.months := by
  obtain ⟨bytes, -, rfl⟩ := h
  rfl

theorem RunWritten.states_eq (h : RunWritten uow run lake s) : s.states = lake.states := by
  obtain ⟨bytes, -, rfl⟩ := h
  rfl

/-- The write of a record takes place or does not. -/
theorem wp_writeRun {Q : Post BronzeLake PyError Unit}
    (hok : ∀ s', RunWritten uow run s s' → Q.returned () s')
    (hraise : ∀ e s', s' = s ∨ RunWritten uow run s s' → Q.raised e s')
    (hcrash : ∀ s', s' = s ∨ RunWritten uow run s s' → Q.crashed s') :
    wp (uow.writeRun run) Q s := by
  have hend : ∀ r s', (match upsertRun uow.runFormat uow.secrets s.runs run with
      | .ok bytes => ((.ok () : Except PyError Unit), { s with runs := some bytes })
      | .error e => (.error e, s)) = (r, s') → s' = s ∨ RunWritten uow run s s' := by
    intro r s' h
    split at h
    · next bytes hbytes =>
      cases h
      exact .inr ⟨bytes, hbytes, rfl⟩
    · cases h
      exact .inl rfl
  refine wp_effect (fun _ s' h => ?_) (fun e s' h => hraise e s' (hend _ s' h))
    (fun e => ⟨hraise e s (.inl rfl), hraise e _ (hend _ _ rfl)⟩)
    ⟨hcrash s (.inl rfl), hcrash _ (hend _ _ rfl)⟩
  split at h
  · next bytes hbytes =>
    cases h
    exact hok _ ⟨bytes, hbytes, rfl⟩
  · cases h

/-- The states have been rewritten with a state, and no other file. -/
def StateWritten (uow : BronzeUnitOfWork) (next : IngestionState) (lake s : BronzeLake) : Prop :=
  ∃ bytes, upsertState uow.stateFormat lake.states next = .ok bytes
    ∧ s = { lake with states := some bytes }

theorem StateWritten.months_eq (h : StateWritten uow next lake s) : s.months = lake.months := by
  obtain ⟨bytes, -, rfl⟩ := h
  rfl

/-- The write of a state takes place or does not. -/
theorem wp_writeState {Q : Post BronzeLake PyError Unit}
    (hok : ∀ s', StateWritten uow next s s' → Q.returned () s')
    (hraise : ∀ e s', s' = s ∨ StateWritten uow next s s' → Q.raised e s')
    (hcrash : ∀ s', s' = s ∨ StateWritten uow next s s' → Q.crashed s') :
    wp (uow.writeState next) Q s := by
  have hend : ∀ r s', (match upsertState uow.stateFormat s.states next with
      | .ok bytes => ((.ok () : Except PyError Unit), { s with states := some bytes })
      | .error e => (.error e, s)) = (r, s') → s' = s ∨ StateWritten uow next s s' := by
    intro r s' h
    split at h
    · next bytes hbytes =>
      cases h
      exact .inr ⟨bytes, hbytes, rfl⟩
    · cases h
      exact .inl rfl
  refine wp_effect (fun _ s' h => ?_) (fun e s' h => hraise e s' (hend _ s' h))
    (fun e => ⟨hraise e s (.inl rfl), hraise e _ (hend _ _ rfl)⟩)
    ⟨hcrash s (.inl rfl), hcrash _ (hend _ _ rfl)⟩
  split at h
  · next bytes hbytes =>
    cases h
    exact hok _ ⟨bytes, hbytes, rfl⟩
  · cases h

/-- **The writes of a commit**: to the end, or cut somewhere, with nothing written that
has not been backed up. -/
theorem wp_commitWrites (uow : BronzeUnitOfWork) (prepared : PreparedBronze)
    (months : List Month) (run : IngestionRunRecord) (next : IngestionState) (lake : BronzeLake) :
    wp (uow.commitWrites prepared months run next)
      ⟨fun _ s => Commits uow prepared months run next lake s,
        fun _ s => AgreesOutside prepared.contract.key months lake s,
        fun s => AgreesOutside prepared.contract.key months lake s⟩ lake := by
  unfold BronzeUnitOfWork.commitWrites
  refine wp_bind (wp_forEach (IsWriting uow prepared months lake) ?_ (fun first rest s h => ?_)
    (fun s h => ?_))
  · exact ⟨rfl, rfl, fun _ _ => rfl, fun _ h => h,
      fun month hmonth => by rw [if_neg hmonth]⟩
  · exact wp_write h.setMonth (fun _ => ⟨h.agreesOutside, h.setMonth.agreesOutside⟩)
      ⟨h.agreesOutside, h.setMonth.agreesOutside⟩
  · have hout := h.agreesOutside
    refine wp_bind (wp_signal ?_ (fun _ => hout) hout)
    have hkeep : ∀ s', s' = s ∨ RunWritten uow run s s' →
        AgreesOutside prepared.contract.key months lake s' := by
      rintro s' (rfl | hs')
      · exact hout
      · exact hout.congr hs'.months_eq
    refine wp_bind (wp_writeRun (fun s' hs' => ?_) (fun _ s' => hkeep s') hkeep)
    have hout' := hkeep s' (.inr hs')
    obtain ⟨bytes, hbytes, rfl⟩ := hs'
    refine wp_bind (wp_signal ?_ (fun _ => hout') hout')
    have hkeep' : ∀ s', s' = { s with runs := some bytes }
        ∨ StateWritten uow next { s with runs := some bytes } s' →
        AgreesOutside prepared.contract.key months lake s' := by
      rintro s' (rfl | hs')
      · exact hout'
      · exact hout'.congr hs'.months_eq
    refine wp_bind (wp_writeState (fun s' hs' => ?_) (fun _ s' => hkeep' s') hkeep')
    obtain ⟨bytes', hbytes', rfl⟩ := hs'
    rw [h.runs] at hbytes
    have hstates : upsertState uow.stateFormat lake.states next = .ok bytes' := by
      rw [← h.states]
      exact hbytes'
    refine wp_signal ?_ (fun _ => hout'.congr rfl) (hout'.congr rfl)
    exact ⟨⟨h.other, fun month => h.month month List.not_mem_nil⟩, ⟨bytes, hbytes, rfl⟩,
      bytes', hstates, rfl⟩

/-- **A commit is all or nothing**: where it returns it has written everything, and where
it raises every file is as it was. -/
theorem wp_commitSuccess (uow : BronzeUnitOfWork) (prepared : PreparedBronze)
    (run : IngestionRunRecord) (next : IngestionState) (lake : BronzeLake) :
    wp (uow.commitSuccess prepared run next)
      ⟨fun _ s => ∃ months, changedMonths prepared.diff.changed = .ok months
          ∧ Commits uow prepared months run next lake s,
        fun _ s => s = lake,
        fun s => ∃ months, AgreesOutside prepared.contract.key months lake s⟩ lake := by
  unfold BronzeUnitOfWork.commitSuccess
  refine wp_bind (wp_ofExcept (fun months hmonths => ?_) (fun _ _ => rfl))
  refine wp_bind (wp_query (fun saved hsaved => ?_) (fun _ => rfl) ⟨months, .refl _ _ _⟩)
  obtain rfl := Except.ok.inj hsaved
  refine wp_tryCatch (wp_mono (wp_commitWrites uow prepared months run next lake)
    (fun _ s h => ⟨months, hmonths, h⟩) (fun e s h => ?_) (fun s h => ⟨months, h⟩))
  exact wp_bind (wp_update (wp_throw (restore_backup h)))

/-- **The failure record**: it is the only file that changes. -/
theorem wp_recordFailure (uow : BronzeUnitOfWork) (run : IngestionRunRecord) (lake : BronzeLake) :
    wp (uow.recordFailure run)
      ⟨fun _ s => RunWritten uow run lake s, fun _ s => s = lake ∨ RunWritten uow run lake s,
        fun s => s = lake ∨ RunWritten uow run lake s⟩ lake :=
  wp_writeRun (fun _ h => h) (fun _ _ h => h) (fun _ h => h)

/-! ### When nothing fails -/

theorem succeeds_writeRun {Q : Unit → BronzeLake → Prop} {bytes : Bytes}
    (h : upsertRun uow.runFormat uow.secrets lake.runs run = .ok bytes)
    (hq : Q () { lake with runs := some bytes }) : Succeeds (uow.writeRun run) lake Q :=
  succeeds_effect (by rw [h]) hq

theorem succeeds_writeState {Q : Unit → BronzeLake → Prop} {bytes : Bytes}
    (h : upsertState uow.stateFormat lake.states next = .ok bytes)
    (hq : Q () { lake with states := some bytes }) : Succeeds (uow.writeState next) lake Q :=
  succeeds_effect (by rw [h]) hq

/-- **A commit goes through** where nothing fails and the shared files can be written. -/
theorem succeeds_commitSuccess {bytes bytes' : Bytes}
    (hmonths : changedMonths prepared.diff.changed = .ok months)
    (hruns : upsertRun uow.runFormat uow.secrets lake.runs run = .ok bytes)
    (hstates : upsertState uow.stateFormat lake.states next = .ok bytes') :
    Succeeds (uow.commitSuccess prepared run next) lake
      (fun _ s => Commits uow prepared months run next lake s) := by
  unfold BronzeUnitOfWork.commitSuccess
  refine succeeds_bind (succeeds_ofExcept hmonths (succeeds_bind (succeeds_query rfl ?_)))
  refine Succeeds.tryCatch ?_
  unfold BronzeUnitOfWork.commitWrites
  refine succeeds_bind (succeeds_forEach (IsWriting uow prepared months lake) ?_
    (fun first _ rest s h => succeeds_write h.setMonth) (fun s h => ?_))
  · exact ⟨rfl, rfl, fun _ _ => rfl, fun _ h => h, fun month hmonth => by rw [if_neg hmonth]⟩
  · have hwritten : upsertState uow.stateFormat s.states next = .ok bytes' := by
      rw [h.states]
      exact hstates
    refine succeeds_bind (succeeds_query rfl (succeeds_bind
      (succeeds_writeRun (by rw [h.runs]; exact hruns) (succeeds_bind (succeeds_query rfl
        (succeeds_bind (succeeds_writeState hwritten (succeeds_query rfl ?_))))))))
    · exact ⟨⟨h.other, fun month => h.month month List.not_mem_nil⟩, ⟨bytes, hruns, rfl⟩,
        bytes', hstates, rfl⟩

end Commits
