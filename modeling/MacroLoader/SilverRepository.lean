import MacroLoader.BronzeHistory

/-!
# The Silver repository

A build maps the Bronze of a series to canonical rows and upserts them into the month
files of Silver, of which it writes those that it thinks differ, one after the other and
without anything to put them back. It deletes nothing, so what an interrupted build leaves
is a mixture, and the next one starts from there.

Builds converge all the same. A mixture has rows of keys that Bronze has or had
(`SilverHolds`), and Bronze loses no key; so a build that goes through replaces or confirms
every row that there is (`silver_converges`). What it confirms it has compared cell by
cell, as data frames compare: the two zeros count as one.
-/

open Program

/-! ## Canonical rows -/

/-- **A canonical row.** Its identity comes from a Bronze row and is never null. -/
structure CanonicalRow where
  observationDate : Date
  seriesId : String
  value : Option Float64
  bar : OhlcField → Option Float64
  unit : String
  provider : String
  sourceId : String
  fetchedAtUtc : Timestamp

namespace CanonicalRow

/-- The key of a row. -/
def key (row : CanonicalRow) : String ×ₗ Date := toLex (row.seriesId, row.observationDate)

/-- Whether the columns outside the key are equal. -/
def samePayload (row old : CanonicalRow) : Bool :=
  Float64.eqMissing row.value old.value
    && ohlcFields.all (fun f => Float64.eqMissing (row.bar f) (old.bar f))
    && row.unit == old.unit && row.provider == old.provider && row.sourceId == old.sourceId
    && row.fetchedAtUtc == old.fetchedAtUtc

@[simp] theorem samePayload_self (row : CanonicalRow) : row.samePayload row = true := by
  simp [samePayload]

/-- The month of a row. -/
def month (row : CanonicalRow) : Month := monthKey row.observationDate

theorem month_eq_of_key_eq {row old : CanonicalRow} (h : row.key = old.key) :
    row.month = old.month := by
  have hdate : row.observationDate = old.observationDate :=
    congrArg (fun k : String ×ₗ Date => (ofLex k).2) h
  rw [month, month, hdate]

end CanonicalRow

abbrev CanonicalFrame := Frame CanonicalRow

instance : Countable CanonicalRow :=
  Function.Injective.countable (f := fun r : CanonicalRow =>
    ((r.observationDate, r.seriesId, r.unit, r.provider, r.sourceId, r.fetchedAtUtc),
      (r.value, r.bar .open_, r.bar .high, r.bar .low, r.bar .close))) (by
    rintro ⟨_, _, _, bar, _, _, _, _⟩ ⟨_, _, _, bar', _, _, _, _⟩ h
    simp only [Prod.mk.injEq] at h
    have hbar : bar = bar' := funext (fun f => by cases f <;> simp_all only)
    simp_all only)

/-- `SILVER_SCHEMA`. -/
def silverSchema : List (String × String) :=
  [("observation_date", "Date"), ("series_id", "String"), ("value", "Float64"),
    ("open", "Float64"), ("high", "Float64"), ("low", "Float64"), ("close", "Float64"),
    ("unit", "String"), ("provider", "String"), ("source_id", "String"),
    ("fetched_at_utc", "Datetime(us, UTC)")]

/-- `_SILVER_KEY`, and what it means for a row. -/
def silverLayout : FrameLayout CanonicalRow (String ×ₗ Date) where
  keyColumns := ["series_id", "observation_date"]
  keyOf := CanonicalRow.key
  samePayload := CanonicalRow.samePayload

/-! ## Canonicalization -/

/-- The type of a column. -/
def Frame.typeOf {ρ : Type} (frame : Frame ρ) (column : String) : Option String :=
  (frame.schema.find? (fun entry => decide (entry.1 = column))).map Prod.snd

/-- One column of `_assert_identity`. -/
def assertColumn (bronze : BronzeFrame) (column value : String) (get : BronzeRow → String) :
    Except PyError Unit := do
  check (column ∈ bronze.columns) (.valueError ("Bronze frame is missing " ++ column))
  check ((bronze.rows.map get).dedup = [value])
    (.valueError ("Bronze " ++ column ++ " does not match registry contract"))

/-- `_assert_identity`. -/
def assertIdentity (bronze : BronzeFrame) (contract : SeriesContract) : Except PyError Unit := do
  assertColumn bronze "series_id" contract.seriesId (·.seriesId)
  assertColumn bronze "provider" contract.provider.value (·.provider)
  assertColumn bronze "source_id" contract.sourceId (·.sourceId)

/-- `_assert_common`. -/
def assertCommon (bronze : BronzeFrame) (contract : SeriesContract) : Except PyError Unit := do
  let missing := ["fetched_at_utc", "observation_date", "provider", "series_id", "source_id",
    "source_url"].filter (fun column => decide (column ∉ bronze.columns))
  check (missing = [])
    (.valueError ("Bronze frame is missing common columns: " ++ pyNames missing))
  check (bronze.typeOf "observation_date" = some "Date")
    (.typeError "Bronze observation_date must be Date")
  check (bronze.typeOf "fetched_at_utc" = some "Datetime(us, UTC)")
    (.typeError "Bronze fetched_at_utc must be Datetime(us, UTC)")
  assertIdentity bronze contract
  check (bronze.rows.map (fun r => (r.seriesId, r.observationDate))).Nodup
    (.valueError "Bronze contains duplicate Silver natural keys")

/-- One column of `_finite_non_null`. -/
def finiteNonNull (bronze : BronzeFrame) (column : String) (get : BronzeRow → Option Float64) :
    Except PyError Unit := do
  check (column ∈ bronze.columns) (.valueError ("Bronze frame is missing " ++ column))
  check (∀ r ∈ bronze.rows, (get r).isSome = true)
    (.valueError ("Bronze " ++ column ++ " contains missing/non-numeric values"))
  check (∀ r ∈ bronze.rows, (get r).all Float64.isFinite = true)
    (.valueError ("Bronze " ++ column ++ " contains non-finite values"))

/-- The payload of a row: of bars the close is the value. -/
def silverRow (contract : SeriesContract) (row : BronzeRow) : CanonicalRow where
  observationDate := row.observationDate
  seriesId := row.seriesId
  value :=
    match contract.nativeShape with
    | .ohlc => row.bar .close
    | .scalar => row.value
  bar :=
    match contract.nativeShape with
    | .ohlc => row.bar
    | .scalar => fun _ => none
  unit := contract.unit
  provider := row.provider
  sourceId := row.sourceId
  fetchedAtUtc := row.fetchedAtUtc

/-- The columns of the payload that a shape reads have finite values. -/
def assertPayload (bronze : BronzeFrame) (shape : NativeShape) : Except PyError Unit :=
  match shape with
  | .ohlc => ohlcFields.forM (fun f => finiteNonNull bronze f.name (·.bar f))
  | .scalar => finiteNonNull bronze "value" (·.value)

/-- The schema of the selected columns: those of the identity have the types that they
have in Bronze. -/
def selectedSchema (bronze : BronzeFrame) : List (String × String) :=
  silverSchema.map (fun entry =>
    if entry.1 ∈ ["series_id", "provider", "source_id"] then
      (entry.1, (bronze.typeOf entry.1).getD entry.2)
    else entry)

/-- The text of a schema. -/
def schemaText (schema : List (String × String)) : String :=
  "Schema(\x7b" ++ ", ".intercalate (schema.map (fun entry =>
    "'" ++ entry.1 ++ "': " ++ (if entry.2 = "Datetime(us, UTC)" then
      "Datetime(time_unit='us', time_zone='UTC')" else entry.2))) ++ "\x7d)"

/-- **`canonicalize_silver`.** -/
def canonicalizeSilver (contract : SeriesContract) (bronze : BronzeFrame) :
    Except PyError CanonicalFrame :=
  if bronze.isEmpty = true ∧ bronze.columns = [] then .ok ⟨silverSchema, []⟩
  else do
    assertCommon bronze contract
    assertPayload bronze contract.nativeShape
    let rows := KeyedRows.sortRows (·.observationDate) (bronze.rows.map (silverRow contract))
    check (selectedSchema bronze = silverSchema)
      (.typeError ("canonical Silver schema drift: " ++ schemaText (selectedSchema bronze)))
    check (∀ r ∈ rows, r.value.all Float64.isFinite = true)
      (.valueError "Silver value must be finite")
    return ⟨silverSchema, rows⟩

/-! ## The repository -/

/-- The Bronze files, and the month files of the Silver of a series. -/
structure SeriesLake where
  bronze : BronzeLake
  silver : MonthFiles

/-- A program on them. -/
abbrev SeriesProgram := Program SeriesLake PyError

/-- `SilverSeriesRepository`: the Bronze that it reads, and the format of its files. -/
structure SilverRepository where
  uow : BronzeUnitOfWork
  format : FileFormat CanonicalFrame

namespace SilverRepository

variable (repository : SilverRepository)

/-- `read`. -/
def read (silver : MonthFiles) : Except PyError CanonicalFrame := do
  let frame ← readMonths repository.format.decode silver
  if frame.columns = [] then return ⟨silverSchema, []⟩
  else do
    check (frame.schema = silverSchema) (.valueError "invalid persisted Silver schema")
    return ⟨frame.schema, KeyedRows.sortRows CanonicalRow.key frame.rows⟩

/-- The months of the changed rows, in order. -/
def changedMonths (changed : CanonicalFrame) : Except PyError (List Month) := do
  let dates ← (changed.rows.map (·.observationDate)).mapM loadDate
  return (dates.map monthKey).dedup.insertionSort (· ≤ ·)

/-- The rows of a month. -/
def monthFrame (merged : CanonicalFrame) (month : Month) : CanonicalFrame :=
  ⟨merged.schema, merged.rows.filter (fun r => decide (r.month = month))⟩

/-- `atomic_write_parquet` of a month. -/
def writeMonth (merged : CanonicalFrame) (month : Month) : SeriesProgram Unit :=
  write (fun s => { s with
    silver := s.silver.insert month (repository.format.encode (monthFrame merged month)) })

/-- `upsert_monthly`: the difference, and the months that have been written. -/
def upsertMonthly (existing incoming : CanonicalFrame) :
    SeriesProgram (FrameDiff CanonicalRow × List Month) := do
  require ("observation_date" ∈ incoming.columns)
    (.valueError "date column missing from incoming: observation_date")
  let merge ← ofExcept (mergeFrames silverLayout existing incoming)
  if merge.2.hasChanges = false then pure (merge.2, [])
  else do
    let months ← ofExcept (changedMonths merge.2.changed)
    forEach months (repository.writeMonth merge.1)
    pure (merge.2, months)

/-- **`build`**, with the months that have been written. -/
def build (contract : SeriesContract) : SeriesProgram (FrameDiff CanonicalRow × List Month) := do
  let bronze ← query (fun s => repository.uow.readBronze s.bronze contract.key)
  let candidate ← ofExcept (canonicalizeSilver contract bronze)
  let existing ← query (fun s => repository.read s.silver)
  repository.upsertMonthly existing candidate

end SilverRepository

/-! ## What canonicalization gives -/

section Canonical

variable {contract : SeriesContract} {bronze : BronzeFrame} {candidate : CanonicalFrame}

theorem assertColumn_eq_ok {column value : String} {get : BronzeRow → String}
    (h : assertColumn bronze column value get = .ok ()) : ∀ r ∈ bronze.rows, get r = value := by
  obtain ⟨-, -, h⟩ := bind_eq_ok.mp h
  intro r hr
  have hmem := List.mem_dedup.mpr (List.mem_map_of_mem (f := get) hr)
  rw [check_eq_ok.mp h] at hmem
  exact List.mem_singleton.mp hmem

/-- **The candidate of a build**: one row for each Bronze row, in key order. -/
structure IsCanonical (contract : SeriesContract) (bronze : BronzeFrame)
    (candidate : CanonicalFrame) : Prop where
  schema : candidate.schema = silverSchema
  sorted : KeyedRows.Sorted CanonicalRow.key candidate.rows
  mem : ∀ c, c ∈ candidate.rows ↔ ∃ r ∈ bronze.rows, silverRow contract r = c

theorem isCanonical_of_ok (h : canonicalizeSilver contract bronze = .ok candidate) :
    IsCanonical contract bronze candidate := by
  unfold canonicalizeSilver at h
  split_ifs at h with hempty
  · obtain rfl := Except.ok.inj h
    have hrows := Frame.isEmpty_iff.mp hempty.1
    exact ⟨rfl, List.Pairwise.nil, fun c => by simp [hrows]⟩
  · obtain ⟨⟨⟩, hcommon, h⟩ := bind_eq_ok.mp h
    simp only [bind_eq_ok, check_eq_ok, exists_const] at h
    obtain ⟨-, -, -, -, hframe⟩ := h
    obtain rfl := Except.ok.inj hframe
    unfold assertCommon at hcommon
    simp only [bind_eq_ok, check_eq_ok, exists_const] at hcommon
    obtain ⟨-, -, -, ⟨⟩, hidentity, hnodup⟩ := hcommon
    obtain ⟨⟨⟩, hseries, -⟩ := bind_eq_ok.mp hidentity
    have hseries := assertColumn_eq_ok hseries
    refine ⟨rfl, ?_, fun c => by rw [KeyedRows.mem_sortRows, List.mem_map]⟩
    -- the rows are of one series, so that the order of the dates is the order of the keys
    have hdates : ((bronze.rows.map (silverRow contract)).map (·.observationDate)).Nodup := by
      rw [List.map_map]
      refine List.pairwise_map.mpr ((List.pairwise_map.mp hnodup).imp_of_mem
        (fun {r r'} hr hr' hne heq => hne ?_))
      rw [hseries r hr, hseries r' hr']
      exact Prod.ext rfl heq
    refine (KeyedRows.sorted_sortRows hdates).imp_of_mem (fun {c c'} hc hc' hlt => ?_)
    have hone : ∀ c ∈ KeyedRows.sortRows (·.observationDate) (bronze.rows.map (silverRow contract)),
        c.seriesId = contract.seriesId := by
      intro c hc
      obtain ⟨r, hr, rfl⟩ := List.mem_map.mp (KeyedRows.mem_sortRows.mp hc)
      exact hseries r hr
    exact Prod.Lex.toLex_lt_toLex.mpr (.inr ⟨(hone c hc).trans (hone c' hc').symm, hlt⟩)

end Canonical

/-! ## What the files of Silver hold -/

/-- **The Silver of a series holds some rows**, none of which has a key that its Bronze does
not have. -/
structure SilverHolds (repository : SilverRepository) (silver : MonthFiles)
    (kept : CanonicalFrame) (bronze : BronzeFrame) : Prop where
  months : MonthsHold repository.format.decode silverLayout CanonicalRow.month silver kept
  schema : kept.schema = silverSchema
  keys : ∀ c ∈ kept.rows, ∃ r ∈ bronze.rows, toLex (r.seriesId, r.observationDate) = c.key

/-- The rows that a build may compare and write: for each candidate there is a row that
equals it, and there is no row of another key. -/
structure SilverAgrees (kept candidate : CanonicalFrame) : Prop where
  keys : ∀ c ∈ kept.rows, ∃ c' ∈ candidate.rows, c'.key = c.key
  rows : ∀ c' ∈ candidate.rows, ∃ c ∈ kept.rows, c.key = c'.key ∧ c'.samePayload c = true

section Holds

variable {repository : SilverRepository} {contract : SeriesContract} {silver : MonthFiles}
  {kept candidate existing : CanonicalFrame} {bronze bronze' : BronzeFrame}
  {diff : FrameDiff CanonicalRow} {s s' : SeriesLake} {months done : List Month}

theorem mem_silverColumns {frame : CanonicalFrame} (h : frame.schema = silverSchema) :
    frame.columns ≠ [] ∧ "observation_date" ∈ frame.columns
      ∧ ∀ column ∈ silverLayout.keyColumns, column ∈ frame.columns := by
  rw [Frame.columns, h]
  decide

theorem silverHolds_empty (repository : SilverRepository) (bronze : BronzeFrame) :
    SilverHolds repository .empty ⟨silverSchema, []⟩ bronze where
  months := monthsHold_empty _
  schema := rfl
  keys _ h := by cases h

/-- Bronze may have more keys. -/
theorem SilverHolds.mono (h : SilverHolds repository silver kept bronze)
    (hkeys : KeepsKeys bronze bronze') : SilverHolds repository silver kept bronze' where
  months := h.months
  schema := h.schema
  keys c hc := by
    obtain ⟨r, hr, hkey⟩ := h.keys c hc
    obtain ⟨r', hr', hkey'⟩ := hkeys r hr
    refine ⟨r', hr', hkey ▸ ?_⟩
    exact congrArg (fun k : BronzeKey => (ofLex k).2) hkey'

/-- **Silver is read back** as the rows that it holds. -/
theorem SilverHolds.read_eq (h : SilverHolds repository silver kept bronze) :
    repository.read silver = .ok kept := by
  have hkept : kept = ⟨silverSchema, kept.rows⟩ := by rw [← h.schema]
  by_cases hfiles : silver.rows = []
  · have hread : readMonths repository.format.decode silver = .ok Frame.noColumns := by
      rw [readMonths, hfiles]
      rfl
    refine bind_eq_ok.mpr ⟨_, hread, ?_⟩
    rw [hkept, h.months.rows_eq_nil hfiles]
    rfl
  · obtain ⟨rows, hread, hperm⟩ := h.months.readMonths_eq hfiles
    rw [h.schema] at hread
    refine bind_eq_ok.mpr ⟨_, hread, ?_⟩
    have hrows : KeyedRows.sortRows CanonicalRow.key rows = kept.rows :=
      sortRows_of_perm h.months.sorted hperm
    rw [if_neg (mem_silverColumns rfl).1]
    refine bind_eq_ok.mpr ⟨(), check_eq_ok.mpr rfl, ?_⟩
    rw [hkept, ← hrows]
    rfl

/-- Frames that agree are equal as data frames are: row by row, and cell by cell. -/
theorem SilverAgrees.forall₂ (h : SilverAgrees kept candidate)
    (hsorted : KeyedRows.Sorted CanonicalRow.key kept.rows)
    (hsorted' : KeyedRows.Sorted CanonicalRow.key candidate.rows) :
    List.Forall₂ (fun c c' => c.key = c'.key ∧ c'.samePayload c = true) kept.rows candidate.rows :=
  KeyedRows.forall₂_of_sorted hsorted hsorted' h.keys h.rows

/-- **A merge agrees with the candidate**, where there is no row of another key. -/
theorem agrees_mergedFrame (h : IsDiff silverLayout existing candidate diff)
    (hkeys : ∀ c ∈ existing.rows, ∃ c' ∈ candidate.rows, c'.key = c.key) :
    SilverAgrees (mergedFrame silverLayout existing candidate diff) candidate where
  keys c hc := by
    rcases h.mem_mergedFrame.mp hc with hchanged | ⟨hold, -⟩
    · exact ⟨c, (h.mem_changed.mp hchanged).1, rfl⟩
    · exact hkeys c hold
  rows c' hc' := by
    by_cases hchanged : c' ∈ diff.changed.rows
    · exact ⟨c', h.mem_mergedFrame.mpr (.inl hchanged), rfl, CanonicalRow.samePayload_self c'⟩
    · -- a candidate that is not written has been compared with an old row
      have hsame : ∃ old ∈ existing.rows, old.key = c'.key ∧ c'.samePayload old = true := by
        by_contra hnone
        push Not at hnone
        exact hchanged (h.mem_changed.mpr ⟨hc', fun old hold hkey =>
          Bool.eq_false_iff.mpr (hnone old hold hkey)⟩)
      obtain ⟨old, hold, hkey, hsame⟩ := hsame
      refine ⟨old, h.mem_mergedFrame.mpr (.inr ⟨hold, fun hmem => ?_⟩), hkey, hsame⟩
      obtain ⟨new, hnew, hkey'⟩ := List.mem_map.mp hmem
      obtain rfl : new = c' := List.inj_on_of_nodup_map h.incoming_nodup (h.mem_changed.mp hnew).1 hc'
        (hkey'.trans hkey)
      exact hchanged hnew

/-- Where there is agreement there is nothing to write. -/
theorem SilverAgrees.hasChanges (h : SilverAgrees kept candidate)
    (hdiff : IsDiff silverLayout kept candidate diff) : diff.hasChanges = false := by
  refine diff.hasChanges_eq_false.mpr (List.eq_nil_iff_forall_not_mem.mpr (fun c' hc' => ?_))
  obtain ⟨hmem, hall⟩ := hdiff.mem_changed.mp hc'
  obtain ⟨c, hc, hkey, hsame⟩ := h.rows c' hmem
  exact absurd (hall c hc hkey) (by rw [show silverLayout.samePayload c' c = true from hsame]; decide)

end Holds

/-! ## What a build does -/

section Builds

variable {repository : SilverRepository} {contract : SeriesContract} {silver : MonthFiles}
  {kept candidate existing merged : CanonicalFrame} {bronze : BronzeFrame}
  {diff : FrameDiff CanonicalRow} {s s' : SeriesLake} {months done : List Month}

/-- Some months of a merge have been written, and nothing else. -/
structure WritesSilver (repository : SilverRepository) (merged : CanonicalFrame)
    (written : List Month) (s s' : SeriesLake) : Prop where
  bronze : s'.bronze = s.bronze
  month : ∀ month, s'.silver.get? month = if month ∈ written then
      some (repository.format.encode (SilverRepository.monthFrame merged month))
    else s.silver.get? month

/-- **The loop over the months**: wherever it stops, some of them have been written. -/
theorem wp_writeMonths (repository : SilverRepository) (merged : CanonicalFrame)
    (months : List Month) (s : SeriesLake) :
    wp (forEach months (repository.writeMonth merged))
      ⟨fun _ s' => WritesSilver repository merged months s s',
        fun _ s' => ∃ written, written ⊆ months ∧ WritesSilver repository merged written s s',
        fun s' => ∃ written, written ⊆ months ∧ WritesSilver repository merged written s s'⟩ s := by
  -- the months are those that have been written and those to come
  refine wp_forEach (fun rest s' => ∃ written, (∀ month, month ∈ months ↔ month ∈ written
    ∨ month ∈ rest) ∧ WritesSilver repository merged written s s')
    ⟨[], fun month => by simp, rfl, fun month => by simp⟩ (fun first rest s' hs' => ?_)
    (fun s' hs' => ?_)
  · obtain ⟨written, hmonths, hwritten⟩ := hs'
    have hbefore : ∃ written, written ⊆ months ∧ WritesSilver repository merged written s s' :=
      ⟨written, fun month hmonth => (hmonths month).mpr (.inl hmonth), hwritten⟩
    have hnext : WritesSilver repository merged (first :: written) s { s' with
        silver := s'.silver.insert first
          (repository.format.encode (SilverRepository.monthFrame merged first)) } := by
      refine ⟨hwritten.bronze, fun month => ?_⟩
      rw [KeyedTable.get?_insert, hwritten.month]
      by_cases hfirst : month = first
      · subst hfirst
        rw [if_pos rfl, if_pos List.mem_cons_self]
      · rw [if_neg hfirst]
        simp only [List.mem_cons, hfirst, false_or]
    have hafter : ∃ written, written ⊆ months ∧ WritesSilver repository merged written s { s' with
        silver := s'.silver.insert first
          (repository.format.encode (SilverRepository.monthFrame merged first)) } := by
      refine ⟨first :: written, List.cons_subset.mpr ⟨(hmonths first).mpr (.inr List.mem_cons_self),
        fun month hmonth => (hmonths month).mpr (.inl hmonth)⟩, hnext⟩
    refine wp_write ⟨first :: written, fun month => ?_, hnext⟩ (fun _ => ⟨hbefore, hafter⟩)
      ⟨hbefore, hafter⟩
    rw [hmonths, List.mem_cons, List.mem_cons, or_assoc, or_left_comm]
  · obtain ⟨written, hmonths, hwritten⟩ := hs'
    refine ⟨hwritten.bronze, fun month => ?_⟩
    rw [hwritten.month]
    simp only [hmonths, List.not_mem_nil, or_false]

/-- What a build, wherever it stops, leaves as it was. -/
structure BuildKeeps (repository : SilverRepository) (bronze : BronzeFrame)
    (s s' : SeriesLake) : Prop where
  lake : s'.bronze = s.bronze
  silver : ∃ kept, SilverHolds repository s'.silver kept bronze

/-- The changed months are those of the changed rows. -/
theorem silverMonths_eq_ok {frame : CanonicalFrame}
    (h : SilverRepository.changedMonths frame = .ok months) :
    ∀ month, month ∈ months ↔ ∃ c ∈ frame.rows, c.month = month := by
  obtain ⟨dates, hdates, h⟩ := bind_eq_ok.mp h
  obtain rfl := Except.ok.inj h
  have heq : frame.rows.map (·.observationDate) = dates := by
    have hsame := (forall₂_of_mapM_eq_ok hdates).imp (fun d d' hd => (loadDate_eq_ok hd).1.symm)
    exact (List.forall₂_eq_eq_eq ▸ hsame : frame.rows.map (·.observationDate) = dates)
  intro month
  rw [List.mem_insertionSort, List.mem_dedup, ← heq, List.map_map, List.mem_map]
  rfl

/-- Keys of the candidate are keys of Bronze. -/
theorem IsCanonical.keys (h : IsCanonical contract bronze candidate) :
    ∀ c ∈ candidate.rows, ∃ r ∈ bronze.rows, toLex (r.seriesId, r.observationDate) = c.key := by
  intro c hc
  obtain ⟨r, hr, rfl⟩ := (h.mem c).mp hc
  exact ⟨r, hr, rfl⟩

theorem schema_mergedFrame (hexisting : existing.schema = silverSchema)
    (hcandidate : candidate.schema = silverSchema) :
    (mergedFrame silverLayout existing candidate diff).schema = silverSchema := by
  unfold mergedFrame
  split_ifs
  · exact hexisting
  · exact hcandidate
  · exact hexisting

/-- **Where a build stops**, the rows are still of keys of Bronze; and where it has written
all months, they are those of the merge. -/
theorem SilverHolds.writesSilver (h : SilverHolds repository s.silver existing bronze)
    (hcandidate : IsCanonical contract bronze candidate)
    (hdiff : IsDiff silverLayout existing candidate diff)
    (hmonths : SilverRepository.changedMonths diff.changed = .ok months) {written : List Month}
    (hwrites : WritesSilver repository (mergedFrame silverLayout existing candidate diff) written
      s s') :
    BuildKeeps repository bronze s s' ∧ (written = months →
      SilverHolds repository s'.silver (mergedFrame silverLayout existing candidate diff) bronze) := by
  have hschema := @schema_mergedFrame candidate existing diff h.schema hcandidate.schema
  have hsorted := hdiff.sorted_mergedFrame h.months.sorted
  have hcolumns := (mem_silverColumns hschema).2.2
  -- rows of the merge have keys of Bronze
  have hkeys : ∀ c ∈ (mergedFrame silverLayout existing candidate diff).rows,
      ∃ r ∈ bronze.rows, toLex (r.seriesId, r.observationDate) = c.key := by
    intro c hc
    rcases hdiff.mem_mergedFrame.mp hc with hchanged | ⟨hold, -⟩
    · exact hcandidate.keys c (hdiff.mem_changed.mp hchanged).1
    · exact h.keys c hold
  constructor
  · obtain ⟨mixed, hmixed, hmixedSchema, hrows⟩ := h.months.mix repository.format.readBack hsorted
      (hschema.trans h.schema.symm) hcolumns (fun _ _ => CanonicalRow.month_eq_of_key_eq)
      hwrites.month
    refine ⟨hwrites.bronze, mixed, hmixed, hmixedSchema.trans hschema, fun c hc => ?_⟩
    rcases (hrows c).mp hc with ⟨-, hc⟩ | ⟨-, hc⟩
    · exact hkeys c hc
    · exact h.keys c hc
  · rintro rfl
    refine ⟨h.months.rewrite repository.format.readBack hsorted
      (fun _ => hschema.trans h.schema.symm) hcolumns (fun c hc => ?_) hwrites.month, hschema, hkeys⟩
    have hout : ∀ c' ∈ diff.changed.rows, c'.month ≠ c.month :=
      fun c' hc' heq => hc ((silverMonths_eq_ok hmonths c.month).mpr ⟨c', hc', heq⟩)
    rw [hdiff.mem_mergedFrame]
    constructor
    · rintro (hchanged | ⟨hold, -⟩)
      · exact absurd rfl (hout c hchanged)
      · exact hold
    · refine fun hold => .inr ⟨hold, fun hmem => ?_⟩
      obtain ⟨c', hc', hkey⟩ := List.mem_map.mp hmem
      exact hout c' hc' (CanonicalRow.month_eq_of_key_eq hkey)

/-- **A build**: where it returns, the rows that Silver holds agree with the candidate;
wherever it stops, it can be resumed. -/
theorem wp_build (hread : repository.uow.readBronze s.bronze contract.key = .ok bronze)
    (h : SilverHolds repository s.silver existing bronze) :
    wp (repository.build contract)
      ⟨fun _ s' => s'.bronze = s.bronze ∧ ∃ candidate merged,
          canonicalizeSilver contract bronze = .ok candidate
          ∧ SilverHolds repository s'.silver merged bronze ∧ SilverAgrees merged candidate,
        fun _ s' => BuildKeeps repository bronze s s',
        fun s' => BuildKeeps repository bronze s s'⟩ s := by
  have hstay : BuildKeeps repository bronze s s := ⟨rfl, existing, h⟩
  unfold SilverRepository.build SilverRepository.upsertMonthly
  refine wp_bind (wp_query (fun read hread' => ?_) (fun _ => hstay) hstay)
  obtain rfl := Except.ok.inj (hread.symm.trans hread')
  refine wp_bind (wp_ofExcept (fun candidate hcandidate => ?_) (fun _ _ => hstay))
  refine wp_bind (wp_query (fun read hread'' => ?_) (fun _ => hstay) hstay)
  obtain rfl := Except.ok.inj (h.read_eq.symm.trans hread'')
  refine wp_bind (wp_require (fun _ => ?_) (fun _ => hstay))
  refine wp_bind (wp_ofExcept (fun merge hmerge => ?_) (fun _ _ => hstay))
  obtain ⟨diff, hdiff, hmerge⟩ := bind_eq_ok.mp hmerge
  obtain rfl := Except.ok.inj hmerge
  have hdiff := isDiff_of_ok hdiff
  have hcanonical := isCanonical_of_ok hcandidate
  have hagrees := agrees_mergedFrame hdiff (fun c hc => by
    obtain ⟨r, hr, hkey⟩ := h.keys c hc
    exact ⟨_, (hcanonical.mem _).mpr ⟨r, hr, rfl⟩, hkey⟩)
  dsimp only
  split_ifs with hchanges
  · refine wp_pure ⟨rfl, candidate, existing, hcandidate, h, ?_⟩
    rwa [mergedFrame, hchanges] at hagrees
  · refine wp_bind (wp_ofExcept (fun months hmonths => ?_) (fun _ _ => hstay))
    refine wp_bind (wp_mono (wp_writeMonths repository _ months s) (fun _ s' hs' => ?_)
      (fun _ s' hs' => ?_) (fun s' hs' => ?_))
    · exact wp_pure ⟨hs'.bronze, candidate, _, hcandidate,
        (h.writesSilver hcanonical hdiff hmonths hs').2 rfl, hagrees⟩
    · obtain ⟨written, -, hwritten⟩ := hs'
      exact (h.writesSilver hcanonical hdiff hmonths hwritten).1
    · obtain ⟨written, -, hwritten⟩ := hs'
      exact (h.writesSilver hcanonical hdiff hmonths hwritten).1

/-- **A build of what has been built writes no file.** -/
theorem wp_build_again (hread : repository.uow.readBronze s.bronze contract.key = .ok bronze)
    (h : SilverHolds repository s.silver kept bronze)
    (hcandidate : canonicalizeSilver contract bronze = .ok candidate)
    (hagrees : SilverAgrees kept candidate) :
    wp (repository.build contract) ⟨fun result s' => s' = s ∧ result.2 = [],
      fun _ s' => s' = s, fun s' => s' = s⟩ s := by
  unfold SilverRepository.build SilverRepository.upsertMonthly
  refine wp_bind (wp_query (fun read hread' => ?_) (fun _ => rfl) rfl)
  obtain rfl := Except.ok.inj (hread.symm.trans hread')
  refine wp_bind (wp_ofExcept (fun candidate' hcandidate' => ?_) (fun _ _ => rfl))
  obtain rfl := Except.ok.inj (hcandidate.symm.trans hcandidate')
  refine wp_bind (wp_query (fun read hread'' => ?_) (fun _ => rfl) rfl)
  obtain rfl := Except.ok.inj (h.read_eq.symm.trans hread'')
  refine wp_bind (wp_require (fun _ => ?_) (fun _ => rfl))
  refine wp_bind (wp_ofExcept (fun merge hmerge => ?_) (fun _ _ => rfl))
  obtain ⟨diff, hdiff, hmerge⟩ := bind_eq_ok.mp hmerge
  obtain rfl := Except.ok.inj hmerge
  dsimp only
  rw [if_pos (hagrees.hasChanges (isDiff_of_ok hdiff))]
  exact wp_pure ⟨rfl, rfl⟩

/-- **A build goes through** when nothing fails, if its Bronze can be canonicalized. -/
theorem succeeds_build (hread : repository.uow.readBronze s.bronze contract.key = .ok bronze)
    (h : SilverHolds repository s.silver existing bronze)
    (hcandidate : canonicalizeSilver contract bronze = .ok candidate)
    (hdates : ∀ r ∈ bronze.rows, dateMin ≤ r.observationDate ∧ r.observationDate ≤ dateMax) :
    Succeeds (repository.build contract) s (fun _ _ => True) := by
  have hcanonical := isCanonical_of_ok hcandidate
  have hcolumns := mem_silverColumns hcanonical.schema
  obtain ⟨diff, hdiff⟩ : ∃ diff, diffFrames silverLayout existing candidate = .ok diff :=
    diffFrames_isOk (List.cons_ne_nil _ _) hcolumns.2.2 (h.schema.trans hcanonical.schema.symm)
      h.months.sorted.nodup hcanonical.sorted.nodup
  obtain ⟨months, hmonths⟩ : ∃ months,
      SilverRepository.changedMonths diff.changed = .ok months := by
    have hload : ∀ d ∈ diff.changed.rows.map (·.observationDate), loadDate d = .ok d := by
      intro d hd
      obtain ⟨c, hc, rfl⟩ := List.mem_map.mp hd
      obtain ⟨r, hr, rfl⟩ := (hcanonical.mem c).mp ((isDiff_of_ok hdiff).mem_changed.mp hc).1
      exact loadDate_of_range (hdates r hr)
    obtain ⟨dates, hdates, -⟩ := exists_mapM_eq_ok (R := fun _ _ => True)
      (fun d hd => ⟨d, hload d hd, trivial⟩)
    exact ⟨_, bind_eq_ok.mpr ⟨dates, hdates, rfl⟩⟩
  unfold SilverRepository.build SilverRepository.upsertMonthly
  refine succeeds_bind (succeeds_query hread ?_)
  refine succeeds_bind (succeeds_ofExcept hcandidate ?_)
  refine succeeds_bind (succeeds_query h.read_eq ?_)
  refine succeeds_bind (succeeds_require hcolumns.2.1 ?_)
  refine succeeds_bind (succeeds_ofExcept (bind_eq_ok.mpr ⟨diff, hdiff, rfl⟩) ?_)
  dsimp only
  split_ifs
  · exact succeeds_pure trivial
  · refine succeeds_bind (succeeds_ofExcept hmonths ?_)
    refine succeeds_bind (succeeds_forEach (fun _ _ => True) trivial (fun _ _ _ _ _ => ?_)
      (fun _ _ => succeeds_pure trivial))
    exact succeeds_write trivial

end Builds

/-! ## Runs -/

/-- **One step of a series**: a run of Bronze that ends, or a build of Silver that ends or
stops anywhere. -/
inductive SeriesStep (orchestrator : BronzeOrchestrator) (format : FileFormat CanonicalFrame)
    (contract : SeriesContract) : SeriesLake → SeriesLake → Prop
  | bronze {s : SeriesLake} {lake : BronzeLake}
      (h : BronzeStep orchestrator contract s.bronze lake) :
      SeriesStep orchestrator format contract s { s with bronze := lake }
  | build (s : SeriesLake) (faults : List (Fault PyError)) :
      SeriesStep orchestrator format contract s
        (SilverRepository.build ⟨orchestrator.uow, format⟩ contract s faults).2.1

/-- What is true of a series: its Bronze is in order, and its Silver has no other keys. -/
structure SeriesInvariant (orchestrator : BronzeOrchestrator) (format : FileFormat CanonicalFrame)
    (contract : SeriesContract) (s : SeriesLake) (bronze : BronzeFrame) (kept : CanonicalFrame) :
    Prop where
  stored : StoreInvariant orchestrator contract s.bronze bronze
  silver : SilverHolds ⟨orchestrator.uow, format⟩ s.silver kept bronze

section Runs

variable {orchestrator : BronzeOrchestrator} {format : FileFormat CanonicalFrame}
  {contract : SeriesContract} {s s' : SeriesLake} {bronze : BronzeFrame} {kept : CanonicalFrame}

/-- What a build reads of Bronze has the rows that Bronze holds. -/
theorem StoreInvariant.readBronze {lake : BronzeLake}
    (h : StoreInvariant orchestrator contract lake bronze) :
    ∃ read, orchestrator.uow.readBronze lake contract.key = .ok read ∧ read.rows = bronze.rows := by
  refine ⟨_, h.holds.readBronze_eq, ?_⟩
  split_ifs with hfiles
  · exact (h.holds.months.rows_eq_nil hfiles).symm
  · rfl

/-- Silver is about the rows of Bronze. -/
theorem SilverHolds.congr {repository : SilverRepository} {silver : MonthFiles}
    {bronze' : BronzeFrame} (h : SilverHolds repository silver kept bronze)
    (hrows : bronze'.rows = bronze.rows) : SilverHolds repository silver kept bronze' :=
  h.mono (fun r hr => ⟨r, hrows ▸ hr, rfl⟩)

/-- **A step keeps the invariant.** -/
theorem SeriesInvariant.step
    (hregistered : orchestrator.seriesRegistry contract.seriesId = some contract)
    (h : SeriesInvariant orchestrator format contract s bronze kept)
    (hstep : SeriesStep orchestrator format contract s s') :
    ∃ bronze' kept', SeriesInvariant orchestrator format contract s' bronze' kept' := by
  cases hstep with
  | bronze hrun =>
    obtain ⟨bronze', hbronze', hkeys⟩ := h.stored.step hregistered hrun
    exact ⟨bronze', kept, hbronze', h.silver.mono hkeys⟩
  | build faults =>
    obtain ⟨read, hread, hrows⟩ := h.stored.readBronze
    have hend := wp_build hread (h.silver.congr hrows) faults
    have hkeeps : BuildKeeps ⟨orchestrator.uow, format⟩ read s
        (SilverRepository.build ⟨orchestrator.uow, format⟩ contract s faults).2.1 := by
      generalize SilverRepository.build ⟨orchestrator.uow, format⟩ contract s faults = end_ at hend
      rcases end_ with ⟨result | e | _, s', rest⟩
      · obtain ⟨hlake, candidate, merged, -, hmerged, -⟩ := hend
        exact ⟨hlake, merged, hmerged⟩
      · exact hend
      · exact hend
    obtain ⟨hlake, kept', hkept'⟩ := hkeeps
    exact ⟨bronze, kept', hlake ▸ h.stored, hkept'.congr hrows.symm⟩

/-- So do many steps, from empty stores. -/
theorem seriesInvariant_of_reachable
    (hregistered : orchestrator.seriesRegistry contract.seriesId = some contract)
    (hreach : Relation.ReflTransGen (SeriesStep orchestrator format contract) ⟨.empty, .empty⟩ s) :
    ∃ bronze kept, SeriesInvariant orchestrator format contract s bronze kept := by
  induction hreach with
  | refl =>
    exact ⟨_, _, storeInvariant_empty orchestrator contract, silverHolds_empty _ _⟩
  | tail _ hstep ih =>
    obtain ⟨bronze, kept, hkept⟩ := ih
    exact hkept.step hregistered hstep

/-- Two frames are equal as data frames compare: they have one schema, and the same rows in
the same order, whose cells are equal or both missing. -/
structure Frame.Equals (kept candidate : CanonicalFrame) : Prop where
  schema : kept.schema = candidate.schema
  rows : List.Forall₂ (fun c c' => c.key = c'.key ∧ c'.samePayload c = true) kept.rows candidate.rows

/-- **Silver converges.** After whatever runs of Bronze and builds of Silver, stopped
wherever, a build that returns has left what the whole Bronze canonicalizes to: it is read
back as a frame that equals the canonical one, with one row for each key. Another build,
whatever fails in it, writes no file; and builds return if nothing fails and Bronze can be
canonicalized. -/
theorem silver_converges
    (hregistered : orchestrator.seriesRegistry contract.seriesId = some contract)
    (hreach : Relation.ReflTransGen (SeriesStep orchestrator format contract) ⟨.empty, .empty⟩ s) :
    (∀ faults result s' rest, SilverRepository.build ⟨orchestrator.uow, format⟩ contract s faults
        = (.returned result, s', rest) →
      s'.bronze = s.bronze
      ∧ (∃ candidate kept,
        (orchestrator.uow.readBronze s'.bronze contract.key >>= canonicalizeSilver contract)
          = .ok candidate
        ∧ SilverRepository.read ⟨orchestrator.uow, format⟩ s'.silver = .ok kept
        ∧ kept.Equals candidate ∧ (kept.rows.map CanonicalRow.key).Nodup)
      ∧ wp (SilverRepository.build ⟨orchestrator.uow, format⟩ contract)
        ⟨fun again s'' => s'' = s' ∧ again.2 = [], fun _ s'' => s'' = s', fun s'' => s'' = s'⟩ s')
    ∧ ∀ candidate, (orchestrator.uow.readBronze s.bronze contract.key
        >>= canonicalizeSilver contract) = .ok candidate →
      Succeeds (SilverRepository.build ⟨orchestrator.uow, format⟩ contract) s (fun _ _ => True) := by
  obtain ⟨bronze, existing, hinvariant⟩ := seriesInvariant_of_reachable hregistered hreach
  obtain ⟨read, hread, hrows⟩ := hinvariant.stored.readBronze
  have hsilver := hinvariant.silver.congr hrows
  constructor
  · intro faults result s' rest hbuild
    have hend := wp_build hread hsilver faults
    rw [hbuild] at hend
    obtain ⟨hlake, candidate, merged, hcandidate, hmerged, hagrees⟩ := hend
    have hread' : orchestrator.uow.readBronze s'.bronze contract.key = .ok read := hlake ▸ hread
    have hcanonical := isCanonical_of_ok hcandidate
    exact ⟨hlake, ⟨candidate, merged, bind_eq_ok.mpr ⟨read, hread', hcandidate⟩, hmerged.read_eq,
      ⟨hmerged.schema.trans hcanonical.schema.symm,
        hagrees.forall₂ hmerged.months.sorted hcanonical.sorted⟩, hmerged.months.sorted.nodup⟩,
      wp_build_again hread' hmerged hcandidate hagrees⟩
  · intro candidate hcandidate
    obtain ⟨read', hread', hcandidate⟩ := bind_eq_ok.mp hcandidate
    obtain rfl := Except.ok.inj (hread.symm.trans hread')
    exact succeeds_build hread hsilver hcandidate
      (fun r hr => hinvariant.stored.holds.dates r (hrows ▸ hr))

end Runs

/-! ### The first build -/

theorem canonicalizeSilver_estr : canonicalizeSilver Series.estr.contract (estrFrame 0)
    = .ok ⟨silverSchema, [silverRow Series.estr.contract (estrRow 0)]⟩ := rfl

/-- A first commit of one row, and the build of it. -/
theorem silver_converges_estr : ∃ (uow : BronzeUnitOfWork) (format : FileFormat CanonicalFrame)
    (s s' : SeriesLake) (result : FrameDiff CanonicalRow × List Month) (kept : CanonicalFrame),
    Relation.ReflTransGen (SeriesStep (seriesOrchestrator .estr uow) format Series.estr.contract)
        ⟨.empty, .empty⟩ s
      ∧ SilverRepository.build ⟨uow, format⟩ Series.estr.contract s [] = (.returned result, s', [])
      ∧ SilverRepository.read ⟨uow, format⟩ s'.silver = .ok kept
      ∧ kept.Equals ⟨silverSchema, [silverRow Series.estr.contract (estrRow 0)]⟩ := by
  obtain ⟨uow⟩ := BronzeUnitOfWork.nonempty
  obtain ⟨format⟩ := FileFormat.nonempty CanonicalFrame
  have hdates : ∀ r ∈ (estrFrame 0).rows,
      dateMin ≤ r.observationDate ∧ r.observationDate ≤ dateMax := by
    intro r hr
    obtain rfl := List.mem_singleton.mp hr
    exact epoch_inRange
  obtain ⟨result, lake, hrun, run, record, prepared, next, hcontract, hcommitted⟩ :=
    succeeds_bootstrapCall .estr uow (fun _ _ => .ok (estrFrame 0)) rfl rfl
      (List.nodup_singleton _) hdates
  have hreach : Relation.ReflTransGen (SeriesStep (seriesOrchestrator .estr uow) format
      Series.estr.contract) ⟨.empty, .empty⟩ ⟨lake, .empty⟩ :=
    .single (.bronze ⟨_, _, _, answersInSchema_const rfl, hrun, nofun⟩)
  have hread : uow.readBronze lake Series.estr.contract.key = .ok (estrFrame 0) :=
    hcontract ▸ hcommitted.readBronze_first rfl (by rw [hcontract]; rfl)
  obtain ⟨hbuilds, hsucceeds⟩ :=
    @silver_converges (seriesOrchestrator .estr uow) format Series.estr.contract _ rfl hreach
  obtain ⟨built, s', hbuilt, -⟩ :=
    hsucceeds _ (bind_eq_ok.mpr ⟨_, hread, canonicalizeSilver_estr⟩)
  obtain ⟨hlake, ⟨candidate, kept, hcandidate, hkept, hequals, -⟩, -⟩ := hbuilds _ _ _ _ hbuilt
  have hcanonical : candidate = ⟨silverSchema, [silverRow Series.estr.contract (estrRow 0)]⟩ := by
    rw [hlake] at hcandidate
    exact Except.ok.inj (hcandidate.symm.trans
      (bind_eq_ok.mpr ⟨_, hread, canonicalizeSilver_estr⟩))
  exact ⟨uow, format, _, s', built, kept, hreach, hbuilt, hkept, hcanonical ▸ hequals⟩
