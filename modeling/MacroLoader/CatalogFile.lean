import MacroLoader.GoldRetention

/-!
# The catalog as a Parquet file

A record is stored as a row of a typed frame. Every column of the frame may be null,
its integers have 64 bits, its date-times are instants, and a status is a text. What
is written is validated as records first, and what is read is decoded and validated
again in the same way. So the file holds what was written, in the order of the rows,
and whatever can be read can be written.

The integers are the one thing that a record can have and a row cannot: a record with
an integer of more than 64 bits passes the rules and is rejected by the frame.
-/

open Program

/-! ## Rows and frames -/

/-- **A row of the frame**, by the columns of `GOLD_CATALOG_SCHEMA`. -/
structure CatalogRow where
  datasetId : Option String
  buildId : Option String
  status : Option String
  current : Option Bool
  startedAtUtc : Option Timestamp
  completedAtUtc : Option Timestamp
  schemaVersion : Option ℤ
  featureVersion : Option ℤ
  minTimestamp : Option Timestamp
  maxTimestamp : Option Timestamp
  rowCount : Option ℤ
  dataPath : Option String
  buildManifestPath : Option String
  plotPath : Option String
  prunedAtUtc : Option Timestamp
  deriving DecidableEq

/-- The integers of a 64-bit column. -/
def fitsInt64 (n : ℤ) : Bool := decide (-2 ^ 63 ≤ n) && decide (n < 2 ^ 63)

/-- The integers of a row fit their columns. -/
def CatalogRow.fits (row : CatalogRow) : Bool :=
  row.schemaVersion.all fitsInt64 && row.featureVersion.all fitsInt64 && row.rowCount.all fitsInt64

/-- **A frame of the schema.** -/
structure CatalogFrame where
  rows : List CatalogRow
  fits : rows.all CatalogRow.fits = true

/-- `pl.DataFrame(rows, schema=GOLD_CATALOG_SCHEMA)`. -/
def CatalogFrame.ofRows (rows : List CatalogRow) : Except PyError CatalogFrame :=
  if h : rows.all CatalogRow.fits = true then .ok ⟨rows, h⟩
  else .error (.overflowError "integer does not fit an Int64 column")

/-- The order of the rows. A frame of records has a start and a build id in each. -/
def CatalogRow.le (a b : CatalogRow) : Bool :=
  let (start, id) := (a.startedAtUtc.getD 0, a.buildId.getD "")
  let (start', id') := (b.startedAtUtc.getD 0, b.buildId.getD "")
  decide (start < start') || (start == start' && decide (id ≤ id'))

/-- `frame.sort(["started_at_utc", "build_id"])`. -/
def CatalogFrame.sort (frame : CatalogFrame) : CatalogFrame where
  rows := frame.rows.insertionSort (fun a b => CatalogRow.le a b)
  fits := by
    rw [((List.perm_insertionSort _ frame.rows).all_eq : _ = frame.rows.all CatalogRow.fits)]
    exact frame.fits

/-! ## Encoding and decoding -/

namespace GoldCatalogRecord

/-- The row of a record. -/
def toRow (r : GoldCatalogRecord) : CatalogRow where
  datasetId := some r.datasetId
  buildId := some r.buildId
  status := some (GoldProgram.statusValue r.status)
  current := some r.current
  startedAtUtc := some r.startedAtUtc.instant
  completedAtUtc := r.completedAtUtc.map (·.instant)
  schemaVersion := some r.schemaVersion
  featureVersion := some r.featureVersion
  minTimestamp := r.minTimestamp.map (·.instant)
  maxTimestamp := r.maxTimestamp.map (·.instant)
  rowCount := r.rowCount
  dataPath := r.dataPath
  buildManifestPath := r.buildManifestPath
  plotPath := r.plotPath
  prunedAtUtc := r.prunedAtUtc.map (·.instant)

/-- The integers of a record fit the columns of the frame. -/
def Fits (r : GoldCatalogRecord) : Prop :=
  fitsInt64 r.schemaVersion = true ∧ fitsInt64 r.featureVersion = true
    ∧ ∀ n ∈ r.rowCount, fitsInt64 n = true

end GoldCatalogRecord

/-- `str(value)` of a text that may be null. -/
def pyStr (text : Option String) : String := text.getD "None"

/-- `GoldBuildStatus(text)`. -/
def parseStatus : String → Except PyError GoldBuildStatus
  | "building" => .ok .building
  | "complete" => .ok .complete
  | "failed" => .ok .failed
  | text => .error (.valueError ("'" ++ text ++ "' is not a valid GoldBuildStatus"))

/-- `_int` of a row. -/
def rowInt (name : String) : Option ℤ → Except PyError ℤ
  | some n => .ok n
  | none => .error (.typeError ("catalog " ++ name ++ " must be int"))

/-- `_record`. -/
def CatalogRow.record (row : CatalogRow) : Except PyError GoldCatalogRecord := do
  let status ← parseStatus (pyStr row.status)
  let startedAtUtc ← match row.startedAtUtc with
    | some t => .ok t
    | none => .error (.valueError "catalog started_at_utc cannot be null")
  let schemaVersion ← rowInt "schema_version" row.schemaVersion
  let featureVersion ← rowInt "feature_version" row.featureVersion
  return {
    datasetId := pyStr row.datasetId
    buildId := pyStr row.buildId
    status := status
    current := row.current.getD false
    startedAtUtc := .utc startedAtUtc
    completedAtUtc := row.completedAtUtc.map PyDatetime.utc
    schemaVersion := schemaVersion
    featureVersion := featureVersion
    minTimestamp := row.minTimestamp.map PyDatetime.utc
    maxTimestamp := row.maxTimestamp.map PyDatetime.utc
    rowCount := row.rowCount
    dataPath := row.dataPath
    buildManifestPath := row.buildManifestPath
    plotPath := row.plotPath
    prunedAtUtc := row.prunedAtUtc.map PyDatetime.utc }

/-! ## The repository -/

/-- `_frame`: the records are checked, and stored in rows that are sorted. -/
def typedCatalogFrame (records : List GoldCatalogRecord) : Except PyError CatalogFrame := do
  let _ ← catalogFrame records
  let frame ← CatalogFrame.ofRows (records.map (·.toRow))
  return frame.sort

/-- A Parquet file: a frame of the schema, or one of another schema. -/
inductive CatalogFile
  | typed (frame : CatalogFrame)
  | otherSchema

/-- **`GoldCatalogRepository.read`.** -/
def readCatalogFile : Option CatalogFile → Except PyError (List GoldCatalogRecord)
  | none => .ok []
  | some .otherSchema => .error (.valueError "invalid Gold catalog schema")
  | some (.typed frame) => do
    let records ← frame.rows.mapM CatalogRow.record
    let _ ← typedCatalogFrame records
    return records

/-- **`GoldCatalogRepository.replace`.** -/
def replaceCatalogFile (records : List GoldCatalogRecord) :
    Program (Option CatalogFile) PyError Unit := do
  let frame ← ofExcept (typedCatalogFrame records)
  -- `atomic_write_parquet`
  write (fun _ => some (.typed frame))

/-! ## A record and its row -/

section Records

variable {records : List GoldCatalogRecord} {r : GoldCatalogRecord}

theorem parseStatus_statusValue (status : GoldBuildStatus) :
    parseStatus (GoldProgram.statusValue status) = .ok status := by cases status <;> rfl

theorem toRow_fits : r.toRow.fits = true ↔ r.Fits := by
  rw [CatalogRow.fits, Bool.and_eq_true, Bool.and_eq_true, and_assoc]
  refine and_congr Iff.rfl (and_congr Iff.rfl ?_)
  show r.rowCount.all fitsInt64 = true ↔ _
  cases r.rowCount <;> simp

/-- **A row is decoded to the record it was made of**, if its date-times are aware. -/
theorem record_toRow (h : ∀ field ∈ r.datetimes, field.2.all (·.isAware) = true) :
    r.toRow.record = .ok r := by
  have haware : ∀ value : PyDatetime, value.isAware = true →
      PyDatetime.utc value.instant = value := by
    intro value hvalue
    rw [PyDatetime.utc, ← hvalue]
  have hoption : ∀ value : Option PyDatetime, value.all (·.isAware) = true →
      (value.map (·.instant)).map PyDatetime.utc = value := by
    intro value hvalue
    cases value with
    | none => rfl
    | some value => exact congrArg some (haware value hvalue)
  simp only [GoldCatalogRecord.datetimes, List.forall_mem_cons] at h
  obtain ⟨hstarted, hcompleted, hmin, hmax, hpruned, -⟩ := h
  have hrecord : r.toRow.record = .ok { r with
      startedAtUtc := .utc r.startedAtUtc.instant
      completedAtUtc := (r.completedAtUtc.map (·.instant)).map PyDatetime.utc
      minTimestamp := (r.minTimestamp.map (·.instant)).map PyDatetime.utc
      maxTimestamp := (r.maxTimestamp.map (·.instant)).map PyDatetime.utc
      prunedAtUtc := (r.prunedAtUtc.map (·.instant)).map PyDatetime.utc } := by
    show (parseStatus (GoldProgram.statusValue r.status) >>= _) = _
    rw [parseStatus_statusValue]
    rfl
  rw [hrecord, haware _ hstarted, hoption _ hcompleted, hoption _ hmin, hoption _ hmax,
    hoption _ hpruned]

/-- The order of the rows is the one of the records. -/
theorem rows_sort {frame : CatalogFrame} (h : frame.rows = records.map (·.toRow)) :
    frame.sort.rows
      = (records.insertionSort (fun a b => GoldCatalogRecord.rowLE a b)).map (·.toRow) := by
  show frame.rows.insertionSort (fun a b => CatalogRow.le a b) = _
  rw [h, List.map_insertionSort (fun a b => GoldCatalogRecord.rowLE a b)
    (fun a b => CatalogRow.le a b) (·.toRow) records (fun a _ b _ => Iff.rfl)]

/-! ## What is written and what is read -/

/-- **The frame of some records** exists if they pass the rules and fit, and has their
rows in order. -/
theorem typedCatalogFrame_eq_ok {frame : CatalogFrame} :
    typedCatalogFrame records = .ok frame
      ↔ WellFormedCatalog records ∧ (∀ r ∈ records, r.Fits)
        ∧ frame.rows
          = (records.insertionSort (fun a b => GoldCatalogRecord.rowLE a b)).map (·.toRow) := by
  have hfits : (records.map (·.toRow)).all CatalogRow.fits = true ↔ ∀ r ∈ records, r.Fits := by
    rw [List.all_map, List.all_eq_true]
    exact forall₂_congr (fun r _ => toRow_fits)
  constructor
  · intro h
    obtain ⟨sorted, hsorted, h⟩ := bind_eq_ok.mp h
    obtain ⟨unsorted, hunsorted, h⟩ := bind_eq_ok.mp h
    obtain rfl : unsorted.sort = frame := Except.ok.inj h
    rw [CatalogFrame.ofRows] at hunsorted
    split_ifs at hunsorted with hall
    obtain rfl := Except.ok.inj hunsorted
    exact ⟨(catalogFrame_eq_ok.mp hsorted).1, hfits.mp hall, rows_sort rfl⟩
  · intro ⟨hwf, hall, hrows⟩
    refine bind_eq_ok.mpr ⟨_, catalogFrame_eq_ok.mpr ⟨hwf, rfl⟩, bind_eq_ok.mpr
      ⟨⟨records.map (·.toRow), hfits.mpr hall⟩, ?_, congrArg Except.ok ?_⟩⟩
    · rw [CatalogFrame.ofRows, dif_pos (hfits.mpr hall)]
    have hsort : (CatalogFrame.sort ⟨records.map (·.toRow), hfits.mpr hall⟩).rows = frame.rows :=
      (rows_sort rfl).trans hrows.symm
    cases frame
    cases hsort
    rfl

theorem fits_of_rows {frame : CatalogFrame} (h : frame.rows = records.map (·.toRow)) :
    ∀ r ∈ records, r.Fits := by
  have hfits := frame.fits
  rw [h, List.all_map, List.all_eq_true] at hfits
  exact fun r hr => toRow_fits.mp (hfits r hr)

/-- **What is read of the rows of some records** is the records, if they pass the rules. -/
theorem readCatalogFile_eq {frame : CatalogFrame} (h : frame.rows = records.map (·.toRow))
    (haware : ∀ r ∈ records, ∀ field ∈ r.datetimes, field.2.all (·.isAware) = true) :
    (WellFormedCatalog records → readCatalogFile (some (.typed frame)) = .ok records)
      ∧ (¬ WellFormedCatalog records →
        ∃ e, readCatalogFile (some (.typed frame)) = .error e) := by
  have hdecode : frame.rows.mapM CatalogRow.record = .ok records := by
    rw [h, List.mapM_map]
    exact (GoldProgram.mapM_eq_ok_map (fun r hr => record_toRow (haware r hr))).trans
      (congrArg Except.ok (List.map_id records))
  have hread : readCatalogFile (some (.typed frame))
      = typedCatalogFrame records >>= fun _ => .ok records := by
    show (frame.rows.mapM CatalogRow.record >>= _) = _
    rw [hdecode]
    rfl
  refine ⟨fun hwf => ?_, fun hwf => ?_⟩
  · rw [hread]
    have hrows : (records.insertionSort (fun a b => GoldCatalogRecord.rowLE a b)).map (·.toRow)
        = frame.sort.rows := (rows_sort h).symm
    exact bind_eq_ok.mpr ⟨frame.sort, typedCatalogFrame_eq_ok.mpr
      ⟨hwf, fits_of_rows h, hrows.symm⟩, rfl⟩
  · rw [hread]
    cases hframe : typedCatalogFrame records with
    | error e => exact ⟨e, rfl⟩
    | ok frame' => exact absurd (typedCatalogFrame_eq_ok.mp hframe).1 hwf

end Records

/-! ## The round trip -/

/-- The order of the file is total and transitive. -/
instance : Std.Total (fun a b : GoldCatalogRecord => GoldCatalogRecord.rowLE a b = true) where
  total a b := by
    simp only [GoldCatalogRecord.rowLE, Bool.or_eq_true, Bool.and_eq_true, decide_eq_true_eq,
      beq_iff_eq]
    rcases lt_trichotomy a.startedAtUtc.instant b.startedAtUtc.instant with h | h | h
    · exact .inl (.inl h)
    · exact (le_total a.buildId b.buildId).imp (fun hid => .inr ⟨h, hid⟩)
        (fun hid => .inr ⟨h.symm, hid⟩)
    · exact .inr (.inl h)

instance : IsTrans GoldCatalogRecord (fun a b => GoldCatalogRecord.rowLE a b = true) where
  trans a b c := by
    simp only [GoldCatalogRecord.rowLE, Bool.or_eq_true, Bool.and_eq_true, decide_eq_true_eq,
      beq_iff_eq]
    rintro (hab | ⟨hab, hid⟩) (hbc | ⟨hbc, hid'⟩)
    · exact .inl (hab.trans hbc)
    · exact .inl (hbc ▸ hab)
    · exact .inl (hab ▸ hbc)
    · exact .inr ⟨hab.trans hbc, hid.trans hid'⟩

/-- **Records in the order of the file.** -/
def sortedRecords (records : List GoldCatalogRecord) : List GoldCatalogRecord :=
  records.insertionSort (fun a b => GoldCatalogRecord.rowLE a b)

theorem wellFormed_sortedRecords {records : List GoldCatalogRecord} (h : WellFormedCatalog records) :
    WellFormedCatalog (sortedRecords records) := h.of_perm (List.perm_insertionSort _ records)

/-- **What can be read can be written.** -/
theorem readCatalogFile_wellFormed {records : List GoldCatalogRecord} {file : Option CatalogFile}
    (h : readCatalogFile file = .ok records) :
    WellFormedCatalog records ∧ ∀ r ∈ records, r.Fits := by
  cases file with
  | none =>
    cases h
    exact ⟨.nil, fun r hr => nomatch hr⟩
  | some file =>
    cases file with
    | otherSchema => cases h
    | typed frame =>
      obtain ⟨decoded, -, hchecked⟩ := bind_eq_ok.mp h
      obtain ⟨frame', hframe, hdecoded⟩ := bind_eq_ok.mp hchecked
      obtain rfl := Except.ok.inj hdecoded
      obtain ⟨hwf, hfits, -⟩ := typedCatalogFrame_eq_ok.mp hframe
      exact ⟨hwf, hfits⟩

/-- **The catalog can be read as it was written.** Records that pass the rules, and whose
integers have 64 bits, are written and read back field for field, in order. All others
are rejected and leave the file as it was. The rows of records are read if the records
pass the same rules, and what can be read can be written. -/
theorem catalog_round_trip (records : List GoldCatalogRecord) (file : Option CatalogFile) :
    (WellFormedCatalog records → (∀ r ∈ records, r.Fits) → ∃ written,
      replaceCatalogFile records file [] = (.returned (), written, [])
        ∧ readCatalogFile written = .ok (sortedRecords records))
    ∧ ((sortedRecords records).Perm records
      ∧ (sortedRecords records).Pairwise (fun a b => GoldCatalogRecord.rowLE a b = true))
    ∧ (¬ (WellFormedCatalog records ∧ ∀ r ∈ records, r.Fits) → ∀ faults,
      (∃ e, (replaceCatalogFile records file faults).1 = .raised e)
        ∧ (replaceCatalogFile records file faults).2.1 = file)
    ∧ ((∀ r ∈ records, ∀ field ∈ r.datetimes, field.2.all (·.isAware) = true) →
      ∀ frame : CatalogFrame, frame.rows = records.map (·.toRow) →
        (WellFormedCatalog records → readCatalogFile (some (.typed frame)) = .ok records)
          ∧ (¬ WellFormedCatalog records → ∃ e, readCatalogFile (some (.typed frame)) = .error e))
    ∧ (readCatalogFile file = .ok records →
      WellFormedCatalog records ∧ ∀ r ∈ records, r.Fits) := by
  refine ⟨fun hwf hfits => ?_, ⟨List.perm_insertionSort _ records,
    List.pairwise_insertionSort _ records⟩, fun hrejected faults => ?_,
    fun haware frame hrows => readCatalogFile_eq hrows haware, readCatalogFile_wellFormed⟩
  · have hsorted := wellFormed_sortedRecords hwf
    have hall : ((sortedRecords records).map (·.toRow)).all CatalogRow.fits = true := by
      rw [List.all_map, List.all_eq_true]
      exact fun r hr => toRow_fits.mpr (hfits r ((List.mem_insertionSort _).mp hr))
    have hframe := typedCatalogFrame_eq_ok.mpr
      (⟨hwf, hfits, rfl⟩ : WellFormedCatalog records ∧ (∀ r ∈ records, r.Fits)
        ∧ (⟨(sortedRecords records).map (·.toRow), hall⟩ : CatalogFrame).rows = _)
    refine ⟨some (.typed ⟨(sortedRecords records).map (·.toRow), hall⟩), ?_,
      (readCatalogFile_eq rfl (fun r hr => (hsorted.records_wellFormed r hr).aware)).1 hsorted⟩
    rw [replaceCatalogFile, hframe]
    rfl
  · cases hframe : typedCatalogFrame records with
    | ok frame =>
      obtain ⟨hwf, hfits, -⟩ := typedCatalogFrame_eq_ok.mp hframe
      exact absurd ⟨hwf, hfits⟩ hrejected
    | error e =>
      rw [replaceCatalogFile, hframe]
      exact ⟨⟨e, rfl⟩, rfl⟩

/-- A failed build that reports more rows than a column can hold. -/
def oversizedBuild : GoldCatalogRecord where
  datasetId := "gold"
  buildId := "19700101T000000Z"
  status := .failed
  current := false
  startedAtUtc := .utc 0
  completedAtUtc := none
  schemaVersion := 1
  featureVersion := 1
  minTimestamp := none
  maxTimestamp := none
  rowCount := some (2 ^ 63)
  dataPath := none
  buildManifestPath := none
  plotPath := none
  prunedAtUtc := none

/-- It passes the rules and is not written. -/
theorem oversized_rejected : WellFormedCatalog [oversizedBuild]
    ∧ (replaceCatalogFile [oversizedBuild] none []).1
      = .raised (.overflowError "integer does not fit an Int64 column") :=
  ⟨(catalogFrame_eq_ok.mp (show catalogFrame [oversizedBuild] = .ok [oversizedBuild] from rfl)).1,
    rfl⟩

/-- A complete build, which is current. -/
def completeBuild : GoldCatalogRecord :=
  { oversizedBuild with
    buildId := "19700101T000010Z"
    status := .complete
    current := true
    startedAtUtc := .utc 10000000
    completedAtUtc := some (.utc 11000000)
    minTimestamp := some (.utc 0)
    maxTimestamp := some (.utc 86400000000)
    rowCount := some 2
    dataPath := some (artifactPath .data "19700101T000010Z")
    buildManifestPath := some (artifactPath .manifest "19700101T000010Z")
    plotPath := some (artifactPath .plot "19700101T000010Z") }

/-- One that has been pruned, with as many rows as a column can hold. -/
def prunedBuild : GoldCatalogRecord :=
  { oversizedBuild with
    buildId := "19700101T000005Z"
    status := .complete
    startedAtUtc := .utc 5000000
    completedAtUtc := some (.utc 6000000)
    rowCount := some (2 ^ 63 - 1)
    prunedAtUtc := some (.utc 20000000) }

/-- One that has failed. -/
def failedBuild : GoldCatalogRecord := { oversizedBuild with rowCount := none }

/-- The three are written, and read back in their order. -/
theorem catalog_round_trip_largest : ∃ written,
    replaceCatalogFile [completeBuild, prunedBuild, failedBuild] none [] = (.returned (), written, [])
      ∧ readCatalogFile written = .ok [failedBuild, prunedBuild, completeBuild] := by
  have hwf : WellFormedCatalog [completeBuild, prunedBuild, failedBuild] := (catalogFrame_eq_ok.mp
    (show catalogFrame [completeBuild, prunedBuild, failedBuild]
      = .ok [failedBuild, prunedBuild, completeBuild] from rfl)).1
  have hfits : ∀ r ∈ [completeBuild, prunedBuild, failedBuild], r.Fits := by
    simp only [List.forall_mem_cons, List.not_mem_nil, IsEmpty.forall_iff, implies_true, and_true]
    exact ⟨⟨rfl, rfl, fun n hn => by obtain rfl := Option.some.inj hn; rfl⟩,
      ⟨rfl, rfl, fun n hn => by obtain rfl := Option.some.inj hn; rfl⟩,
      rfl, rfl, fun n hn => by cases hn⟩
  obtain ⟨written, hwritten, hread⟩ :=
    (catalog_round_trip [completeBuild, prunedBuild, failedBuild] none).1 hwf hfits
  exact ⟨written, hwritten, hread.trans rfl⟩
