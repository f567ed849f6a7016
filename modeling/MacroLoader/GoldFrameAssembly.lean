import MacroLoader.GoldManifest
import MacroLoader.Silver

/-!
# Assembling a Gold frame

Gold is the outer join of the Silver series on the date. Nothing is filled or
carried forward: a cell is what its series has on the date, or null. The join is
made one series after the other, as polars makes it, and what may go wrong on
the way – a null date, which joins with nothing, or an infinite bar field –
is looked for in the result.

With the frame goes its provenance: for each series the count of its rows, its
first and last date, and a digest of the rows themselves.
-/

/-- `_validate_silver`: the rows of a series by date, if the frame is one of the
series. -/
def validateSilver (seriesId : String) (frame : SilverFrame) :
    Except PyError (List SilverRow) := do
  check (frame.hasSilverSchema = true) (.valueError (seriesId ++ " Silver schema mismatch"))
  check (∀ r ∈ frame.rows, r.seriesId = some seriesId)
    (.valueError (seriesId ++ " Silver identity mismatch"))
  check (∀ r ∈ frame.rows, r.value.isSome = true)
    (.valueError (seriesId ++ " Silver value cannot be null"))
  check (∀ r ∈ frame.rows, r.value.all (·.isFinite) = true)
    (.valueError (seriesId ++ " Silver value must be finite"))
  check (frame.rows.map (·.observationDate)).Nodup
    (.valueError (seriesId ++ " Silver observation dates must be unique"))
  return frame.sorted

/-! ## The join -/

/-- A row of a frame that is being joined. Columns that have not been joined yet are
null. -/
abbrev FrameRow := Option Timestamp × WideRow Float64

/-- The first instant of a date, in UTC. -/
def instantOfDate (d : Date) : Timestamp := d * dayMicroseconds

/-- The columns of Gold that a row of a series fills: its level, and its bar if it has
one. -/
def seriesCells (s : Series) (r : SilverRow) : WideRow Float64 := fun c =>
  if c.series = s then
    match c with
    | .level _ => r.value
    | .bar _ _ f => r.bar f
  else none

/-- The frame of one series, with the names that its columns have in Gold. -/
def seriesFrame (silverBySeries : Series → Option SilverFrame) (s : Series) :
    Except PyError (List FrameRow) :=
  match silverBySeries s with
  | none => .error (.lookupError s.id)
  | some frame => do
    let rows ← validateSilver s.id frame
    return rows.map (fun r => (r.observationDate.map instantOfDate, seriesCells s r))

/-- Whether two rows join: null equals nothing. -/
def joins (left right : FrameRow) : Bool := left.1.isSome && left.1 == right.1

/-- The cells of two rows that join. -/
def overlay (left right : WideRow Float64) : WideRow Float64 := fun c => (right c).or (left c)

/-- `left.join(right, on="timestamp_m1", how="full", coalesce=True)`. -/
def fullJoin (left right : List FrameRow) : List FrameRow :=
  left.flatMap (fun l =>
    match right.filter (joins l ·) with
    | [] => [l]
    | found => found.map (fun r => (l.1, overlay l.2 r.2)))
  ++ right.filter (fun r => !left.any (joins · r))

/-- `frames[0]` joined with all the others, in order. -/
def joinFrames : List (List FrameRow) → List FrameRow
  | [] => []
  | first :: rest => rest.foldl fullJoin first

/-- `joined.sort("timestamp_m1")`, null before all others. -/
def sortJoined (rows : List FrameRow) : List FrameRow :=
  rows.insertionSort (fun a b => dateLE a.1 b.1)

/-- `fill_nan(None)` on every value column. -/
def fillNan (row : WideRow Float64) : WideRow Float64 := fun c =>
  (row c).filter (fun x => !x.isNaN)

/-! ## Provenance -/

section Signatures

variable (sha256 : Bytes → Sha256Hex) (writeCsv : List SilverRow → Bytes)

/-- `_silver_signature`. -/
def silverSignature (seriesId : String) (frame : SilverFrame) :
    Except PyError SilverInputSignature := do
  check (frame.hasSilverSchema = true)
    (.valueError (seriesId ++ " Silver schema mismatch for provenance"))
  check (∀ r ∈ frame.rows, r.seriesId = some seriesId)
    (.valueError (seriesId ++ " Silver identity mismatch for provenance"))
  let dates := frame.sorted.filterMap (·.observationDate)
  let minimum ← loadDate? dates.min?
  let maximum ← loadDate? dates.max?
  return {
    seriesId := seriesId
    rowCount := frame.sorted.length
    minObservationDate := minimum
    maxObservationDate := maximum
    sha256 := sha256 (writeCsv frame.sorted) }

/-- The series that there is no frame of. -/
def missingSeries (silverBySeries : Series → Option SilverFrame) : List Series :=
  goldSourceSeries.filter (fun s => (silverBySeries s).isNone)

/-- `_input_signatures`. -/
def inputSignatures (silverBySeries : Series → Option SilverFrame) :
    Except PyError (List SilverInputSignature) := do
  check (missingSeries silverBySeries = [])
    (.lookupError ("missing Silver provenance inputs: "
      ++ ", ".intercalate ((missingSeries silverBySeries).map Series.id)))
  goldSourceSeries.mapM (fun s =>
    match silverBySeries s with
    | none => .error (.lookupError s.id)
    | some frame => silverSignature sha256 writeCsv s.id frame)

/-- `GoldFrameBuild`. -/
structure GoldFrameBuild where
  frame : GoldFrame
  schemaVersion : ℤ
  featureVersion : ℤ
  inputs : List SilverInputSignature

/-- **`assemble_gold_frame`.** -/
def assembleGoldFrame (silverBySeries : Series → Option SilverFrame) :
    Except PyError GoldFrameBuild := do
  let frames ← goldSourceSeries.mapM (seriesFrame silverBySeries)
  let rows := (sortJoined (joinFrames frames)).map (fun row => (row.1, fillNan row.2))
  rawFeatureColumns.forM (fun c =>
    check (∀ row ∈ rows, ∀ x ∈ row.2 c, x.isFinite = true)
      (.valueError ("non-finite canonical Gold feature: " ++ c.name)))
  check (∀ row ∈ rows, row.1.isSome = true)
    (.valueError "canonical Gold timestamp_m1 cannot be null")
  check (rows.map Prod.fst).Nodup (.valueError "canonical Gold timestamp_m1 must be unique")
  let inputs ← inputSignatures sha256 writeCsv silverBySeries
  return ⟨⟨rows⟩, goldSchemaVersion, goldFeatureVersion, inputs⟩

end Signatures

/-! ## What is assembled -/

/-- **What assembly has checked of a frame.** -/
structure IsAssembled (frame : GoldFrame) : Prop where
  isSome : ∀ row ∈ frame.rows, row.1.isSome = true
  nodup : (frame.rows.map Prod.fst).Nodup
  finite : ∀ row ∈ frame.rows, ∀ c, ∀ x ∈ row.2 c, x.isFinite = true

/-- The provenance of a series, as assembly makes it: there are both dates or none. -/
structure IsSignature (seriesId : String) (signature : SilverInputSignature) : Prop where
  seriesId_eq : signature.seriesId = seriesId
  rowCount_nonneg : 0 ≤ signature.rowCount
  digest : isSha256Hex signature.sha256 = true
  together : signature.minObservationDate.isSome = signature.maxObservationDate.isSome
  ordered : ∀ a ∈ signature.minObservationDate, ∀ b ∈ signature.maxObservationDate, a ≤ b
  readable : ∀ d, signature.minObservationDate = some d ∨ signature.maxObservationDate = some d →
    dateMin ≤ d ∧ d ≤ dateMax

section Specs

variable {sha256 : Bytes → Sha256Hex} {writeCsv : List SilverRow → Bytes}
  {silverBySeries : Series → Option SilverFrame} {build : GoldFrameBuild}

theorem isSignature_of_ok {seriesId : String} {frame : SilverFrame}
    {signature : SilverInputSignature}
    (h : silverSignature sha256 writeCsv seriesId frame = .ok signature) :
    IsSignature seriesId signature := by
  unfold silverSignature at h
  simp only [bind_eq_ok, check_eq_ok, exists_const] at h
  obtain ⟨-, -, minimum, hmin, maximum, hmax, h⟩ := h
  cases h
  obtain ⟨rfl, hmin'⟩ := loadDate?_eq_ok hmin
  obtain ⟨rfl, hmax'⟩ := loadDate?_eq_ok hmax
  refine ⟨rfl, by positivity, (sha256 _).2, ?_, fun a ha b hb => ?_, ?_⟩
  · rw [Bool.eq_iff_iff]
    exact List.isSome_min?_iff.trans List.isSome_max?_iff.symm
  · exact (List.min?_eq_some_iff.mp ha).2 b (List.max?_mem hb)
  · rintro d (hd | hd)
    · exact hmin' d hd
    · exact hmax' d hd

theorem forall₂_isSignature {inputs : List SilverInputSignature}
    (h : inputSignatures sha256 writeCsv silverBySeries = .ok inputs) :
    List.Forall₂ (fun s signature => IsSignature s.id signature) goldSourceSeries inputs := by
  unfold inputSignatures at h
  simp only [bind_eq_ok, check_eq_ok, exists_const] at h
  refine (forall₂_of_mapM_eq_ok h.2).imp (fun s signature hs => ?_)
  split at hs
  · cases hs
  · exact isSignature_of_ok hs

/-- **What an assembled build is**: its frame has been checked, and its provenance
lists the series in order. -/
theorem assembleGoldFrame_spec
    (h : assembleGoldFrame sha256 writeCsv silverBySeries = .ok build) :
    IsAssembled build.frame ∧ build.schemaVersion = goldSchemaVersion
      ∧ build.featureVersion = goldFeatureVersion
      ∧ List.Forall₂ (fun s signature => IsSignature s.id signature) goldSourceSeries
        build.inputs := by
  unfold assembleGoldFrame at h
  simp only [bind_eq_ok, check_eq_ok, forM_eq_ok, exists_const] at h
  obtain ⟨frames, -, hfinite, hsome, hnodup, inputs, hinputs, h⟩ := h
  cases h
  exact ⟨⟨hsome, hnodup, fun row hrow c => hfinite c (mem_rawFeatureColumns c) row hrow⟩,
    rfl, rfl, forall₂_isSignature hinputs⟩

end Specs
