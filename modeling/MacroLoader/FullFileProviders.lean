import MacroLoader.BronzeOrchestration

/-!
# Providers that deliver whole files

CBOE and STOXX have no date ranges: every request fetches the whole history. What
an update is spared is done afterwards, by a filter on the window of the request,
with both of its ends. A bootstrap and a reconcile take the file as it is.

What a file has to satisfy to be accepted is checked cell by cell; of the result
only this much matters to the store: the rows are rows of the series, with
distinct dates, in the columns of the series (`IsFullHistory`).
-/

/-! ## Comparing doubles -/

/-- The place of a double among the doubles that are not NaN; both zeros have the same. -/
def Float64.ordinal (x : Float64) : ℤ :=
  if x.sign then -((x.bits.toNat : ℤ) - 2 ^ 63) else x.bits.toNat

/-- `a <= b` of doubles. -/
def Float64.le (a b : Float64) : Bool :=
  !a.isNaN && !b.isNaN && decide (a.ordinal ≤ b.ordinal)

/-! ## Files -/

/-- A CSV file: the names of its columns, and its cells as text. -/
structure CsvFrame where
  columns : List String
  rows : List (List (Option String))

/-- The cell of a row in a column. -/
def CsvFrame.cell (csv : CsvFrame) (row : List (Option String)) (column : String) :
    Option String :=
  ((csv.columns.zip row).find? (fun entry => decide (entry.1 = column))).bind Prod.snd

/-- What polars does with texts: reading a CSV file with a separator, `strip_chars` and
`to_uppercase`, reading a date in a format, and reading a number. -/
structure PolarsText where
  readCsv : Char → Bytes → Except PyError CsvFrame
  stripUpper : String → String
  strptime : String → String → Option Date
  castFloat : String → Option Float64

/-- The answer to a download. -/
structure HttpResponse where
  statusCode : ℤ
  content : Bytes

/-- What an adapter is given: the texts of polars, `str.strip` and `str.upper` of Python for
the names of columns, the downloads, and its clock. -/
structure FileSource where
  polars : PolarsText
  columnName : String → String
  send : String → Except PyError HttpResponse
  clock : PyDatetime

/-- A file with the names of its columns stripped and upper-cased, which have to stay
distinct. -/
def normalizedCsv (source : FileSource) (csv : CsvFrame) : Except PyError CsvFrame := do
  let columns := csv.columns.map source.columnName
  check columns.Nodup ⟨.other "DuplicateError", "column names are not unique"⟩
  return ⟨columns, csv.rows⟩

/-- The first of some formats that reads a text. -/
def readDateIn (polars : PolarsText) (formats : List String) (text : Option String) : Option Date :=
  text.bind (fun text => formats.findSome? (fun format => polars.strptime format text))

/-- The content of a file that has been delivered. -/
def download (source : FileSource) (url : String) : Except PyError Bytes := do
  let response ← source.send url
  check (response.statusCode = 200)
    ⟨.other "ProviderHttpError", "category=source_unavailable request=" ++ url⟩
  return response.content

/-- `_normalized_clock_value`. -/
def normalizedClock (reading : PyDatetime) : Except PyError Timestamp :=
  if reading.isAware then .ok reading.instant
  else .error (.valueError "clock must return a timezone-aware datetime")

/-- A date with the values that a file has of it. -/
structure Observation where
  date : Date
  value : Option Float64
  bar : OhlcField → Option Float64

/-- The Bronze rows of some observations: `with_columns` and `select`. -/
def observationRows (series : SeriesContract) (fetchedAt : Timestamp) (sourceUrl : String)
    (observations : List Observation) : BronzeFrame where
  schema := bronzeSchema series.nativeShape
  rows := observations.map (fun o => {
    seriesId := series.seriesId
    provider := series.provider.value
    observationDate := o.date
    fetchedAtUtc := fetchedAt
    sourceId := series.sourceId
    sourceUrl := sourceUrl
    value := o.value
    bar := o.bar })

/-- **The history of a series**: rows of the series, of distinct dates. -/
structure IsFullHistory (series : SeriesContract) (frame : BronzeFrame) : Prop where
  schema : frame.schema = bronzeSchema series.nativeShape
  identity : ∀ r ∈ frame.rows, r.seriesId = series.seriesId ∧ r.provider = series.provider.value
    ∧ r.sourceId = series.sourceId
  dates : (frame.rows.map (·.observationDate)).Nodup

/-- **An adapter of a provider that delivers whole files.** -/
structure FullFileAdapter where
  name : String
  parse : SeriesContract → Except PyError BronzeFrame
  isFullHistory : ∀ series frame, parse series = .ok frame → IsFullHistory series frame

/-- `is_between(start, end_, closed="both")`. -/
def inWindow (start end_ : Date) (row : BronzeRow) : Bool :=
  decide (start ≤ row.observationDate ∧ row.observationDate ≤ end_)

/-- The rows of a file that an update is given. -/
def FullFileAdapter.restrict (adapter : FullFileAdapter) (frame : BronzeFrame)
    (request : ProviderRequest) : Except PyError BronzeFrame :=
  match request.logicalStart with
  | none =>
    .error (.valueError (adapter.name ++ " update requires bounded logical delta semantics"))
  | some start => do
    check (request.maximumHistory = false)
      (.valueError (adapter.name ++ " update requires bounded logical delta semantics"))
    return ⟨frame.schema, frame.rows.filter (inWindow start request.logicalEnd)⟩

/-- The rows of a file that a request is given. -/
def FullFileAdapter.select (adapter : FullFileAdapter) (frame : BronzeFrame)
    (request : ProviderRequest) : Except PyError BronzeFrame :=
  if request.operation = .update then adapter.restrict frame request else .ok frame

/-- **`fetch`** of an adapter that delivers whole files. -/
def FullFileAdapter.fetch (adapter : FullFileAdapter) : MarketDataProvider :=
  fun series request => do
    let frame ← adapter.parse series
    let kept ← adapter.select frame request
    return ⟨kept.schema, KeyedRows.sortRows (·.observationDate) kept.rows⟩

/-! ## CBOE -/

/-- `_CBOE_SERIES`. -/
def cboeSeries : List String := ["vix", "vix9d", "vix3m", "vix6m", "vix1y"]

/-- `_validate_contract` of CBOE. -/
def validateCboeContract (series : SeriesContract) : Except PyError Unit := do
  check (series.provider = .cboe ∧ series.seriesId ∈ cboeSeries)
    (.valueError "unsupported CBOE series contract")
  check (series.nativeShape = .ohlc)
    (.valueError "CBOE volatility series must use OHLC Bronze shape")
  check (series.fetchCapability = .fullFile)
    (.valueError "CBOE volatility series must use full_file capability")

/-- The column of a bar field. -/
def cboeColumn : OhlcField → String
  | .open_ => "OPEN"
  | .high => "HIGH"
  | .low => "LOW"
  | .close => "CLOSE"

/-- A line of the file: its date and its bar, where they can be read. -/
def cboeLine (polars : PolarsText) (csv : CsvFrame) (row : List (Option String)) :
    Option Date × (OhlcField → Option Float64) :=
  (readDateIn polars ["%m/%d/%Y", "%Y-%m-%d"] (csv.cell row "DATE"),
    fun f => (csv.cell row (cboeColumn f)).bind polars.castFloat)

/-- `valid_bar`. -/
def validBar (bar : OhlcField → Option Float64) : Bool :=
  match bar .open_, bar .high, bar .low, bar .close with
  | some o, some h, some l, some c =>
    [o, h, l, c].all Float64.isFinite && [o, h, l, c].all (Float64.zero.le ·)
      && l.le h && o.le h && c.le h && l.le o && l.le c
  | _, _, _, _ => false

/-- `_parse` of CBOE. -/
def parseCboe (source : FileSource) (series : SeriesContract) (content : Bytes) (url : String) :
    Except PyError BronzeFrame := do
  let raw ← (source.polars.readCsv ',' content).mapError
    (fun _ => .valueError "invalid CBOE CSV payload")
  let csv ← normalizedCsv source raw
  check (∀ column ∈ "DATE" :: ohlcFields.map cboeColumn, column ∈ csv.columns)
    (.valueError "CBOE CSV is missing required OHLC columns")
  let lines := csv.rows.map (cboeLine source.polars csv)
  check (∀ line ∈ lines, line.1.isSome = true ∧ ∀ f ∈ ohlcFields, (line.2 f).isSome = true)
    (.valueError "CBOE payload contains invalid or missing OHLC observations")
  let valid := lines.filter (fun line => validBar line.2)
  check (valid ≠ []) (.valueError "CBOE payload contains no valid OHLC observations")
  let observations : List Observation := valid.filterMap (fun line =>
    line.1.map (fun date => { date := date, value := none, bar := line.2 }))
  check (observations.map Observation.date).Nodup
    (.valueError "CBOE payload contains duplicate observation dates")
  let fetchedAt ← normalizedClock source.clock
  return observationRows series fetchedAt url observations

/-- `CboeProvider`. -/
def parseCboeSeries (baseUrl : String) (source : FileSource) (series : SeriesContract) :
    Except PyError BronzeFrame := do
  validateCboeContract series
  let url := baseUrl ++ "/" ++ series.sourceId
  let content ← download source url
  parseCboe source series content url

/-! ## STOXX -/

/-- `STOXX_SOURCES`: the series and the file of a source. -/
def stoxxSource (sourceId : String) : Option (String × String) :=
  if sourceId = "V2TX" then
    some ("vstoxx", "https://www.stoxx.com/document/Indices/Current/HistoricalData/h_v2tx.txt")
  else if sourceId = "V6I1" then
    some ("vstoxx1m", "https://www.stoxx.com/document/Indices/Current/HistoricalData/h_v6i1.txt")
  else if sourceId = "V6I2" then
    some ("vstoxx2m", "https://www.stoxx.com/document/Indices/Current/HistoricalData/h_v6i2.txt")
  else if sourceId = "V6I3" then
    some ("vstoxx3m", "https://www.stoxx.com/document/Indices/Current/HistoricalData/h_v6i3.txt")
  else none

/-- `_validate_contract` of STOXX: the file of the series. -/
def validateStoxxContract (series : SeriesContract) : Except PyError String :=
  if series.provider ≠ .stoxx then .error (.valueError "unsupported STOXX series contract")
  else
    match stoxxSource series.sourceId with
    | none => .error (.valueError "unsupported STOXX source identity")
    | some (seriesId, url) => do
      check (seriesId = series.seriesId)
        (.valueError "STOXX series and source identity do not match")
      check (series.nativeShape = .scalar)
        (.valueError "STOXX volatility indices must use scalar Bronze shape")
      check (series.fetchCapability = .fullFile)
        (.valueError "STOXX volatility indices must use full_file capability")
      return url

/-- `_delimiter`, by the first line of the file. -/
def stoxxDelimiter (content : Bytes) : Char :=
  let first := content.takeWhile (fun b => b != 10 && b != 13)
  if first.contains 59 then ';' else if first.contains 9 then '\t' else ','

/-- The rows of a file that are of a source, if it says of which source its rows are. -/
def symbolRows (polars : PolarsText) (sourceId : String) (csv : CsvFrame) :
    Except PyError (List (List (Option String))) :=
  if "SYMBOL" ∈ csv.columns then do
    let matching := csv.rows.filter (fun row =>
      (csv.cell row "SYMBOL").any (fun symbol => decide (polars.stripUpper symbol = sourceId)))
    check (matching ≠ [])
      (.valueError ("STOXX payload contains no " ++ sourceId ++ " observations"))
    return matching
  else .ok csv.rows

/-- A line of the file: its date, whether it has a value, and the value. -/
structure StoxxLine where
  date : Option Date
  isMissing : Bool
  value : Option Float64

/-- `_parse` of STOXX. -/
def parseStoxx (source : FileSource) (series : SeriesContract) (url : String) (content : Bytes) :
    Except PyError BronzeFrame := do
  let raw ← (source.polars.readCsv (stoxxDelimiter content) content).mapError
    (fun _ => .valueError ("invalid STOXX " ++ series.sourceId ++ " payload"))
  let csv ← normalizedCsv source raw
  match ["DATE", "TIME_PERIOD"].find? (fun column => decide (column ∈ csv.columns)),
    [series.sourceId, "OBS_VALUE", "VALUE", "INDEXVALUE", "CLOSE"].find?
      (fun column => decide (column ∈ csv.columns)) with
  | some dateColumn, some valueColumn => do
    let rows ← symbolRows source.polars series.sourceId csv
    let lines := rows.map (fun row => ({
      date := readDateIn source.polars ["%Y-%m-%d", "%d.%m.%Y", "%d/%m/%Y"]
        (csv.cell row dateColumn)
      isMissing := (csv.cell row valueColumn).isNone
      value := (csv.cell row valueColumn).bind source.polars.castFloat } : StoxxLine))
    check (∀ line ∈ lines, line.date.isSome = true)
      (.valueError "STOXX payload contains invalid observation dates")
    let present := lines.filter (fun line => !line.isMissing)
    check (∀ line ∈ present, line.value.isSome = true)
      (.valueError "STOXX payload contains missing/non-numeric values")
    check (present ≠ []) (.valueError "STOXX payload contains no numeric observations")
    check (∀ line ∈ present, line.value.all Float64.isFinite = true)
      (.valueError "STOXX payload contains non-finite values")
    let observations : List Observation := present.filterMap (fun line =>
      line.date.map (fun date => { date := date, value := line.value, bar := fun _ => none }))
    check (observations.map Observation.date).Nodup
      (.valueError "STOXX payload contains duplicate observation dates")
    let fetchedAt ← normalizedClock source.clock
    return observationRows series fetchedAt url observations
  | _, _ =>
    .error (.valueError ("STOXX payload is missing date or " ++ series.sourceId ++ " value"))

/-- `StoxxProvider`. -/
def parseStoxxSeries (source : FileSource) (series : SeriesContract) :
    Except PyError BronzeFrame := do
  let url ← validateStoxxContract series
  let content ← download source url
  parseStoxx source series url content

/-! ## What is accepted -/

theorem isFullHistory_observationRows {series : SeriesContract} {fetchedAt : Timestamp} {url : String}
    {observations : List Observation} (h : (observations.map Observation.date).Nodup) :
    IsFullHistory series (observationRows series fetchedAt url observations) where
  schema := rfl
  identity r hr := by
    obtain ⟨o, -, rfl⟩ := List.mem_map.mp hr
    exact ⟨rfl, rfl, rfl⟩
  dates := by
    rw [observationRows, List.map_map]
    exact h

/-- The rows of a history have distinct keys. -/
theorem IsFullHistory.nodup {series : SeriesContract} {frame : BronzeFrame}
    (h : IsFullHistory series frame) : (frame.rows.map BronzeRow.key).Nodup := by
  have hdates := List.pairwise_map.mp h.dates
  exact List.pairwise_map.mpr
    (hdates.imp (fun hne hkey => hne (BronzeRow.date_eq_of_key_eq hkey)))

/-- **What a request is given of a file**: all of its rows, or for an update those of the
window of the request. -/
theorem FullFileAdapter.fetch_eq_ok {adapter : FullFileAdapter} {series : SeriesContract}
    {request : ProviderRequest} {answer : BronzeFrame}
    (h : adapter.fetch series request = .ok answer) :
    ∃ file, adapter.parse series = .ok file ∧ answer.schema = file.schema
      ∧ (answer.rows.map BronzeRow.key).Nodup
      ∧ ∀ r, r ∈ answer.rows ↔ r ∈ file.rows ∧ (request.operation = .update →
        ∃ start ∈ request.logicalStart, inWindow start request.logicalEnd r = true) := by
  obtain ⟨file, hfile, h⟩ := bind_eq_ok.mp h
  obtain ⟨kept, hkept, h⟩ := bind_eq_ok.mp h
  obtain rfl := Except.ok.inj h
  have hdates := (adapter.isFullHistory series file hfile).dates
  have hnodup : ∀ {rows : List BronzeRow}, rows.Sublist file.rows →
      ((KeyedRows.sortRows (·.observationDate) rows).map BronzeRow.key).Nodup := by
    intro rows hrows
    have hsorted := KeyedRows.nodup_sortRows (List.Nodup.sublist (hrows.map _) hdates)
    exact List.pairwise_map.mpr ((List.pairwise_map.mp hsorted).imp
      (fun hne hkey => hne (BronzeRow.date_eq_of_key_eq hkey)))
  unfold FullFileAdapter.select at hkept
  split at hkept
  · next hupdate =>
    unfold FullFileAdapter.restrict at hkept
    split at hkept
    · cases hkept
    · next start hstart =>
      obtain ⟨-, -, hkept⟩ := bind_eq_ok.mp hkept
      obtain rfl := Except.ok.inj hkept
      refine ⟨file, hfile, rfl, hnodup List.filter_sublist, fun r => ?_⟩
      rw [KeyedRows.mem_sortRows, List.mem_filter]
      simp [hupdate, hstart]
  · next hupdate =>
    obtain rfl := Except.ok.inj hkept
    refine ⟨file, hfile, rfl, hnodup (List.Sublist.refl _), fun r => ?_⟩
    rw [KeyedRows.mem_sortRows]
    simp [hupdate]

/-- Every answer is in the columns of the series. -/
theorem FullFileAdapter.fetch_schema {adapter : FullFileAdapter} {series : SeriesContract}
    {request : ProviderRequest} {answer : BronzeFrame}
    (h : adapter.fetch series request = .ok answer) :
    answer.schema = bronzeSchema series.nativeShape := by
  obtain ⟨file, hfile, hschema, -, -⟩ := FullFileAdapter.fetch_eq_ok h
  rw [hschema, (adapter.isFullHistory series file hfile).schema]

/-- `CboeProvider`. -/
def cboeProvider (baseUrl : String) (source : FileSource) : FullFileAdapter where
  name := "CBOE"
  parse := parseCboeSeries baseUrl source
  isFullHistory series frame h := by
    obtain ⟨-, -, h⟩ := bind_eq_ok.mp h
    obtain ⟨content, -, h⟩ := bind_eq_ok.mp h
    unfold parseCboe at h
    obtain ⟨raw, -, h⟩ := bind_eq_ok.mp h
    obtain ⟨csv, -, h⟩ := bind_eq_ok.mp h
    simp only [bind_eq_ok, check_eq_ok, exists_const] at h
    obtain ⟨-, -, -, hnodup, fetchedAt, -, h⟩ := h
    exact Except.ok.inj h ▸ isFullHistory_observationRows hnodup

/-- `StoxxProvider`. -/
def stoxxProvider (source : FileSource) : FullFileAdapter where
  name := "STOXX"
  parse := parseStoxxSeries source
  isFullHistory series frame h := by
    obtain ⟨url, -, h⟩ := bind_eq_ok.mp h
    obtain ⟨content, -, h⟩ := bind_eq_ok.mp h
    unfold parseStoxx at h
    obtain ⟨raw, -, h⟩ := bind_eq_ok.mp h
    obtain ⟨csv, -, h⟩ := bind_eq_ok.mp h
    split at h
    · obtain ⟨rows, -, h⟩ := bind_eq_ok.mp h
      simp only [bind_eq_ok, check_eq_ok, exists_const] at h
      obtain ⟨-, -, -, -, hnodup, fetchedAt, -, h⟩ := h
      exact Except.ok.inj h ▸ isFullHistory_observationRows hnodup
    · cases h
