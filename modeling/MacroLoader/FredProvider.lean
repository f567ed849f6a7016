import MacroLoader.FullFileProviders
import MacroLoader.HttpTransport
import MacroLoader.PythonNumbers

/-!
# The provider of dated observations

FRED delivers a list of observations as JSON: dates with values, where a value may be
marked as missing. The adapter goes through the list once. It remembers the dates, also
those without a value, and raises at the first entry that it cannot accept; nothing is
left out but what is marked as missing. What is accepted is therefore a matter of the
entries alone (`parseObservations_eq_ok`).

A response to an update has to stay within the window that was asked for. What is outside
is not cut off, it makes the fetch fail.
-/

/-! ## JSON -/

/-- **A value that `json.loads` returns.** An object has each of its keys once. -/
inductive JsonValue
  | null
  | bool (b : Bool)
  | int (n : ℤ)
  | real (x : Float64)
  | text (s : String)
  | array (items : List JsonValue)
  | object (entries : List (String × JsonValue))

namespace JsonValue

/-- `value[key]`, which is an error but for an object that has the key. -/
def item? (key : String) : JsonValue → Option JsonValue
  | .object entries => entries.lookup key
  | _ => none

/-- `str(value)` of a text or a number. That of any other value begins with a letter or a
bracket, so that it is neither a date nor the mark of a missing value. -/
def plainText : JsonValue → Option String
  | .int n => some (toString n)
  | .real x => some x.repr
  | .text s => some s
  | _ => none

/-- Whether a value is null, or marked as missing: `str(raw).strip() in {"", "."}`. -/
def isMissing : JsonValue → Bool
  | .null => true
  | raw => raw.plainText.any (fun s => pyStrip s == "" || pyStrip s == ".")

/-- `float(raw)`. -/
def toFloat : JsonValue → Except PyError Float64
  | .bool b => .ok (if b then .one else .zero)
  | .int n =>
    if (Float64.nearest (decide (n < 0)) |(n : ℚ)|).isFinite then
      .ok (.nearest (decide (n < 0)) |(n : ℚ)|)
    else .error (.overflowError "int too large to convert to float")
  | .real x => .ok x
  | .text s =>
    match readNumeral s with
    | some numeral => .ok numeral.toFloat
    | none => .error (.valueError "could not convert string to float")
  | _ => .error (.typeError "float() argument must be a string or a real number")

/-- **A finite number**: one of JSON, or a text that is one, and not so large that its
double is infinite. -/
def FiniteNumber : JsonValue → Prop
  | .int n => |(n : ℚ)| < Float64.overflowThreshold
  | .real x => x.isFinite = true
  | .text s => ∃ negative q, readNumeral s = some (.finite negative q) ∧ q < Float64.overflowThreshold
  | _ => False

/-- Whether a value is a boolean. -/
def isBool : JsonValue → Bool
  | .bool _ => true
  | _ => false

/-- **What `float` makes a finite double of**: the finite numbers, and booleans. -/
theorem toFloat_isFinite_iff (raw : JsonValue) : (∃ x, raw.toFloat = .ok x ∧ x.isFinite = true)
    ↔ raw.FiniteNumber ∨ raw.isBool = true := by
  cases raw with
  | null => simp [toFloat, FiniteNumber, isBool]
  | bool b => cases b <;> simp [toFloat, FiniteNumber, isBool] <;> decide
  | int n =>
    have hfinite := Float64.isFinite_nearest_iff (decide (n < 0)) (abs_nonneg (n : ℚ))
    rw [toFloat, FiniteNumber, ← hfinite]
    split_ifs with h
    · simp [h]
    · simp [h, isBool]
  | real x => simp [toFloat, FiniteNumber, isBool]
  | text s =>
    rw [toFloat, FiniteNumber]
    cases hnumeral : readNumeral s with
    | none => simp [isBool]
    | some numeral =>
      have hfinite := Numeral.isFinite_toFloat_iff hnumeral
      simpa [isBool] using hfinite
  | array items => simp [toFloat, FiniteNumber, isBool]
  | object entries => simp [toFloat, FiniteNumber, isBool]

/-! ## Observations -/

/-- `date.fromisoformat(str(observation["date"]))`. -/
def observationDate (observation : JsonValue) : Option Date := do
  let date ← observation.item? "date"
  let text ← date.plainText
  fromIsoFormat text

example : [JsonValue.text "2026-08-19", .text "20260819xx", .int 20260819,
      .real (.nearest false 20260819), .text "19 Aug 2026", .null].map
        (fun date => (JsonValue.object [("date", date)]).observationDate)
    = [some 20684, some 20684, some 20684, some 20684, none, none] := by
  decide +kernel

/-- `observation.get("value")`, unless it is missing. -/
def presentValue (observation : JsonValue) : Option JsonValue :=
  (observation.item? "value").filter (fun raw => !raw.isMissing)

/-- The value of an observation as a double. Errors of `float` are errors of the payload,
apart from an overflow. -/
def observationValue (raw : JsonValue) : Except PyError Float64 := do
  let value ← raw.toFloat.mapError (fun e =>
    if e.kind = .typeError ∨ e.kind = .valueError then
      .valueError "FRED payload contains invalid observation value"
    else e)
  check (value.isFinite = true)
    (.valueError "FRED payload contains non-finite observation value")
  return value

theorem observationValue_eq_ok {raw : JsonValue} {x : Float64} :
    raw.observationValue = .ok x ↔ raw.toFloat = .ok x ∧ x.isFinite = true := by
  unfold observationValue
  cases raw.toFloat with
  | error e => simp [Except.mapError, bind, Except.bind]
  | ok y =>
    simp only [Except.mapError, bind_eq_ok, check_eq_ok, Except.ok.injEq, exists_eq_left',
      exists_const]
    constructor
    · rintro ⟨hfinite, h⟩
      obtain rfl := Except.ok.inj h
      exact ⟨rfl, hfinite⟩
    · rintro ⟨rfl, hfinite⟩
      exact ⟨hfinite, rfl⟩

/-- The date and the value of an observation that has both. -/
def observationRow (observation : JsonValue) : Option (Date × Float64) := do
  let date ← observation.observationDate
  let raw ← observation.presentValue
  let value ← raw.observationValue.toOption
  return (date, value)

end JsonValue

open JsonValue

/-- The loop of `_parse`: the rows of some observations, after others with dates that have
been seen. -/
def parseObservations (seen : List Date) : List JsonValue → Except PyError (List (Date × Float64))
  | [] => .ok []
  | observation :: rest =>
    match observation.observationDate with
    | none => .error (.valueError "FRED payload contains invalid observation date")
    | some date => do
      check (date ∉ seen) (.valueError "FRED payload contains duplicate observation dates")
      match observation.presentValue with
      | none => parseObservations (date :: seen) rest
      | some raw => do
        let value ← raw.observationValue
        let rows ← parseObservations (date :: seen) rest
        return (date, value) :: rows

/-- Whether two observations have different dates, if they have dates. -/
def DifferentDates (a b : JsonValue) : Prop :=
  ∀ date ∈ a.observationDate, b.observationDate ≠ some date

/-- **Observations that are accepted** after some dates: each has a date, and a value that
is missing or the double of a number, and no date is there twice. -/
structure Acceptable (seen : List Date) (observations : List JsonValue) : Prop where
  dates : ∀ o ∈ observations, ∃ date, o.observationDate = some date ∧ date ∉ seen
  values : ∀ o ∈ observations, ∀ raw ∈ o.presentValue, ∃ x, raw.observationValue = .ok x
  different : observations.Pairwise DifferentDates

theorem acceptable_nil (seen : List Date) : Acceptable seen [] where
  dates := fun _ h => (nomatch h)
  values := fun _ h => (nomatch h)
  different := .nil

theorem acceptable_cons {seen : List Date} {observation : JsonValue} {rest : List JsonValue} :
    Acceptable seen (observation :: rest) ↔ ∃ date, observation.observationDate = some date
      ∧ date ∉ seen ∧ (∀ raw ∈ observation.presentValue, ∃ x, raw.observationValue = .ok x)
      ∧ Acceptable (date :: seen) rest := by
  constructor
  · intro h
    obtain ⟨date, hdate, hseen⟩ := h.dates observation List.mem_cons_self
    obtain ⟨hfirst, hrest⟩ := List.pairwise_cons.mp h.different
    refine ⟨date, hdate, hseen, h.values observation List.mem_cons_self, ?_, ?_, hrest⟩
    · intro o ho
      obtain ⟨date', hdate', hseen'⟩ := h.dates o (List.mem_cons_of_mem _ ho)
      refine ⟨date', hdate', ?_⟩
      rw [List.mem_cons, not_or]
      refine ⟨fun heq => hfirst o ho date hdate ?_, hseen'⟩
      rw [hdate', heq]
    · exact fun o ho => h.values o (List.mem_cons_of_mem _ ho)
  · rintro ⟨date, hdate, hseen, hvalue, h⟩
    refine ⟨?_, List.forall_mem_cons.mpr ⟨hvalue, h.values⟩, List.pairwise_cons.mpr ⟨?_, h.different⟩⟩
    · refine List.forall_mem_cons.mpr ⟨⟨date, hdate, hseen⟩, fun o ho => ?_⟩
      obtain ⟨date', hdate', hseen'⟩ := h.dates o ho
      exact ⟨date', hdate', fun hmem => hseen' (List.mem_cons_of_mem _ hmem)⟩
    · intro o ho d hd heq
      obtain rfl : date = d := Option.some.inj (hdate.symm.trans hd)
      obtain ⟨date', hdate', hseen'⟩ := h.dates o ho
      obtain rfl : date' = date := Option.some.inj (hdate'.symm.trans heq)
      exact hseen' List.mem_cons_self

/-- **The loop** succeeds on what is acceptable, and has a row of each observation with a
value. The induction is on the observations, for any dates that have been seen. -/
theorem parseObservations_eq_ok {seen : List Date} {observations : List JsonValue}
    {rows : List (Date × Float64)} : parseObservations seen observations = .ok rows
      ↔ Acceptable seen observations ∧ rows = observations.filterMap observationRow := by
  induction observations generalizing seen rows with
  | nil =>
    rw [parseObservations, Except.ok.injEq]
    exact ⟨fun h => ⟨acceptable_nil seen, h.symm⟩, fun h => h.2.symm⟩
  | cons observation rest ih =>
    rw [parseObservations, acceptable_cons]
    cases hdate : observation.observationDate with
    | none => simp
    | some date =>
      simp only [bind_eq_ok, check_eq_ok, exists_const, Option.some.injEq, exists_eq_left']
      cases hraw : observation.presentValue with
      | none =>
        have hrow : observation.observationRow = none := by
          rw [observationRow, hdate, hraw]
          rfl
        rw [List.filterMap_cons_none hrow, ih]
        simp only [Option.mem_def, reduceCtorEq, false_imp_iff, implies_true, true_and, and_assoc]
      | some raw =>
        simp only [Option.mem_def, Option.some.injEq, forall_eq']
        cases hvalue : raw.observationValue with
        | error e => simp [bind, Except.bind]
        | ok value =>
          have hrow : observation.observationRow = some (date, value) := by
            simp only [observationRow, hdate, hraw, Option.bind_eq_bind, Option.bind_some, hvalue]
            rfl
          rw [List.filterMap_cons_some hrow]
          simp only [Except.ok.injEq, exists_eq', true_and, and_assoc]
          refine and_congr_right (fun _ => ?_)
          show (parseObservations (date :: seen) rest >>= fun tail => .ok ((date, value) :: tail))
            = .ok rows ↔ _
          rw [bind_eq_ok]
          constructor
          · rintro ⟨tail, htail, hrows⟩
            obtain ⟨hrest, rfl⟩ := ih.mp htail
            exact ⟨hrest, (Except.ok.inj hrows).symm⟩
          · rintro ⟨hrest, rfl⟩
            exact ⟨_, ih.mpr ⟨hrest, rfl⟩, rfl⟩

/-- **An entry to be refused**, where it is said which values are numbers: one without a
date, one with the date of an earlier one, whether or not they have values, or one with a
value that is no number. -/
def Rejected (IsNumber : JsonValue → Prop) (observations : List JsonValue) : Prop :=
  (∃ o ∈ observations, o.observationDate = none)
    ∨ (∃ earlier later date, [earlier, later].Sublist observations
        ∧ earlier.observationDate = some date ∧ later.observationDate = some date)
    ∨ ∃ o ∈ observations, ∃ raw ∈ o.presentValue, ¬ IsNumber raw

/-- Observations are acceptable if there is no entry to be refused among them. -/
theorem acceptable_iff {observations : List JsonValue} : Acceptable [] observations
    ↔ ¬ Rejected (fun raw => raw.FiniteNumber ∨ raw.isBool = true) observations := by
  have hnumber : ∀ raw : JsonValue, (∃ x, raw.observationValue = .ok x)
      ↔ raw.FiniteNumber ∨ raw.isBool = true := by
    intro raw
    simp only [observationValue_eq_ok, toFloat_isFinite_iff]
  simp only [Rejected, not_or, not_exists, not_and, ← hnumber]
  constructor
  · intro h
    refine ⟨fun o ho hnone => ?_, fun earlier later date hsub hearlier hlater => ?_,
      fun o ho raw hraw hvalue => ?_⟩
    · obtain ⟨date, hdate, -⟩ := h.dates o ho
      exact (Option.some_ne_none date) (hdate.symm.trans hnone)
    · exact List.pairwise_iff_forall_sublist.mp h.different hsub date hearlier hlater
    · obtain ⟨x, hx⟩ := h.values o ho raw hraw
      exact hvalue x hx
  · rintro ⟨hdates, hdifferent, hvalues⟩
    refine ⟨fun o ho => ?_, fun o ho raw hraw => ?_, ?_⟩
    · obtain ⟨date, hdate⟩ := Option.ne_none_iff_exists'.mp (hdates o ho)
      exact ⟨date, hdate, List.not_mem_nil⟩
    · by_contra hnone
      exact hvalues o ho raw hraw (not_exists.mp hnone)
    · refine List.pairwise_iff_forall_sublist.mpr (fun hsub date hearlier hlater => ?_)
      exact hdifferent _ _ date hsub hearlier hlater

/-- The rows of acceptable observations are those of the observations with values, one by
one. -/
theorem forall₂_observationRow {seen : List Date} {observations : List JsonValue}
    (h : Acceptable seen observations) :
    List.Forall₂ (fun o row => o.observationRow = some row)
      (observations.filter (fun o => o.presentValue.isSome)) (observations.filterMap observationRow) := by
  induction observations generalizing seen with
  | nil => exact .nil
  | cons observation rest ih =>
    obtain ⟨date, hdate, -, hvalue, hrest⟩ := acceptable_cons.mp h
    cases hraw : observation.presentValue with
    | none =>
      have hrow : observation.observationRow = none := by
        simp only [observationRow, hdate, hraw, Option.bind_eq_bind, Option.bind_some,
          Option.bind_none]
      rw [List.filter_cons_of_neg (by simp [hraw]), List.filterMap_cons_none hrow]
      exact ih hrest
    | some raw =>
      obtain ⟨x, hx⟩ := hvalue raw hraw
      have hrow : observation.observationRow = some (date, x) := by
        simp only [observationRow, hdate, hraw, Option.bind_eq_bind, Option.bind_some, hx]
        rfl
      rw [List.filter_cons_of_pos (by simp [hraw]), List.filterMap_cons_some hrow]
      exact .cons hrow (ih hrest)

/-- The parts of the row of an observation. -/
theorem observationRow_eq_some {o : JsonValue} {row : Date × Float64} :
    o.observationRow = some row ↔ o.observationDate = some row.1
      ∧ ∃ raw ∈ o.presentValue, raw.observationValue = .ok row.2 := by
  obtain ⟨date, x⟩ := row
  simp only [observationRow, Option.bind_eq_bind, Option.bind_eq_some_iff, Option.pure_def,
    Option.some.injEq, Prod.mk.injEq, Option.mem_def]
  constructor
  · rintro ⟨date', hdate, raw, hraw, x', hx, rfl, rfl⟩
    refine ⟨hdate, raw, hraw, ?_⟩
    cases hvalue : raw.observationValue with
    | error e => rw [hvalue] at hx; cases hx
    | ok y =>
      rw [hvalue] at hx
      exact congrArg _ (Option.some.inj hx)
  · rintro ⟨hdate, raw, hraw, hvalue⟩
    exact ⟨date, hdate, raw, hraw, x, by rw [hvalue]; rfl, rfl, rfl⟩

/-- The rows of acceptable observations have different dates. -/
theorem nodup_dates {seen : List Date} {observations : List JsonValue}
    (h : Acceptable seen observations) :
    ((observations.filterMap observationRow).map Prod.fst).Nodup := by
  refine List.pairwise_map.mpr (List.pairwise_filterMap.mpr (h.different.imp ?_))
  intro a b hab row hrow row' hrow' heq
  refine hab row.1 (observationRow_eq_some.mp hrow).1 ?_
  rw [(observationRow_eq_some.mp hrow').1, heq]

/-! ## The adapter -/

/-- `_FRED_SERIES`. -/
def fredSeries : List Series := goldSourceSeries.filter (fun s => s.contract.provider = .fred)

/-- `_validate_contract` of FRED. -/
def validateFredContract (series : SeriesContract) : Except PyError Unit := do
  check (series.provider = .fred ∧ series.seriesId ∈ fredSeries.map Series.id)
    (.valueError "unsupported FRED series contract")
  check (∃ s ∈ goldSourceSeries, s.id = series.seriesId ∧ s.contract = series)
    (.valueError "FRED series contract does not match the canonical registry")
  check (series.nativeShape = .scalar)
    (.valueError "FRED regime series must use scalar Bronze shape")
  check (series.fetchCapability = .dateRange)
    (.valueError "FRED regime series must use date_range capability")

/-- `str(error)` of a `ProviderHttpError`. -/
def ProviderHttpError.str (error : ProviderHttpError) : String :=
  "provider=" ++ error.context.provider ++ " series=" ++ error.context.seriesId
    ++ " source=" ++ error.context.sourceId ++ " category=" ++ error.category
    ++ (error.statusCode.elim "" (fun status => " status=" ++ toString status))
    ++ " request=" ++ error.requestPath

/-- **What the adapter is given**: how JSON is read, the transport, its key and endpoint,
and its clock. -/
structure FredProvider where
  loads : Bytes → Except PyError JsonValue
  send : String → List (String × String) → RequestContext → Except PyError HttpResponse
  apiKey : String
  endpoint : String
  clock : PyDatetime
  apiKey_nonblank : isBlank apiKey = false

namespace FredProvider

variable (adapter : FredProvider)

/-- The observations of a payload. -/
def observations (content : Bytes) : Except PyError (List JsonValue) := do
  let payload ← (adapter.loads content).mapError (fun e =>
    if e.kind = .other "JSONDecodeError" then .valueError "invalid FRED observations payload" else e)
  match payload.item? "observations" with
  | none => .error (.valueError "invalid FRED observations payload")
  | some (.array items) => .ok items
  | some _ => .error (.valueError "FRED observations must be a list")

/-- The Bronze row of a date and a value. -/
def bronzeRow (series : SeriesContract) (fetchedAt : Timestamp) (row : Date × Float64) : BronzeRow where
  seriesId := series.seriesId
  provider := Provider.fred.value
  observationDate := row.1
  fetchedAtUtc := fetchedAt
  sourceId := series.sourceId
  sourceUrl := adapter.endpoint
  value := some row.2
  bar := fun _ => none

/-- `_parse`. Where no observation has a value, the clock is not asked. -/
def parse (series : SeriesContract) (content : Bytes) : Except PyError BronzeFrame := do
  let observations ← adapter.observations content
  let rows ← parseObservations [] observations
  if rows = [] then return ⟨bronzeSchema .scalar, []⟩
  else do
    let fetchedAt ← normalizedClock adapter.clock
    return ⟨bronzeSchema .scalar, rows.map (adapter.bronzeRow series fetchedAt)⟩

/-- The parameters of a request. -/
def params (series : SeriesContract) (request : ProviderRequest) :
    Except PyError (List (String × String)) :=
  let common := [("series_id", series.sourceId), ("api_key", adapter.apiKey), ("file_type", "json"),
    ("sort_order", "asc"), ("observation_end", dateText request.logicalEnd)]
  if request.operation = .update then
    match request.logicalStart with
    | none => .error (.valueError "FRED update requires exact bounded observation dates")
    | some start => do
      check (request.maximumHistory = false)
        (.valueError "FRED update requires exact bounded observation dates")
      return common ++ [("observation_start", dateText start)]
  else .ok common

/-- Whether a row is one that a request may be answered with: for an update, one of its
window. -/
def answers (request : ProviderRequest) (row : BronzeRow) : Bool :=
  request.operation ≠ .update
    || request.logicalStart.any (fun start => inWindow start request.logicalEnd row)

/-- `RequestContext(self.provider, ...)`. -/
def context (series : SeriesContract) : RequestContext :=
  ⟨Provider.fred.value, series.seriesId, series.sourceId⟩

/-- The content of the response to a request. -/
def download (series : SeriesContract) (request : ProviderRequest) : Except PyError Bytes := do
  validateFredContract series
  let params ← adapter.params series request
  let response ← adapter.send adapter.endpoint params (context series)
  check (response.statusCode = 200) ⟨.other "ProviderHttpError",
    (ProviderHttpError.mk (context series) "source_unavailable" adapter.endpoint
      (some response.statusCode)).str⟩
  return response.content

/-- **`FredProvider.fetch`.** -/
def fetch : MarketDataProvider := fun series request => do
  let content ← adapter.download series request
  let frame ← adapter.parse series content
  check (∀ row ∈ frame.rows, answers request row = true)
    (.valueError "FRED bounded response contains out-of-window observations")
  return ⟨frame.schema, KeyedRows.sortRows (·.observationDate) frame.rows⟩

/-! ## What is accepted -/

/-- **The row of an observation**: its date and its value, and the series. -/
structure IsRowOf (series : SeriesContract) (o : JsonValue) (row : BronzeRow) : Prop where
  date : o.observationDate = some row.observationDate
  value : ∃ raw ∈ o.presentValue, ∃ x, raw.toFloat = .ok x ∧ row.value = some x
  series : row.seriesId = series.seriesId ∧ row.sourceId = series.sourceId
    ∧ row.provider = Provider.fred.value

/-- Whether a computation ends in an error. -/
def Raises {α : Type} (x : Except PyError α) : Prop := ∃ e, x = .error e

theorem raises_iff {α : Type} {x : Except PyError α} : Raises x ↔ ¬ ∃ a, x = .ok a := by
  cases x <;> simp [Raises]

variable {adapter} {series : SeriesContract} {request : ProviderRequest} {content : Bytes}
  {items : List JsonValue}

/-- What is parsed of a list of observations: nothing, or a row of each observation with a
value, which takes a clock with a time zone. -/
theorem parse_eq_ok (hitems : adapter.observations content = .ok items) {frame : BronzeFrame} :
    adapter.parse series content = .ok frame ↔ Acceptable [] items
      ∧ (items.filterMap observationRow ≠ [] → adapter.clock.isAware = true)
      ∧ frame = ⟨bronzeSchema .scalar, (items.filterMap observationRow).map
          (adapter.bronzeRow series adapter.clock.instant)⟩ := by
  rw [parse, hitems]
  show (parseObservations [] items >>= _) = .ok frame ↔ _
  rw [bind_eq_ok]
  constructor
  · rintro ⟨rows, hrows, h⟩
    obtain ⟨hacceptable, rfl⟩ := parseObservations_eq_ok.mp hrows
    refine ⟨hacceptable, ?_⟩
    split_ifs at h with hnil
    · rw [hnil]
      exact ⟨fun hne => absurd rfl hne, (Except.ok.inj h).symm⟩
    · rw [normalizedClock] at h
      split_ifs at h with haware
      · exact ⟨fun _ => haware, (Except.ok.inj h).symm⟩
      · cases h
  · rintro ⟨hacceptable, haware, rfl⟩
    refine ⟨_, parseObservations_eq_ok.mpr ⟨hacceptable, rfl⟩, ?_⟩
    split_ifs with hnil
    · rw [hnil]
      rfl
    · rw [normalizedClock, if_pos (haware hnil)]
      rfl

/-- There is a row if and only if an observation has a value. -/
theorem filterMap_ne_nil_iff (h : Acceptable [] items) :
    items.filterMap observationRow ≠ [] ↔ ∃ o ∈ items, o.presentValue ≠ none := by
  have hlength := (forall₂_observationRow h).length_eq
  rw [← List.length_pos_iff, ← hlength, List.length_pos_iff, ne_eq, List.filter_eq_nil_iff]
  push Not
  simp only [Option.isSome_iff_ne_none]

/-- The rows that are parsed are those of the observations with values, one by one. -/
theorem isRowOf_parse (hitems : adapter.observations content = .ok items) {frame : BronzeFrame}
    (h : adapter.parse series content = .ok frame) :
    List.Forall₂ (IsRowOf series) (items.filter (fun o => o.presentValue.isSome)) frame.rows := by
  obtain ⟨hacceptable, -, rfl⟩ := (parse_eq_ok hitems).mp h
  refine List.forall₂_map_right_iff.mpr ((forall₂_observationRow hacceptable).imp ?_)
  intro o row hrow
  obtain ⟨hdate, raw, hraw, hvalue⟩ := observationRow_eq_some.mp hrow
  exact ⟨hdate, ⟨raw, hraw, row.2, (observationValue_eq_ok.mp hvalue).1, rfl⟩, rfl, rfl, rfl⟩

theorem answers_iff {row : BronzeRow} : answers request row = true
    ↔ (request.operation = .update → ∃ start ∈ request.logicalStart,
        start ≤ row.observationDate ∧ row.observationDate ≤ request.logicalEnd) := by
  cases hstart : request.logicalStart with
  | none => simp [answers, hstart]
  | some start => simp [answers, hstart, inWindow, imp_iff_not_or]

/-- **The observations of a response** to a request. -/
structure Delivered (adapter : FredProvider) (series : SeriesContract) (request : ProviderRequest)
    (content : Bytes) (items : List JsonValue) : Prop where
  download : adapter.download series request = .ok content
  observations : adapter.observations content = .ok items

/-- What is fetched: what is parsed, in the order of dates, if all of it answers the
request. -/
theorem fetch_eq_ok (h : Delivered adapter series request content items) {answer : BronzeFrame} :
    adapter.fetch series request = .ok answer ↔ ∃ frame, adapter.parse series content = .ok frame
      ∧ (∀ row ∈ frame.rows, answers request row = true)
      ∧ answer = ⟨frame.schema, KeyedRows.sortRows (·.observationDate) frame.rows⟩ := by
  rw [fetch, h.download]
  show (adapter.parse series content >>= _) = .ok answer ↔ _
  simp only [bind_eq_ok, check_eq_ok, exists_const]
  exact exists_congr (fun frame => and_congr_right (fun _ => and_congr_right (fun _ =>
    ⟨fun hok => (Except.ok.inj hok).symm, fun hok => congrArg _ hok.symm⟩)))

/-- An observation of an update that is outside the window of its request. -/
def OutOfWindow (request : ProviderRequest) (o : JsonValue) : Prop :=
  request.operation = .update ∧ o.presentValue ≠ none ∧ ∃ date ∈ o.observationDate,
    ¬ ∃ start ∈ request.logicalStart, start ≤ date ∧ date ≤ request.logicalEnd

/-- **What the adapter accepts and yields** of a list of observations. -/
structure AcceptsExactly (adapter : FredProvider) (series : SeriesContract) (request : ProviderRequest)
    (content : Bytes) (items : List JsonValue) : Prop where
  parse_raises : Raises (adapter.parse series content)
    ↔ Rejected (fun raw => raw.FiniteNumber ∨ raw.isBool = true) items
      ∨ ((∃ o ∈ items, o.presentValue ≠ none) ∧ adapter.clock.isAware = false)
  parse_rows : ∀ frame, adapter.parse series content = .ok frame →
    List.Forall₂ (IsRowOf series) (items.filter (fun o => o.presentValue.isSome)) frame.rows
  fetch_raises : Raises (adapter.fetch series request)
    ↔ Raises (adapter.parse series content) ∨ ∃ o ∈ items, OutOfWindow request o
  fetch_rows : ∀ answer, adapter.fetch series request = .ok answer →
    answer.rows.Pairwise (fun a b => a.observationDate < b.observationDate)
      ∧ ∃ rows, rows.Perm answer.rows
        ∧ List.Forall₂ (IsRowOf series) (items.filter (fun o => o.presentValue.isSome)) rows

theorem raises_parse_iff (hitems : adapter.observations content = .ok items) :
    Raises (adapter.parse series content)
      ↔ Rejected (fun raw => raw.FiniteNumber ∨ raw.isBool = true) items
        ∨ ((∃ o ∈ items, o.presentValue ≠ none) ∧ adapter.clock.isAware = false) := by
  rw [raises_iff]
  by_cases hacceptable : Acceptable [] items
  · have hrejected := acceptable_iff.mp hacceptable
    rw [or_iff_right hrejected, ← filterMap_ne_nil_iff hacceptable]
    constructor
    · intro h
      by_contra hclock
      refine h ⟨_, (parse_eq_ok hitems).mpr ⟨hacceptable, fun hne => ?_, rfl⟩⟩
      by_contra haware
      exact hclock ⟨hne, Bool.eq_false_iff.mpr haware⟩
    · rintro ⟨hne, hnaive⟩ ⟨frame, hframe⟩
      have haware := ((parse_eq_ok hitems).mp hframe).2.1 hne
      exact Bool.false_ne_true (hnaive.symm.trans haware)
  · have hrejected := not_not.mp (mt acceptable_iff.mpr hacceptable)
    refine iff_of_true (fun ⟨frame, hframe⟩ => ?_) (.inl hrejected)
    exact hacceptable ((parse_eq_ok hitems).mp hframe).1

/-- A row that does not answer a request is that of an observation outside the window. -/
theorem exists_outOfWindow_iff (hitems : adapter.observations content = .ok items)
    {frame : BronzeFrame} (hframe : adapter.parse series content = .ok frame) :
    (∃ o ∈ items, OutOfWindow request o) ↔ ¬ ∀ row ∈ frame.rows, answers request row = true := by
  have hrows := isRowOf_parse hitems hframe
  push Not
  constructor
  · rintro ⟨o, ho, hupdate, hpresent, date, hdate, hwindow⟩
    have hvalue : o.presentValue.isSome = true := Option.isSome_iff_ne_none.mpr hpresent
    obtain ⟨row, hrow, hof⟩ := forall₂_exists_right hrows (List.mem_filter.mpr ⟨ho, hvalue⟩)
    refine ⟨row, hrow, fun hanswers => hwindow ?_⟩
    obtain rfl : date = row.observationDate := Option.some.inj (hdate.symm.trans hof.date)
    exact answers_iff.mp hanswers hupdate
  · rintro ⟨row, hrow, hanswers⟩
    obtain ⟨o, ho, hof⟩ := forall₂_exists_left hrows hrow
    obtain ⟨ho, hvalue⟩ := List.mem_filter.mp ho
    rw [ne_eq, answers_iff, Classical.not_imp] at hanswers
    exact ⟨o, ho, hanswers.1, Option.isSome_iff_ne_none.mp hvalue, row.observationDate, hof.date,
      hanswers.2⟩

theorem raises_fetch_iff (h : Delivered adapter series request content items) :
    Raises (adapter.fetch series request)
      ↔ Raises (adapter.parse series content) ∨ ∃ o ∈ items, OutOfWindow request o := by
  rw [raises_iff, raises_iff]
  simp only [fetch_eq_ok h]
  by_cases hparse : ∃ frame, adapter.parse series content = .ok frame
  · obtain ⟨frame, hframe⟩ := hparse
    rw [or_iff_right (not_not.mpr ⟨frame, hframe⟩), exists_outOfWindow_iff h.observations hframe]
    refine not_congr ⟨?_, fun hanswers => ⟨_, frame, hframe, hanswers, rfl⟩⟩
    rintro ⟨-, frame', hframe', hanswers, -⟩
    obtain rfl : frame = frame' := Except.ok.inj (hframe.symm.trans hframe')
    exact hanswers
  · refine iff_of_true ?_ (.inl hparse)
    rintro ⟨-, frame, hframe, -⟩
    exact hparse ⟨frame, hframe⟩

/-- The rows that are parsed have different dates. -/
theorem nodup_parse (hitems : adapter.observations content = .ok items) {frame : BronzeFrame}
    (h : adapter.parse series content = .ok frame) :
    (frame.rows.map (·.observationDate)).Nodup := by
  obtain ⟨hacceptable, -, rfl⟩ := (parse_eq_ok hitems).mp h
  rw [List.map_map]
  exact nodup_dates hacceptable

/-- **The adapter accepts exactly its grammar.** Of a list of observations it refuses those
with an entry to be refused, and of the rest it yields a row of each observation that has a
value, in the order of dates. -/
theorem acceptsExactly (h : Delivered adapter series request content items) :
    AcceptsExactly adapter series request content items where
  parse_raises := raises_parse_iff h.observations
  parse_rows _ hframe := isRowOf_parse h.observations hframe
  fetch_raises := raises_fetch_iff h
  fetch_rows answer hanswer := by
    obtain ⟨frame, hframe, -, rfl⟩ := (fetch_eq_ok h).mp hanswer
    refine ⟨KeyedRows.sorted_sortRows (nodup_parse h.observations hframe), frame.rows, ?_,
      isRowOf_parse h.observations hframe⟩
    exact (KeyedRows.perm_sortRows _ _).symm

end FredProvider

/-! ## A response -/

/-- An adapter whose transport answers everything with one payload. -/
def fredAnswering (payload : JsonValue) : FredProvider where
  loads := fun _ => .ok payload
  send := fun _ _ _ => .ok ⟨200, []⟩
  apiKey := "key"
  endpoint := "https://api.stlouisfed.org/fred/series/observations"
  clock := .utc 0
  apiKey_nonblank := by decide +kernel

/-- An entry of a payload. -/
def fredEntry (date : String) (value : JsonValue) : JsonValue :=
  .object [("date", .text date), ("value", value)]

/-- A week of the two-year yield, out of order and with two values missing. -/
def fredWeek : List JsonValue :=
  [fredEntry "2026-08-19" (.text "4.25"), fredEntry "2026-08-17" (.text "."),
    fredEntry "2026-08-18" (.real .one), .object [("date", .text "2026-08-20")]]

/-- An update of that week. -/
def weekUpdate : ProviderRequest where
  operation := .update
  logicalStart := some 20682
  logicalEnd := 20685
  maximumHistory := false
  ordered := by simp
  bounded := fun _ => rfl
  maximum := maximumHistory_of_ne_update

theorem acceptsExactly_week :
    FredProvider.AcceptsExactly (fredAnswering (.object [("observations", .array fredWeek)]))
      Series.us2y.contract weekUpdate [] fredWeek :=
  FredProvider.acceptsExactly ⟨rfl, rfl⟩

/-- **A boolean is accepted**, though it is neither missing nor a number. -/
theorem boolean_value_accepted :
    let items := [fredEntry "2026-08-19" (.bool true)]
    let adapter := fredAnswering (.object [("observations", .array items)])
    ¬ (FredProvider.Raises (adapter.parse Series.us2y.contract [])
        ↔ Rejected JsonValue.FiniteNumber items) := by
  intro items adapter h
  have hrejected : Rejected JsonValue.FiniteNumber items :=
    .inr (.inr ⟨_, List.mem_singleton_self _, .bool true, rfl, id⟩)
  obtain ⟨e, he⟩ := h.mpr hrejected
  cases he
