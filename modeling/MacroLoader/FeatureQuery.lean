import MacroLoader.RawTables
import MacroLoader.Window
import MacroLoader.SqlDouble
import MacroLoader.FeatureCatalog

/-!
# The published feature query

The long feature view is one query, assembled from a chain of common table
expressions per series. Each expression is a definition here, under the name
the query gives it, from the relations it selects from to the relation it
makes; a relation is a table keyed by the timestamp.

Three conventions of the query are kept throughout. A `WHERE` that drops a row
makes the rows after it count from the rows that are left, so a selection and
the window over it are two relations, in the order in which the query nests
them. The row numbers over which some windows are ordered are given out in
timestamp order, so ordering by them is the key order. And a column that
depends on a lag, a window or a period is a function of it: the query
instantiates the columns for the finitely many values the catalogue lists.

The query has two sources of levels for its recurrences. With
`preserveRawNulls` they read the series' own raw table, so that a row whose
level is null is seen as such; without, they read the non-null levels only.
-/

open KeyedTable

/-- A relation of the query, keyed by timestamp. -/
abbrev Relation (R : Type) := KeyedTable Timestamp R

variable {V : Type} [SqlDouble V]

/-! ## Levels, lags and changes -/

/-- A row of the `source` relation. -/
structure SourceRow (V : Type) where
  level : V
  /-- The `lag_k` columns. -/
  lag : ℕ → Option V
  observationNumber : ℕ

/-- The rows of the projection in which the level is not null. -/
def levelCte (s : Series) (projection : Relation (WideRow V)) : Relation V :=
  projection.filterMap (fun _ row => row (.level s))

/-- `<series>_source`. -/
def sourceCte (s : Series) (projection : Relation (WideRow V)) : Relation (SourceRow V) :=
  (levelCte s projection).window (fun rows i level =>
    { level := level
      lag := fun k => KeyedTable.lag some k rows i
      observationNumber := rowNumber rows i })

/-- The relation the recurrences read: the raw table of the series, null rows
included, or the source rows. -/
def emaSourceCte {shape : NativeShape} (preserveRawNulls : Bool) (source : Relation (SourceRow V))
    (table : KeyedTable Timestamp (RawRow V shape)) : Relation (Option V) :=
  if preserveRawNulls then table.map RawRow.level else source.map (fun r => some r.level)

/-- The difference to the previous source row. -/
def SourceRow.change (r : SourceRow V) : Option V := Sql.sub (some r.level) (r.lag 1)

/-- A row of the `changes` relation. -/
structure ChangeRow (V : Type) extends SourceRow V where
  /-- The `delta_k` columns. -/
  delta : ℕ → Option V
  change : Option V
  /-- The `change_lag_k` columns. -/
  changeLag : ℕ → Option V
  gain : Option V
  loss : Option V
  /-- The `log_return_w` columns. -/
  logReturn : ℕ → Option V

/-- `<series>_changes`. -/
def changesCte (safeLogInputs : Bool) (source : Relation (SourceRow V)) : Relation (ChangeRow V) :=
  source.window (fun rows i r =>
    let level := some r.level
    let adjacentPositive := Sql.gt level (Sql.lit 0) && Sql.gt (r.lag 1) (Sql.lit 0)
    { toSourceRow := r
      delta := fun k => Sql.sub level (r.lag k)
      change := r.change
      changeLag := fun k => KeyedTable.lag SourceRow.change k rows i
      gain := Sql.caseWhen adjacentPositive
        (Sql.greatest (Sql.sub level (r.lag 1)) (Sql.lit 0))
      loss := Sql.caseWhen adjacentPositive
        (Sql.greatest (Sql.sub (r.lag 1) level) (Sql.lit 0))
      logReturn := fun w =>
        Sql.caseWhen (Sql.gt level (Sql.lit 0) && Sql.gt (r.lag w) (Sql.lit 0))
          (Sql.ln safeLogInputs (Sql.div level (r.lag w))) })

/-! ## Wilder RSI -/

/-- The state of the RSI recurrence. -/
structure RsiState (V : Type) where
  validCount : ℕ
  gainSum : Option V
  lossSum : Option V
  avgGain : Option V
  avgLoss : Option V

/-- The initial row of the recurrence. -/
def rsiInit (r : ChangeRow V) : RsiState V where
  validCount := if r.gain.isNone || r.loss.isNone then 0 else 1
  gainSum := r.gain.or (Sql.lit 0)
  lossSum := r.loss.or (Sql.lit 0)
  avgGain := none
  avgLoss := none

/-- The sum carried towards the seed of an average, and the average, are
written once for gains and once for losses. -/
def rsiSum (invalid : Bool) (avg sum value : Option V) : Option V :=
  if invalid then Sql.lit 0 else if avg.isNone then Sql.add sum value else Sql.lit 0

/-- The next average: seeded when the count reaches the period, smoothed
afterwards. -/
def rsiAverage (period : ℕ) (invalid : Bool) (validCount : ℕ) (avg sum value : Option V) :
    Option V :=
  if invalid then none
  else if avg.isNone && decide (period ≤ validCount + 1) then
    Sql.div (Sql.add sum value) (Sql.lit period)
  else if avg.isSome then
    Sql.div (Sql.add (Sql.mul (Sql.lit ((period : ℚ) - 1)) avg) value) (Sql.lit period)
  else none

/-- The recursive row of the recurrence. -/
def rsiStep (period : ℕ) (st : RsiState V) (r : ChangeRow V) : RsiState V :=
  let invalid := r.gain.isNone || r.loss.isNone
  { validCount :=
      if invalid then 0
      else if st.avgGain.isNone then Nat.min (st.validCount + 1) period else period
    gainSum := rsiSum invalid st.avgGain st.gainSum r.gain
    lossSum := rsiSum invalid st.avgLoss st.lossSum r.loss
    avgGain := rsiAverage period invalid st.validCount st.avgGain st.gainSum r.gain
    avgLoss := rsiAverage period invalid st.validCount st.avgLoss st.lossSum r.loss }

/-- `<series>_rsi_<period>_state`. -/
def rsiStateCte (period : ℕ) (changes : Relation (ChangeRow V)) : Relation (RsiState V) :=
  changes.recursive rsiInit (rsiStep period)

/-- The index from the two averages, null before the period is over. -/
def rsiValue (period observationNumber : ℕ) (gain loss : Option V) : Option V :=
  if observationNumber < period + 1 then none
  else if gain.isNone || loss.isNone then none
  else if Sql.eq gain (Sql.lit 0) && Sql.eq loss (Sql.lit 0) then none
  else if Sql.eq loss (Sql.lit 0) then Sql.lit 100
  else Sql.sub (Sql.lit 100)
    (Sql.div (Sql.lit 100) (Sql.add (Sql.lit 1) (Sql.div gain loss)))

/-- A row of the `rsi_values` relation. -/
structure RsiRow (V : Type) extends ChangeRow V where
  /-- The `rsi_value_p` columns. -/
  rsiValue : ℕ → Option V

/-- `<series>_rsi_input` and `<series>_rsi_values`: the changes joined with the
states of every period, and the indices computed from them. -/
def rsiValuesCte (changes : Relation (ChangeRow V)) : Relation (RsiRow V) :=
  (changes.leftJoinFamily (fun period => rsiStateCte period changes)).map (fun p =>
    { toChangeRow := p.1
      rsiValue := fun period =>
        rsiValue period p.1.observationNumber ((p.2 period).bind RsiState.avgGain)
          ((p.2 period).bind RsiState.avgLoss) })

/-! ## The windowed features of the level -/

/-- `window_<w>`: the current row and the `w - 1` before it. -/
def trailing {R : Type} (w : ℕ) (rows : List R) (i : ℕ) : List R := frame (w - 1) 0 rows i

/-- The level column, which is never null in the source rows. -/
def RsiRow.levelCell (r : RsiRow V) : Option V := some r.level

/-- The expressions of `<series>_feature_base`. -/
def baseColumn (rows : List (RsiRow V)) (i : ℕ) (r : RsiRow V) : FeatureSuffix → Option V
  | .windowed .logReturn w => r.logReturn w
  | .windowed .delta k => r.delta k
  | .single .zscore60 =>
    let w := trailing 60 rows i
    let deviation := Sql.stddevPop RsiRow.levelCell w
    Sql.caseWhen (Sql.count RsiRow.levelCell w == 60 && Sql.ne deviation (Sql.lit 0))
      (Sql.div (Sql.sub r.levelCell (Sql.avg RsiRow.levelCell w)) deviation)
  | .paired .momentumAutocorr k n =>
    let w := trailing n rows i
    let correlation := Sql.corr (fun x : RsiRow V => x.change) (fun x => x.changeLag k) w
    Sql.caseWhen
      (Sql.count (fun x : RsiRow V => x.change) w == n
        && Sql.count (fun x : RsiRow V => x.changeLag k) w == n)
      (if correlation.isNone then none else Sql.greatest correlation (Sql.lit 0))
  | .windowed .returnGeom n =>
    let w := trailing n rows i
    Sql.caseWhen (Sql.count (fun x : RsiRow V => x.logReturn 1) w == n)
      (Sql.sub ((Sql.sum (fun x : RsiRow V => x.logReturn 1) w).map SqlDouble.exp) (Sql.lit 1))
  | .windowed .returnMean n =>
    let w := trailing n rows i
    Sql.caseWhen (Sql.count (fun x : RsiRow V => x.logReturn 1) w == n)
      (Sql.avg (fun x : RsiRow V => x.logReturn 1) w)
  | .windowed .volatility n =>
    let w := trailing n rows i
    Sql.caseWhen (Sql.count (fun x : RsiRow V => x.logReturn 1) w == n)
      (Sql.stddevSamp (fun x : RsiRow V => x.logReturn 1) w)
  | .paired .smaRatio short long =>
    Sql.caseWhen (Sql.count RsiRow.levelCell (trailing long rows i) == long)
      (Sql.div (Sql.avg RsiRow.levelCell (trailing short rows i))
        (Sql.nullif (Sql.avg RsiRow.levelCell (trailing long rows i)) (Sql.lit 0)))
  | .windowed .rsi p => r.rsiValue p
  | .single .rsiRatio =>
    let rsi15 := r.rsiValue rsiCompositeInternalWindow
    Sql.caseWhen ((r.rsiValue 5).isSome && rsi15.isSome)
      (Sql.div (r.rsiValue 5) (Sql.nullif rsi15 (Sql.lit 0)))
  | .windowed .roc w =>
    Sql.caseWhen (Sql.gt r.levelCell (Sql.lit 0) && Sql.gt (r.lag w) (Sql.lit 0))
      (Sql.sub (Sql.div r.levelCell (r.lag w)) (Sql.lit 1))
  | .single .rocAcceleration =>
    Sql.caseWhen
      (Sql.gt r.levelCell (Sql.lit 0) && Sql.gt (r.lag 4) (Sql.lit 0)
        && Sql.gt (r.lag 8) (Sql.lit 0))
      (Sql.sub (Sql.sub (Sql.div r.levelCell (r.lag 4)) (Sql.lit 1))
        (Sql.sub (Sql.div r.levelCell (r.lag 8)) (Sql.lit 1)))
  | .windowed .drawdown n =>
    let w := trailing n rows i
    Sql.caseWhen (Sql.count RsiRow.levelCell w == n)
      (Sql.sub (Sql.div r.levelCell (Sql.nullif (Sql.max RsiRow.levelCell w) (Sql.lit 0)))
        (Sql.lit 1))
  | _ => none

/-- A row of the `feature_base` relation. -/
structure FeatureBaseRow (V : Type) where
  level : V
  column : FeatureSuffix → Option V

/-- `<series>_feature_base`. -/
def featureBaseCte (rsiValues : Relation (RsiRow V)) : Relation (FeatureBaseRow V) :=
  rsiValues.window (fun rows i r => ⟨r.level, baseColumn rows i r⟩)

/-! ## Bar metrics -/

/-- The two metrics computed from one bar. -/
inductive BarMetric
  | highLowRange | intradayReturn

/-- A metric of one bar: the formula where its operands are finite and its
denominator is positive. -/
def barMetric (s : Series) (metric : BarMetric) (row : WideRow V) : Option V :=
  let open_ := barCell s .open_ row
  let high := barCell s .high row
  let low := barCell s .low row
  let close := barCell s .close row
  match metric with
  | .highLowRange =>
    Sql.caseWhen (Sql.finite high && Sql.finite low && Sql.finite close
        && Sql.gt close (Sql.lit 0))
      (Sql.div (Sql.sub high low) close)
  | .intradayReturn =>
    Sql.caseWhen (Sql.finite close && Sql.finite open_ && Sql.gt open_ (Sql.lit 0))
      (Sql.div (Sql.sub close open_) open_)

/-- `<series>_<family>_metric`. -/
def barMetricCte (s : Series) (metric : BarMetric) (projection : Relation (WideRow V)) :
    Relation (Option V) :=
  projection.map (barMetric s metric)

/-- `<series>_<family>_valid`: the metric where it is a finite number. -/
def finiteCte (metric : Relation (Option V)) : Relation V :=
  metric.filterMap (fun _ value => Sql.caseWhen (Sql.finite value) value)

/-- `<series>_<family>_rolling`: the mean of five consecutive valid metrics. -/
def rollingCte (valid : Relation V) : Relation (Option V) :=
  valid.window (fun rows i _ =>
    let w := trailing 5 rows i
    let mean := Sql.avg some w
    Sql.caseWhen (w.length == 5 && Sql.finite mean) mean)

/-- The finite values of one bar field, as a relation. -/
def finiteFieldCte (s : Series) (f : OhlcField) (projection : Relation (WideRow V)) : Relation V :=
  projection.filterMap (fun _ row => Sql.caseWhen (Sql.finite (barCell s f row)) (barCell s f row))

/-- `<series>_overnight_source`: every finite open with the last finite close
before it. -/
def overnightSourceCte (s : Series) (projection : Relation (WideRow V)) : Relation (V × Option V) :=
  (finiteFieldCte s .open_ projection).lateralJoin (finiteFieldCte s .close projection)

/-- `<series>_overnight_valid`. -/
def overnightValidCte (source : Relation (V × Option V)) : Relation (Option V) :=
  source.filterMap (fun _ r =>
    Sql.caseWhen (Sql.gt r.2 (Sql.lit 0) && Sql.finite (some r.1))
      (some (Sql.div (Sql.sub (some r.1) r.2) r.2)))

/-! ## Stochastic oscillator and Donchian channel -/

/-- A complete bar. -/
structure OhlcBar (V : Type) where
  open_ : V
  high : V
  low : V
  close : V

/-- The bar of a wide row, if all its fields are finite. -/
def finiteBar (s : Series) (row : WideRow V) : Option (OhlcBar V) :=
  if ohlcFields.all (fun f => Sql.finite (barCell s f row)) then do
    let open_ ← barCell s .open_ row
    let high ← barCell s .high row
    let low ← barCell s .low row
    let close ← barCell s .close row
    return ⟨open_, high, low, close⟩
  else none

/-- `<series>_ohlc_observations`: the complete finite bars. -/
def ohlcObservationsCte (s : Series) (projection : Relation (WideRow V)) : Relation (OhlcBar V) :=
  projection.filterMap (fun _ row => finiteBar s row)

/-- A row of the `ohlc_windows` relation. -/
structure OhlcWindowRow (V : Type) extends OhlcBar V where
  count5 : ℕ
  minLow5 : Option V
  maxHigh5 : Option V
  count14 : ℕ
  minLow14 : Option V
  maxHigh14 : Option V
  priorCount20 : ℕ
  priorMaxHigh20 : Option V
  priorMinLow20 : Option V

/-- `<series>_ohlc_windows`. -/
def ohlcWindowsCte (bars : Relation (OhlcBar V)) : Relation (OhlcWindowRow V) :=
  bars.window (fun rows i bar =>
    let low := fun b : OhlcBar V => some b.low
    let high := fun b : OhlcBar V => some b.high
    let w5 := frame 4 0 rows i
    let w14 := frame 13 0 rows i
    let prior20 := frame 20 1 rows i
    { toOhlcBar := bar
      count5 := w5.length
      minLow5 := Sql.min low w5
      maxHigh5 := Sql.max high w5
      count14 := w14.length
      minLow14 := Sql.min low w14
      maxHigh14 := Sql.max high w14
      priorCount20 := prior20.length
      priorMaxHigh20 := Sql.max high prior20
      priorMinLow20 := Sql.min low prior20 })

/-- `%K`: the place of the close in the range of a full window. -/
def stochK (n count : ℕ) (close : V) (minLow maxHigh : Option V) : Option V :=
  let k := Sql.div (Sql.mul (Sql.lit 100) (Sql.sub (some close) minLow)) (Sql.sub maxHigh minLow)
  Sql.caseWhen (count == n && Sql.gt maxHigh minLow) (Sql.caseWhen (Sql.finite k) k)

/-- A row of the `stochastic_raw` relation. -/
structure StochasticRow (V : Type) extends OhlcWindowRow V where
  stochK5 : Option V
  stochK14 : Option V

/-- `<series>_stochastic_raw`. -/
def stochasticRawCte (windows : Relation (OhlcWindowRow V)) : Relation (StochasticRow V) :=
  windows.map (fun r =>
    { toOhlcWindowRow := r
      stochK5 := stochK 5 r.count5 r.close r.minLow5 r.maxHigh5
      stochK14 := stochK 14 r.count14 r.close r.minLow14 r.maxHigh14 })

/-- A row of the `stochastic_history` relation. -/
structure StochasticHistoryRow (V : Type) extends StochasticRow V where
  validK5Count : ℕ
  stochD53 : Option V
  validK14Count : ℕ
  stochD143 : Option V
  stochK5Lag3 : Option V

/-- `<series>_stochastic_history`. -/
def stochasticHistoryCte (raw : Relation (StochasticRow V)) : Relation (StochasticHistoryRow V) :=
  raw.window (fun rows i r =>
    let w3 := frame 2 0 rows i
    { toStochasticRow := r
      validK5Count := Sql.count StochasticRow.stochK5 w3
      stochD53 := Sql.avg StochasticRow.stochK5 w3
      validK14Count := Sql.count StochasticRow.stochK14 w3
      stochD143 := Sql.avg StochasticRow.stochK14 w3
      stochK5Lag3 := KeyedTable.lag StochasticRow.stochK5 3 rows i })

/-- A published cell: a number, or one of the boolean Donchian flags. -/
inductive Cell (V : Type)
  | number (v : V)
  | boolean (b : Bool)

/-- A nullable number as a cell. -/
def numberCell (v : Option V) : Option (Cell V) := v.map Cell.number

/-- A nullable comparison as a cell. -/
def greaterCell (a b : Option V) : Option (Cell V) :=
  Option.map₂ (fun x y => Cell.boolean (SqlDouble.lt y x)) a b

/-- `<series>_stochastic_features`. -/
def stochasticFeaturesCte (history : Relation (StochasticHistoryRow V)) :
    Relation (SingleFeature → Option (Cell V)) :=
  history.map (fun r feature =>
    let spread := Sql.sub r.stochK5 r.stochD53
    let slope := Sql.div (Sql.sub r.stochK5 r.stochK5Lag3) (Sql.lit 3)
    match feature with
    | .stochK5 => numberCell r.stochK5
    | .stochD53 =>
      numberCell (Sql.caseWhen (r.validK5Count == 3 && Sql.finite r.stochD53) r.stochD53)
    | .stochK14 => numberCell r.stochK14
    | .stochD143 =>
      numberCell (Sql.caseWhen (r.validK14Count == 3 && Sql.finite r.stochD143) r.stochD143)
    | .stochKdSpread5 =>
      numberCell (Sql.caseWhen (r.validK5Count == 3 && Sql.finite spread) spread)
    | .stochKSlope3 =>
      numberCell (Sql.caseWhen (r.stochK5.isSome && r.stochK5Lag3.isSome)
        (Sql.caseWhen (Sql.finite slope) slope))
    | .donchianBreakoutUp =>
      Sql.caseWhen (r.priorCount20 == 20) (greaterCell (some r.high) r.priorMaxHigh20)
    | .donchianBreakoutDown =>
      Sql.caseWhen (r.priorCount20 == 20) (greaterCell r.priorMinLow20 (some r.low))
    | _ => none)

/-! ## RSI history -/

/-- `<series>_rsi5_observations`. -/
def rsi5ObservationsCte (base : Relation (FeatureBaseRow V)) : Relation (Option V) :=
  base.map (fun r => r.column (FeatureSuffix.rsi 5))

/-- `<series>_rsi5_history`: the slope over three rows and the difference to the
previous one. -/
def rsi5HistoryCte (observations : Relation (Option V)) : Relation (Option V × Option V) :=
  observations.window (fun rows i rsi5 =>
    let lag3 := KeyedTable.lag id 3 rows i
    let lag1 := KeyedTable.lag id 1 rows i
    (Sql.caseWhen (rsi5.isSome && lag3.isSome) (Sql.div (Sql.sub rsi5 lag3) (Sql.lit 3)),
     Sql.caseWhen (rsi5.isSome && lag1.isSome) (Sql.sub rsi5 lag1)))

/-! ## Exponential moving averages and MACD -/

/-- The state of the moving-average recurrence. -/
structure EmaState (V : Type) where
  seedCount : ℕ
  seedSum : Option V
  ema : Option V

/-- Whether a level feeds the recurrence. -/
def emaValid (allowNonpositive : Bool) (level : Option V) : Bool :=
  if allowNonpositive then level.isSome else level.isSome && Sql.gt level (Sql.lit 0)

/-- Whether a level resets it. -/
def emaInvalid (allowNonpositive : Bool) (level : Option V) : Bool :=
  if allowNonpositive then level.isNone else level.isNone || Sql.le level (Sql.lit 0)

/-- The initial row of the recurrence. -/
def emaInit (allowNonpositive : Bool) (level : Option V) : EmaState V where
  seedCount := if emaValid allowNonpositive level then 1 else 0
  seedSum := if emaValid allowNonpositive level then level else Sql.lit 0
  ema := none

/-- The recursive row of the recurrence. -/
def emaStep (period : ℕ) (allowNonpositive : Bool) (st : EmaState V) (level : Option V) :
    EmaState V :=
  let alpha : Option V := Sql.div (Sql.lit 2) (Sql.lit ((period : ℚ) + 1))
  { seedCount :=
      if emaValid allowNonpositive level then
        if st.ema.isNone then st.seedCount + 1 else period
      else 0
    seedSum :=
      if emaValid allowNonpositive level && st.ema.isNone then Sql.add st.seedSum level
      else Sql.lit 0
    ema :=
      if emaInvalid allowNonpositive level then none
      else if st.ema.isSome then
        Sql.add (Sql.mul alpha level) (Sql.mul (Sql.sub (Sql.lit 1) alpha) st.ema)
      else if period ≤ st.seedCount + 1 then
        Sql.div (Sql.add st.seedSum level) (Sql.lit period)
      else none }

/-- `_ema_state_cte`: the moving average of a relation of nullable values. -/
def emaStateCte (period : ℕ) (allowNonpositive : Bool) (input : Relation (Option V)) :
    Relation (Option V) :=
  (input.recursive (emaInit allowNonpositive) (emaStep period allowNonpositive)).map EmaState.ema

/-- `<series>_macd_input`: the MACD line, where both averages exist. -/
def macdInputCte (emaSource : Relation (Option V)) : Relation (Option V) :=
  ((emaSource.leftJoin (emaStateCte 12 false emaSource)).leftJoin
    (emaStateCte 26 false emaSource)).map (fun r =>
      let ema12 := r.1.2.join
      let ema26 := r.2.join
      Sql.caseWhen (ema12.isSome && ema26.isSome) (Sql.sub ema12 ema26))

/-- A row of the `macd_base` relation. -/
structure MacdRow (V : Type) where
  level : Option V
  macdLine : Option V
  macdSignal : Option V

/-- `<series>_macd_base`: the raw rows with the line and its signal. -/
def macdBaseCte (emaSource : Relation (Option V)) : Relation (MacdRow V) :=
  let macdInput := macdInputCte emaSource
  ((emaSource.innerJoin macdInput).leftJoin
    (emaStateCte macdSignalEmaPeriod true macdInput)).map (fun r => ⟨r.1.1, r.1.2, r.2.join⟩)

/-- `<series>_macd_relative`: the line and the histogram over a positive level. -/
def macdRelativeCte (base : Relation (MacdRow V)) : Relation (Option V × Option V) :=
  base.map (fun r =>
    let positive := Sql.gt r.level (Sql.lit 0)
    (Sql.caseWhen (positive && r.macdLine.isSome) (Sql.div r.macdLine r.level),
     Sql.caseWhen (positive && r.macdLine.isSome && r.macdSignal.isSome)
       (Sql.div (Sql.sub r.macdLine r.macdSignal) r.level)))

/-- `<series>_macd_history` and `<series>_macd_features`. -/
def macdFeaturesCte (relative : Relation (Option V × Option V)) :
    Relation (SingleFeature → Option V) :=
  relative.window (fun rows i r feature =>
    let histLag3 := KeyedTable.lag Prod.snd 3 rows i
    match feature with
    | .macdLineRelative => r.1
    | .macdHistRelative => r.2
    | .macdHistDelta3 =>
      Sql.caseWhen (r.2.isSome && histLag3.isSome) (Sql.sub r.2 histLag3)
    | _ => none)

/-! ## Z-scores and return autocorrelation -/

/-- The z-score of the current value within a full trailing window. -/
def zscoreCte (window : ℕ) (valid : Relation V) : Relation (Option V) :=
  valid.window (fun rows i value =>
    let w := trailing window rows i
    let deviation := Sql.stddevSamp some w
    Sql.caseWhen (w.length == window && Sql.ne deviation (Sql.lit 0))
      (Sql.div (Sql.sub (some value) (Sql.avg some w)) deviation))

/-- `<series>_level_valid`: the positive levels. -/
def levelValidCte (source : Relation (SourceRow V)) : Relation V :=
  source.filterMap (fun _ r => Sql.caseWhen (Sql.gt (some r.level) (Sql.lit 0)) (some r.level))

/-- `<series>_volatility8_valid`: the volatilities that are not null. -/
def volatilityValidCte (base : Relation (FeatureBaseRow V)) : Relation V :=
  base.filterMap (fun _ r => r.column (FeatureSuffix.volatility 8))

/-- `<series>_valid_return_pairs_<lag>`: the returns with the return `k` rows
earlier, where both exist. -/
def validReturnPairsCte (k : ℕ) (changes : Relation (ChangeRow V)) : Relation (V × V) :=
  (changes.window (fun rows i r =>
    (r.logReturn 1, KeyedTable.lag (fun x : ChangeRow V => x.logReturn 1) k rows i))).filterMap
      (fun _ p => Option.map₂ Prod.mk p.1 p.2)

/-- `<series>_return_autocorr_<lag>`. -/
def returnAutocorrCte (window : ℕ) (pairs : Relation (V × V)) : Relation (Option V) :=
  pairs.window (fun rows i _ =>
    let w := trailing window rows i
    Sql.caseWhen
      (w.length == window
        && Sql.ne (Sql.stddevSamp (fun p : V × V => some p.1) w) (Sql.lit 0)
        && Sql.ne (Sql.stddevSamp (fun p : V × V => some p.2) w) (Sql.lit 0))
      (Sql.corr (fun p : V × V => some p.1) (fun p => some p.2) w))

/-! ## Moving-average features -/

/-- A row of the `ema_aligned` relation. -/
structure EmaAlignedRow (V : Type) where
  level : V
  ema5 : Option V
  ema9 : Option V
  ema21 : Option V

/-- `<series>_ema_aligned`: the source rows with the averages at them. -/
def emaAlignedCte (source : Relation (SourceRow V)) (emaSource : Relation (Option V)) :
    Relation (EmaAlignedRow V) :=
  (((source.leftJoin (emaStateCte 5 false emaSource)).leftJoin
    (emaStateCte 9 false emaSource)).leftJoin (emaStateCte 21 false emaSource)).map (fun r =>
      ⟨r.1.1.1.level, r.1.1.2.join, r.1.2.join, r.2.join⟩)

/-- The crossover of the two averages between the previous row and this one. -/
def emaCross (ema5 ema9 previous5 previous9 : Option V) : Option V :=
  if Sql.gt ema5 ema9 && Sql.le previous5 previous9 then Sql.lit 1
  else if Sql.lt ema5 ema9 && Sql.ge previous5 previous9 then Sql.lit (-1)
  else Sql.lit 0

/-- `<series>_ema_history` and `<series>_ema_features`. -/
def emaFeaturesCte (aligned : Relation (EmaAlignedRow V)) : Relation (SingleFeature → Option V) :=
  aligned.window (fun rows i r feature =>
    let level := some r.level
    let positive := Sql.gt level (Sql.lit 0)
    let previous5 := KeyedTable.lag EmaAlignedRow.ema5 1 rows i
    let previous9 := KeyedTable.lag EmaAlignedRow.ema9 1 rows i
    let ema9Lag3 := KeyedTable.lag EmaAlignedRow.ema9 3 rows i
    let distance := fun ema : Option V =>
      Sql.caseWhen (positive && ema.isSome)
        (Sql.sub (Sql.div level (Sql.nullif ema (Sql.lit 0))) (Sql.lit 1))
    match feature with
    | .ema5Distance => distance r.ema5
    | .ema9Distance => distance r.ema9
    | .ema21Distance => distance r.ema21
    | .ema5Ema21Spread =>
      Sql.caseWhen (positive && r.ema5.isSome && r.ema21.isSome)
        (Sql.div (Sql.sub r.ema5 r.ema21) (Sql.nullif level (Sql.lit 0)))
    | .ema9Slope3 =>
      Sql.caseWhen (positive && r.ema9.isSome && ema9Lag3.isSome)
        (Sql.div (Sql.sub r.ema9 ema9Lag3) (Sql.mul (Sql.lit 3) level))
    | .ema5Ema9Cross =>
      Sql.caseWhen (positive && r.ema5.isSome && r.ema9.isSome && previous5.isSome
          && previous9.isSome)
        (emaCross r.ema5 r.ema9 previous5 previous9)
    | _ => none)

/-! ## The features of a series -/

section Series

variable (s : Series) (projection : Relation (WideRow V))
  (table : KeyedTable Timestamp (RawRow V s.nativeShape)) (preserveRawNulls safeLogInputs : Bool)

/-- The `changes` of a series. -/
def seriesChanges : Relation (ChangeRow V) := changesCte safeLogInputs (sourceCte s projection)

/-- The `feature_base` of a series. -/
def seriesBase : Relation (FeatureBaseRow V) :=
  featureBaseCte (rsiValuesCte (seriesChanges s projection safeLogInputs))

/-- The relation the recurrences of a series read. -/
def seriesEmaSource : Relation (Option V) :=
  emaSourceCte preserveRawNulls (sourceCte s projection) table

/-- **The helper relations of a series**, by the column they contribute. -/
def helperColumn : FeatureSuffix → Relation (Option (Cell V))
  | .windowed .highLowRange 1 =>
    (finiteCte (barMetricCte s .highLowRange projection)).map (fun v => numberCell (some v))
  | .windowed .highLowRange 5 =>
    (rollingCte (finiteCte (barMetricCte s .highLowRange projection))).map numberCell
  | .windowed .intradayReturn 1 =>
    (finiteCte (barMetricCte s .intradayReturn projection)).map (fun v => numberCell (some v))
  | .windowed .intradayReturn 5 =>
    (rollingCte (finiteCte (barMetricCte s .intradayReturn projection))).map numberCell
  | .windowed .overnightGap 1 =>
    (finiteCte (overnightValidCte (overnightSourceCte s projection))).map
      (fun v => numberCell (some v))
  | .windowed .overnightGap 5 =>
    (rollingCte (finiteCte (overnightValidCte (overnightSourceCte s projection)))).map numberCell
  | .single .rsi5Slope3 =>
    (rsi5HistoryCte (rsi5ObservationsCte (seriesBase s projection safeLogInputs))).map
      (fun r => numberCell r.1)
  | .single .rsi5Delta1 =>
    (rsi5HistoryCte (rsi5ObservationsCte (seriesBase s projection safeLogInputs))).map
      (fun r => numberCell r.2)
  | .single .levelZscore96 =>
    (zscoreCte levelZscoreWindow (levelValidCte (sourceCte s projection))).map numberCell
  | .single .volatilityZscore96 =>
    (zscoreCte volatilityZscoreWindow
      (volatilityValidCte (seriesBase s projection safeLogInputs))).map numberCell
  | .paired .returnAutocorr k window =>
    (returnAutocorrCte window
      (validReturnPairsCte k (seriesChanges s projection safeLogInputs))).map numberCell
  | .single .macdLineRelative =>
    (macdFeaturesCte (macdRelativeCte (macdBaseCte
      (seriesEmaSource s projection table preserveRawNulls)))).map
        (fun r => numberCell (r .macdLineRelative))
  | .single .macdHistRelative =>
    (macdFeaturesCte (macdRelativeCte (macdBaseCte
      (seriesEmaSource s projection table preserveRawNulls)))).map
        (fun r => numberCell (r .macdHistRelative))
  | .single .macdHistDelta3 =>
    (macdFeaturesCte (macdRelativeCte (macdBaseCte
      (seriesEmaSource s projection table preserveRawNulls)))).map
        (fun r => numberCell (r .macdHistDelta3))
  | .single .stochK5 => stochastic .stochK5
  | .single .stochD53 => stochastic .stochD53
  | .single .stochK14 => stochastic .stochK14
  | .single .stochD143 => stochastic .stochD143
  | .single .stochKdSpread5 => stochastic .stochKdSpread5
  | .single .stochKSlope3 => stochastic .stochKSlope3
  | .single .donchianBreakoutUp => stochastic .donchianBreakoutUp
  | .single .donchianBreakoutDown => stochastic .donchianBreakoutDown
  | .single .ema5Distance => emaFeature .ema5Distance
  | .single .ema9Distance => emaFeature .ema9Distance
  | .single .ema21Distance => emaFeature .ema21Distance
  | .single .ema5Ema21Spread => emaFeature .ema5Ema21Spread
  | .single .ema9Slope3 => emaFeature .ema9Slope3
  | .single .ema5Ema9Cross => emaFeature .ema5Ema9Cross
  | _ => .empty
where
  stochastic (feature : SingleFeature) : Relation (Option (Cell V)) :=
    (stochasticFeaturesCte (stochasticHistoryCte (stochasticRawCte (ohlcWindowsCte
      (ohlcObservationsCte s projection))))).map (fun r => r feature)
  emaFeature (feature : SingleFeature) : Relation (Option (Cell V)) :=
    (emaFeaturesCte (emaAlignedCte (sourceCte s projection)
      (seriesEmaSource s projection table preserveRawNulls))).map
        (fun r => numberCell (r feature))

/-- **`<series>_features`**: the base rows with every helper joined to them. A
column comes from the helper that has it, and from the base otherwise. -/
def featuresCte : Relation (FeatureSuffix → Option (Cell V)) :=
  ((seriesBase s projection safeLogInputs).leftJoinFamily
    (helperColumn s projection table preserveRawNulls safeLogInputs)).map (fun r suffix =>
      (r.2 suffix).join.or (numberCell (r.1.column suffix)))

end Series

/-! ## The views -/

/-- The cross-series expressions over one wide row. -/
def crossExpression (safeLogInputs : Bool) (raw : WideRow V) : CrossFeature → Option V
  | .vix9dVixRatio =>
    Sql.caseWhen (Sql.gt (raw (.level .vix)) (Sql.lit 0))
      (Sql.div (raw (.level .vix9d)) (raw (.level .vix)))
  | .vixVix3mRatio =>
    Sql.caseWhen (Sql.gt (raw (.level .vix3m)) (Sql.lit 0))
      (Sql.div (raw (.level .vix)) (raw (.level .vix3m)))
  | .vix9dVix3mLogRatio =>
    Sql.caseWhen (Sql.gt (raw (.level .vix9d)) (Sql.lit 0)
        && Sql.gt (raw (.level .vix3m)) (Sql.lit 0))
      (Sql.ln safeLogInputs (Sql.div (raw (.level .vix9d)) (raw (.level .vix3m))))
  | .vix3mMinusVix => Sql.sub (raw (.level .vix3m)) (raw (.level .vix))
  | .vix6mMinusVix => Sql.sub (raw (.level .vix6m)) (raw (.level .vix))
  | .vix1yMinusVix => Sql.sub (raw (.level .vix1y)) (raw (.level .vix))
  | .us10yMinusUs2y => Sql.sub (raw (.level .us10y)) (raw (.level .us2y))

/-- The log-level expression over one wide row. -/
def logLevelExpression (safeLogInputs : Bool) (raw : WideRow V) (s : Series) : Option V :=
  Sql.caseWhen (Sql.gt (raw (.level s)) (Sql.lit 0)) (Sql.ln safeLogInputs (raw (.level s)))

/-- **`_macro_features_view_query`**: the wide rows of `rawRelation` with the
features of every series joined to them. -/
def macroFeaturesView (rawRelation : Relation (WideRow V)) (D : RawTables V)
    (preserveRawNulls safeLogInputs : Bool) : Relation (Feature → Option (Cell V)) :=
  (rawRelation.leftJoinFamily (fun s =>
    featuresCte s rawRelation (D s) preserveRawNulls safeLogInputs)).map (fun r feature =>
      match feature with
      | .own s (.single .logLevel) => numberCell (logLevelExpression safeLogInputs r.1 s)
      | .own s suffix => (r.2 s).bind (fun columns => columns suffix)
      | .cross c => numberCell (crossExpression safeLogInputs r.1 c))

/-- The primary source of the long view: one query over the projection of all
tables. -/
def primaryFeaturesView (D : RawTables V) : Relation (Feature → Option (Cell V)) :=
  macroFeaturesView (rawFeatureProjection goldSourceSeries D) D true true

/-- `_assembled_features_view_query`, inlined: the wide rows of all tables with,
for each series, the query over that series' own projection. -/
def extendedFeaturesView (D : RawTables V) : Relation (Feature → Option (Cell V)) :=
  ((rawFeatureProjection goldSourceSeries D).leftJoinFamily (fun s =>
    macroFeaturesView (rawFeatureProjection [s] D) D true true)).map (fun r feature =>
      match feature with
      | .own s _ => (r.2 s).bind (fun columns => columns feature)
      | .cross c => numberCell (crossExpression true r.1 c))

/-- Whether a feature is stored as a boolean in the wide view. -/
def Feature.isBoolean : Feature → Bool
  | .own _ (.single .donchianBreakoutUp) => true
  | .own _ (.single .donchianBreakoutDown) => true
  | _ => false

/-- The long value of a cell, if its JSON type is the one its name calls for: a
JSON number is finite, and a boolean is encoded as one or zero. -/
def Cell.longValue (feature : Feature) : Cell V → Option V
  | .boolean b => if feature.isBoolean then Sql.lit (if b then 1 else 0) else none
  | .number v => if feature.isBoolean then none else Sql.caseWhen (Sql.finite (some v)) (some v)

/-- The long rows of one wide row: its cells under the given names, as far as
they have a long value. -/
def longRows (names : List Feature) (t : Timestamp) (columns : Feature → Option (Cell V)) :
    List (Timestamp × Feature × V) :=
  names.filterMap (fun name =>
    ((columns name).bind (Cell.longValue name)).map (fun value => (t, name, value)))

/-- `_feature_value_select_sql`: the rows of a wide view unpivoted over the
given names. -/
def featureValueSelect (names : List Feature) (view : Relation (Feature → Option (Cell V))) :
    List (Timestamp × Feature × V) :=
  view.rows.flatMap (fun r => longRows names r.1 r.2)

/-- **The rows of `macro_features`**: timestamp, feature and value, over both
sources, with the non-finite values left out. -/
def macroFeatures (D : RawTables V) : List (Timestamp × Feature × V) :=
  (featureValueSelect featureValuePrimaryNames (primaryFeaturesView D)
    ++ featureValueSelect featureValueExtendedNames (extendedFeaturesView D)).filter
      (fun r => Sql.finite (some r.2.2))
