import Mathlib

/-!
# The registry of canonical series

The twenty-five source series are a closed, source-controlled list: every
table, column and feature of the repository is generated from it. They are an
enumeration here, in registry order, with the contract of each as a function
on the enumeration.
-/

/-- Supported market-data providers. -/
inductive Provider
  | cboe | stoxx | yahoo | ecb | fred
  deriving DecidableEq, Repr

/-- The shape of an observation as its provider delivers it. -/
inductive NativeShape
  | ohlc | scalar
  deriving DecidableEq, Repr

/-- What a provider can be asked for: a range of dates, or the whole file. -/
inductive FetchCapability
  | dateRange | fullFile
  deriving DecidableEq, Repr

/-- Immutable metadata contract for one canonical source series. -/
structure SeriesContract where
  seriesId : String
  provider : Provider
  sourceId : String
  unit : String
  nativeShape : NativeShape
  fetchCapability : FetchCapability
  deriving DecidableEq, Repr

/-- The canonical series, in registry order. -/
inductive Series
  | vix | vix9d | vix3m | vix6m | vix1y
  | vstoxx | vstoxx1m | vstoxx2m | vstoxx3m
  | move
  | ciss | cissMoney | cissBonds | cissEquity | cissFinancials
  | estr
  | euroHyOas | euroHyYield | euroHyYtw | euroHyTotalReturn
  | us2y | us10y | usdBroad | us3m | us5y
  deriving DecidableEq, Repr

namespace Series

/-- The native shape, on which the table layout of a series depends. -/
def nativeShape : Series → NativeShape
  | vix | vix9d | vix3m | vix6m | vix1y | move => .ohlc
  | _ => .scalar

/-- The registry entry of a series. -/
def contract : Series → SeriesContract
  | vix => ⟨"vix", .cboe, "VIX_History.csv", "index_points", .ohlc, .fullFile⟩
  | vix9d => ⟨"vix9d", .cboe, "VIX9D_History.csv", "index_points", .ohlc, .fullFile⟩
  | vix3m => ⟨"vix3m", .cboe, "VIX3M_History.csv", "index_points", .ohlc, .fullFile⟩
  | vix6m => ⟨"vix6m", .cboe, "VIX6M_History.csv", "index_points", .ohlc, .fullFile⟩
  | vix1y => ⟨"vix1y", .cboe, "VIX1Y_History.csv", "index_points", .ohlc, .fullFile⟩
  | vstoxx => ⟨"vstoxx", .stoxx, "V2TX", "index_points", .scalar, .fullFile⟩
  | vstoxx1m => ⟨"vstoxx1m", .stoxx, "V6I1", "index_points", .scalar, .fullFile⟩
  | vstoxx2m => ⟨"vstoxx2m", .stoxx, "V6I2", "index_points", .scalar, .fullFile⟩
  | vstoxx3m => ⟨"vstoxx3m", .stoxx, "V6I3", "index_points", .scalar, .fullFile⟩
  | move => ⟨"move", .yahoo, "^MOVE", "index_points", .ohlc, .dateRange⟩
  | ciss => ⟨"ciss", .ecb, "CISS.D.U2.Z0Z.4F.EC.SS_CIN.IDX", "index", .scalar, .dateRange⟩
  | cissMoney => ⟨"ciss_money", .ecb, "CISS.D.U2.Z0Z.4F.EC.SS_MMN.CON",
      "dimensionless_contribution", .scalar, .dateRange⟩
  | cissBonds => ⟨"ciss_bonds", .ecb, "CISS.D.U2.Z0Z.4F.EC.SS_BMN.CON",
      "dimensionless_contribution", .scalar, .dateRange⟩
  | cissEquity => ⟨"ciss_equity", .ecb, "CISS.D.U2.Z0Z.4F.EC.SS_EMN.CON",
      "dimensionless_contribution", .scalar, .dateRange⟩
  | cissFinancials => ⟨"ciss_financials", .ecb, "CISS.D.U2.Z0Z.4F.EC.SS_FIN.CON",
      "dimensionless_contribution", .scalar, .dateRange⟩
  | estr => ⟨"estr", .ecb, "EST.B.EU000A2X2A25.WT", "percent", .scalar, .dateRange⟩
  | euroHyOas => ⟨"euro_hy_oas", .fred, "BAMLHE00EHYIOAS", "percent", .scalar, .dateRange⟩
  | euroHyYield => ⟨"euro_hy_yield", .fred, "BAMLHE00EHYIEY", "percent", .scalar, .dateRange⟩
  | euroHyYtw => ⟨"euro_hy_ytw", .fred, "BAMLHE00EHYISYTW", "percent", .scalar, .dateRange⟩
  | euroHyTotalReturn => ⟨"euro_hy_total_return", .fred, "BAMLHE00EHYITRIV", "index",
      .scalar, .dateRange⟩
  | us2y => ⟨"us_2y", .fred, "DGS2", "percent", .scalar, .dateRange⟩
  | us10y => ⟨"us_10y", .fred, "DGS10", "percent", .scalar, .dateRange⟩
  | usdBroad => ⟨"usd_broad", .fred, "DTWEXBGS", "index", .scalar, .dateRange⟩
  | us3m => ⟨"us_3m", .fred, "DGS3MO", "percent", .scalar, .dateRange⟩
  | us5y => ⟨"us_5y", .fred, "DGS5", "percent", .scalar, .dateRange⟩

/-- The identifier under which files, tables and columns name the series. -/
def id (s : Series) : String := s.contract.seriesId

@[simp] theorem contract_nativeShape (s : Series) : s.contract.nativeShape = s.nativeShape := by
  cases s <;> rfl

end Series

/-- `GOLD_SOURCE_SERIES`: every registered series, in registry order. -/
def goldSourceSeries : List Series :=
  [.vix, .vix9d, .vix3m, .vix6m, .vix1y, .vstoxx, .vstoxx1m, .vstoxx2m, .vstoxx3m, .move,
   .ciss, .cissMoney, .cissBonds, .cissEquity, .cissFinancials, .estr, .euroHyOas, .euroHyYield,
   .euroHyYtw, .euroHyTotalReturn, .us2y, .us10y, .usdBroad, .us3m, .us5y]

@[simp] theorem mem_goldSourceSeries (s : Series) : s ∈ goldSourceSeries := by
  cases s <;> decide

/-- The canonical identities are distinct, as `validate_series_registry` requires. -/
theorem goldSourceSeries_ids_nodup : (goldSourceSeries.map Series.id).Nodup := by decide

/-- `OHLC_FIELDS`: the fields of a native bar. -/
inductive OhlcField
  | open_ | high | low | close
  deriving DecidableEq, Repr

/-- The fields in the order in which columns list them. -/
def ohlcFields : List OhlcField := [.open_, .high, .low, .close]

@[simp] theorem mem_ohlcFields (f : OhlcField) : f ∈ ohlcFields := by cases f <;> decide

/-- The name of a field. -/
def OhlcField.name : OhlcField → String
  | open_ => "open"
  | high => "high"
  | low => "low"
  | close => "close"

/-- **A value column of canonical Gold**: the level of a series, or a field of
the bar of a series that has one. -/
inductive GoldColumn
  | level (s : Series)
  | bar (s : Series) (h : s.nativeShape = .ohlc) (f : OhlcField)
  deriving DecidableEq

/-- The name of a column. -/
def GoldColumn.name : GoldColumn → String
  | level s => s.id ++ "_level"
  | bar s _ f => s.id ++ "_" ++ f.name

/-- The series whose table a column comes from. -/
def GoldColumn.series : GoldColumn → Series
  | level s => s
  | bar s _ _ => s

/-- `GOLD_COLUMNS[1:]`: the value columns in canonical order, all levels before
all bar fields. -/
def rawFeatureColumns : List GoldColumn :=
  goldSourceSeries.map GoldColumn.level
    ++ goldSourceSeries.flatMap (fun s =>
      if h : s.nativeShape = .ohlc then ohlcFields.map (GoldColumn.bar s h) else [])

@[simp] theorem mem_rawFeatureColumns (c : GoldColumn) : c ∈ rawFeatureColumns := by
  rw [rawFeatureColumns, List.mem_append]
  cases c with
  | level s => exact .inl (List.mem_map_of_mem (mem_goldSourceSeries s))
  | bar s h f =>
    refine .inr (List.mem_flatMap.mpr ⟨s, mem_goldSourceSeries s, ?_⟩)
    rw [dif_pos h]
    exact List.mem_map_of_mem (mem_ohlcFields f)
