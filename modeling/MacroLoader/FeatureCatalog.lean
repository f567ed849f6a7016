import MacroLoader.Registry

/-!
# The catalogue of published features

The long feature view publishes a closed list of features: for each series the
families its kind admits, and a handful of features that combine several
series. A feature is identified here by the series it belongs to and a suffix,
rather than by the string the two spell; `Feature.name` gives the string.

The native bar fields, which the wide compatibility view passes through, are
no long-view features and are left out of the catalogue.
-/

/-- The families whose members differ in one window, lag or period. -/
inductive WindowFamily
  | logReturn | delta | returnGeom | returnMean | volatility | rsi | roc | drawdown
  | highLowRange | intradayReturn | overnightGap
  deriving DecidableEq

/-- The families whose members differ in two. -/
inductive PairFamily
  | momentumAutocorr | smaRatio | returnAutocorr
  deriving DecidableEq

/-- The features that are the only one of their family. -/
inductive SingleFeature
  | logLevel | zscore60 | rsiRatio | rsi5Slope3 | rsi5Delta1 | rocAcceleration
  | stochK5 | stochD53 | stochK14 | stochD143 | stochKdSpread5 | stochKSlope3
  | donchianBreakoutUp | donchianBreakoutDown
  | ema5Distance | ema9Distance | ema21Distance | ema5Ema21Spread | ema9Slope3 | ema5Ema9Cross
  | macdLineRelative | macdHistRelative | macdHistDelta3
  | volatilityZscore96 | levelZscore96
  deriving DecidableEq

/-- The suffix of a feature that belongs to one series: its family, with what
singles it out within the family. -/
inductive FeatureSuffix
  | windowed (family : WindowFamily) (window : ℕ)
  | paired (family : PairFamily) (first second : ℕ)
  | single (feature : SingleFeature)
  deriving DecidableEq

namespace FeatureSuffix

abbrev logReturn (window : ℕ) : FeatureSuffix := windowed .logReturn window
abbrev delta (lag : ℕ) : FeatureSuffix := windowed .delta lag
abbrev returnGeom (window : ℕ) : FeatureSuffix := windowed .returnGeom window
abbrev returnMean (window : ℕ) : FeatureSuffix := windowed .returnMean window
abbrev volatility (window : ℕ) : FeatureSuffix := windowed .volatility window
abbrev rsi (period : ℕ) : FeatureSuffix := windowed .rsi period
abbrev roc (window : ℕ) : FeatureSuffix := windowed .roc window
abbrev drawdown (window : ℕ) : FeatureSuffix := windowed .drawdown window
abbrev highLowRange (window : ℕ) : FeatureSuffix := windowed .highLowRange window
abbrev intradayReturn (window : ℕ) : FeatureSuffix := windowed .intradayReturn window
abbrev overnightGap (window : ℕ) : FeatureSuffix := windowed .overnightGap window
abbrev momentumAutocorr (lag window : ℕ) : FeatureSuffix := paired .momentumAutocorr lag window
abbrev smaRatio (short long : ℕ) : FeatureSuffix := paired .smaRatio short long
abbrev returnAutocorr (lag window : ℕ) : FeatureSuffix := paired .returnAutocorr lag window

end FeatureSuffix

/-- The features that combine several series. -/
inductive CrossFeature
  | vix9dVixRatio | vixVix3mRatio | vix9dVix3mLogRatio
  | vix3mMinusVix | vix6mMinusVix | vix1yMinusVix
  | us10yMinusUs2y
  deriving DecidableEq

/-- **A published feature.** -/
inductive Feature
  | own (s : Series) (suffix : FeatureSuffix)
  | cross (c : CrossFeature)
  deriving DecidableEq

/-- The name of a single feature. -/
def SingleFeature.name : SingleFeature → String
  | logLevel => "log_level"
  | zscore60 => "zscore_60obs"
  | rsiRatio => "rsi_ratio_5_15"
  | rsi5Slope3 => "rsi5_slope_3"
  | rsi5Delta1 => "rsi5_delta_1"
  | rocAcceleration => "roc_acceleration_4_8"
  | stochK5 => "stoch_k_5"
  | stochD53 => "stoch_d_5_3"
  | stochK14 => "stoch_k_14"
  | stochD143 => "stoch_d_14_3"
  | stochKdSpread5 => "stoch_kd_spread_5"
  | stochKSlope3 => "stoch_k_slope_3"
  | donchianBreakoutUp => "donchian_breakout_up"
  | donchianBreakoutDown => "donchian_breakout_down"
  | ema5Distance => "ema5_distance"
  | ema9Distance => "ema9_distance"
  | ema21Distance => "ema21_distance"
  | ema5Ema21Spread => "ema5_ema21_spread"
  | ema9Slope3 => "ema9_slope_3"
  | ema5Ema9Cross => "ema5_ema9_cross"
  | macdLineRelative => "macd_line_relative"
  | macdHistRelative => "macd_hist_relative"
  | macdHistDelta3 => "macd_hist_delta_3"
  | volatilityZscore96 => "volatility_zscore_96"
  | levelZscore96 => "level_zscore_96"

/-- The name of a suffix. -/
def FeatureSuffix.name : FeatureSuffix → String
  | windowed .logReturn w => s!"log_return_{w}obs"
  | windowed .delta lag => s!"delta_{lag}obs"
  | windowed .returnGeom w => s!"return_geom_{w}obs_pct"
  | windowed .returnMean w => s!"return_mean_{w}obs"
  | windowed .volatility w => s!"volatility_{w}obs"
  | windowed .rsi p => s!"rsi_{p}obs"
  | windowed .roc w => s!"roc_{w}obs"
  | windowed .drawdown w => s!"drawdown_{w}obs"
  | windowed .highLowRange w => s!"high_low_range_{w}obs"
  | windowed .intradayReturn w => s!"intraday_return_{w}obs"
  | windowed .overnightGap w => s!"overnight_gap_{w}obs"
  | paired .momentumAutocorr lag w => s!"momentum_autocorr_{lag}_{w}obs"
  | paired .smaRatio short long => s!"sma_ratio_{short}_{long}"
  | paired .returnAutocorr lag w => s!"momentum_autocorr_lag{lag}_window{w}"
  | single f => f.name

/-- The name of a cross-series feature. -/
def CrossFeature.name : CrossFeature → String
  | vix9dVixRatio => "vix9d_vix_ratio"
  | vixVix3mRatio => "vix_vix3m_ratio"
  | vix9dVix3mLogRatio => "vix9d_vix3m_log_ratio"
  | vix3mMinusVix => "vix3m_minus_vix"
  | vix6mMinusVix => "vix6m_minus_vix"
  | vix1yMinusVix => "vix1y_minus_vix"
  | us10yMinusUs2y => "us_10y_minus_us_2y"

/-- The name under which a feature is published. -/
def Feature.name : Feature → String
  | own s suffix => s.id ++ "_" ++ suffix.name
  | cross c => c.name

/-! ## Series groups -/

/-- `VOLATILITY_SERIES`. -/
def volatilitySeries : List Series := [.vix, .vix9d, .vix3m, .vix6m, .vix1y, .vstoxx, .move]

/-- `MACRO_SERIES`. -/
def macroSeries : List Series := [.ciss, .euroHyOas, .us2y, .us10y, .estr, .usdBroad]

/-- `RAW_SERIES`: the series of the primary view. -/
def rawSeries : List Series := volatilitySeries ++ macroSeries

/-- `SIGNED_LEVEL_SERIES`: the series whose level may be negative. -/
def signedLevelSeries : List Series := [.estr]

/-- `PRICE_FEATURE_SERIES`. -/
def priceFeatureSeries : List Series := rawSeries.filter (fun s => s ∉ signedLevelSeries)

/-- `EXTENDED_RAW_SERIES`: the registered series the primary view leaves out. -/
def extendedRawSeries : List Series := goldSourceSeries.filter (fun s => s ∉ rawSeries)

/-- `EXTENDED_PRICE_FEATURE_SERIES`. -/
def extendedPriceFeatureSeries : List Series :=
  extendedRawSeries.filter (fun s => s ∉ signedLevelSeries)

/-- `OHLC_SERIES`: the series with a native bar. -/
def ohlcSeries : List Series := goldSourceSeries.filter (fun s => s.nativeShape = .ohlc)

/-! ## Windows, lags and periods -/

def logReturnWindows : List ℕ := [1, 2, 3, 4, 5, 8, 10, 20]
def returnWindows : List ℕ := [4, 5, 8, 10, 16, 20]
def returnMeanWindows : List ℕ := [5, 10, 20]
def volatilityWindows : List ℕ := [5, 8, 10, 20, 32, 40, 96]
def returnAutocorrelationLagWindows : List (ℕ × ℕ) := [(1, 96), (4, 96), (8, 192)]
def volatilityZscoreWindow : ℕ := 96
def levelZscoreWindow : ℕ := 96
def smaRatioWindows : List (ℕ × ℕ) := [(5, 15), (5, 20), (10, 20), (10, 40)]
def rsiWindows : List ℕ := [3, 5, 7, 14]
def rsiCompositeInternalWindow : ℕ := 15
def rocWindows : List ℕ := [1, 2, 3, 4, 5, 8, 10, 20]
def drawdownWindows : List ℕ := [20, 32, 60, 96]
def macdSignalEmaPeriod : ℕ := 9
def ohlcBarWindows : List ℕ := [1, 5]
/-- `MOMENTUM_POLICY.lag_windows`. -/
def momentumLagWindows : List (ℕ × ℕ) := [(1, 60), (5, 60), (20, 120)]

/-- `macro_delta_lags(MACRO_POLICY)`. -/
def macroDeltaLags : List (Series × List ℕ) :=
  [(.ciss, [1, 5, 20]), (.euroHyOas, [1, 5, 20]), (.us2y, [1, 20]), (.us10y, [1, 20]),
   (.estr, [1, 20]), (.usdBroad, [1, 20])]

/-! ## The catalogue -/

/-- The features of a series with the given suffixes. -/
def ownSpecs (s : Series) (suffixes : List FeatureSuffix) : List Feature :=
  suffixes.map (Feature.own s)

/-- The suffixes of the bars of an OHLC series. -/
def ohlcBarSuffixes : List FeatureSuffix :=
  List.flatten
    [ohlcBarWindows.map FeatureSuffix.highLowRange,
     ohlcBarWindows.map FeatureSuffix.intradayReturn,
     ohlcBarWindows.map FeatureSuffix.overnightGap,
     [SingleFeature.stochK5, .stochD53, .stochK14, .stochD143, .stochKdSpread5, .stochKSlope3,
      .donchianBreakoutUp, .donchianBreakoutDown].map FeatureSuffix.single]

/-- The suffixes of a positive-level series. -/
def priceSuffixes : List FeatureSuffix :=
  List.flatten
    [smaRatioWindows.map (fun w => FeatureSuffix.smaRatio w.1 w.2),
     rsiWindows.map FeatureSuffix.rsi,
     rocWindows.map FeatureSuffix.roc,
     drawdownWindows.map FeatureSuffix.drawdown,
     [SingleFeature.ema5Distance, .ema9Distance, .ema21Distance, .ema5Ema21Spread, .ema9Slope3,
      .ema5Ema9Cross, .macdLineRelative, .macdHistRelative,
      .macdHistDelta3].map FeatureSuffix.single,
     logReturnWindows.map FeatureSuffix.logReturn,
     returnMeanWindows.map FeatureSuffix.returnMean,
     volatilityWindows.map FeatureSuffix.volatility,
     momentumLagWindows.map (fun w => FeatureSuffix.momentumAutocorr w.1 w.2),
     [SingleFeature.rsiRatio, .rsi5Slope3, .rsi5Delta1, .rocAcceleration, .volatilityZscore96,
      .levelZscore96].map FeatureSuffix.single,
     returnAutocorrelationLagWindows.map (fun w => FeatureSuffix.returnAutocorr w.1 w.2)]

/-- `_source_specs` without the passed-through bar fields. -/
def sourceSpecs (raw price : List Series) (includeOhlc includeCrossSeries : Bool) :
    List Feature :=
  List.flatten
    [price.flatMap (fun s => ownSpecs s [FeatureSuffix.single .logLevel]),
     if includeOhlc then
       (ohlcSeries.filter (· ∈ raw)).flatMap (fun s => ownSpecs s ohlcBarSuffixes) else [],
     (volatilitySeries.filter (· ∈ raw)).flatMap (fun s =>
       ownSpecs s [FeatureSuffix.delta 1, FeatureSuffix.delta 5, FeatureSuffix.delta 20,
         FeatureSuffix.single .zscore60]),
     (macroDeltaLags.filter (fun p => p.1 ∈ raw)).flatMap (fun p =>
       ownSpecs p.1 (p.2.map FeatureSuffix.delta)),
     if includeCrossSeries then
       [CrossFeature.vix9dVixRatio, .vixVix3mRatio, .vix9dVix3mLogRatio, .vix3mMinusVix,
        .vix6mMinusVix, .vix1yMinusVix, .us10yMinusUs2y].map Feature.cross else [],
     price.flatMap (fun s => ownSpecs s priceSuffixes),
     price.flatMap (fun s => ownSpecs s (returnWindows.map FeatureSuffix.returnGeom)),
     (signedLevelSeries.filter (· ∈ raw)).flatMap (fun s =>
       ownSpecs s (momentumLagWindows.map (fun w => FeatureSuffix.momentumAutocorr w.1 w.2)))]

/-- `FEATURE_VALUE_PRIMARY_NAMES`. -/
def featureValuePrimaryNames : List Feature := sourceSpecs rawSeries priceFeatureSeries true true

/-- `FEATURE_VALUE_EXTENDED_NAMES`. -/
def featureValueExtendedNames : List Feature :=
  sourceSpecs extendedRawSeries extendedPriceFeatureSeries false false
