import MacroLoader.FeatureQuery

/-!
# Published features are causal

The rows that the published feature query gives out up to a cutoff are the
rows it computes from the tables as they stood at the cutoff: no later
observation is read by an earlier feature.

The argument has one step for each relation of the query. A selection, a
projection or a join looks at one timestamp and so commutes with the cut; a
lateral lookup looks at earlier timestamps only; a recurrence walks forwards.
What remains are the window functions, and each of them is shown to be
`Causal` from the two facts that its frames end at the current row or before
it (`frame_take`) and that its lags look back (`lag_take`). A query that is
built from relations which commute with the cut commutes with it.
-/

open KeyedTable

variable {V : Type} [SqlDouble V]

theorem trailing_take {R : Type} (w : ℕ) (l : List R) {n i : ℕ} (h : i < n) :
    trailing w (l.take n) i = trailing w l i :=
  frame_take (w - 1) 0 l h

/-! ## Levels, changes and RSI -/

omit [SqlDouble V] in
@[simp] theorem truncate_levelCte (s : Series) (P : Relation (WideRow V)) (T : Timestamp) :
    (levelCte s P).truncate T = levelCte s (P.truncate T) :=
  truncate_filterMap P _ T

omit [SqlDouble V] in
@[simp] theorem truncate_sourceCte (s : Series) (P : Relation (WideRow V)) (T : Timestamp) :
    (sourceCte s P).truncate T = sourceCte s (P.truncate T) := by
  rw [sourceCte, truncate_window ?causal, truncate_levelCte, sourceCte]
  intro l n i v h
  simp only [lag_take _ _ _ h, rowNumber]

omit [SqlDouble V] in
@[simp] theorem truncate_emaSourceCte {shape : NativeShape} (preserveRawNulls : Bool)
    (source : Relation (SourceRow V)) (table : KeyedTable Timestamp (RawRow V shape))
    (T : Timestamp) :
    (emaSourceCte preserveRawNulls source table).truncate T
      = emaSourceCte preserveRawNulls (source.truncate T) (table.truncate T) := by
  cases preserveRawNulls <;> simp [emaSourceCte]

@[simp] theorem truncate_changesCte (safeLogInputs : Bool) (source : Relation (SourceRow V))
    (T : Timestamp) :
    (changesCte safeLogInputs source).truncate T
      = changesCte safeLogInputs (source.truncate T) := by
  rw [changesCte, truncate_window ?causal, changesCte]
  intro l n i v h
  simp only [lag_take _ _ _ h]

@[simp] theorem truncate_rsiStateCte (period : ℕ) (changes : Relation (ChangeRow V))
    (T : Timestamp) :
    (rsiStateCte period changes).truncate T = rsiStateCte period (changes.truncate T) :=
  truncate_recursive changes _ _ T

@[simp] theorem truncate_rsiValuesCte (changes : Relation (ChangeRow V)) (T : Timestamp) :
    (rsiValuesCte changes).truncate T = rsiValuesCte (changes.truncate T) := by
  simp [rsiValuesCte]

/-- **Every windowed feature of the level is causal**: one case per family of
the catalogue. -/
theorem causal_baseColumn (suffix : FeatureSuffix) :
    Causal (fun (rows : List (RsiRow V)) i r => baseColumn rows i r suffix) := by
  intro l n i v h
  cases suffix with
  | windowed family w => cases family <;> simp only [baseColumn, trailing_take _ _ h]
  | paired family k w => cases family <;> simp only [baseColumn, trailing_take _ _ h]
  | single feature => cases feature <;> simp only [baseColumn, trailing_take _ _ h]

@[simp] theorem truncate_featureBaseCte (rsiValues : Relation (RsiRow V)) (T : Timestamp) :
    (featureBaseCte rsiValues).truncate T = featureBaseCte (rsiValues.truncate T) := by
  rw [featureBaseCte, truncate_window ?causal, featureBaseCte]
  intro l n i v h
  simp only [FeatureBaseRow.mk.injEq, true_and]
  funext suffix
  exact causal_baseColumn suffix l n i v h

/-! ## Bars -/

@[simp] theorem truncate_barMetricCte (s : Series) (metric : BarMetric)
    (P : Relation (WideRow V)) (T : Timestamp) :
    (barMetricCte s metric P).truncate T = barMetricCte s metric (P.truncate T) :=
  truncate_map P _ T

@[simp] theorem truncate_finiteCte (metric : Relation (Option V)) (T : Timestamp) :
    (finiteCte metric).truncate T = finiteCte (metric.truncate T) :=
  truncate_filterMap metric _ T

@[simp] theorem truncate_rollingCte (valid : Relation V) (T : Timestamp) :
    (rollingCte valid).truncate T = rollingCte (valid.truncate T) := by
  rw [rollingCte, truncate_window ?causal, rollingCte]
  intro l n i v h
  simp only [trailing_take _ _ h]

@[simp] theorem truncate_finiteFieldCte (s : Series) (f : OhlcField) (P : Relation (WideRow V))
    (T : Timestamp) :
    (finiteFieldCte s f P).truncate T = finiteFieldCte s f (P.truncate T) :=
  truncate_filterMap P _ T

/-- The close paired with an open is the last one before it, so the pairing
does not look ahead either. -/
@[simp] theorem truncate_overnightSourceCte (s : Series) (P : Relation (WideRow V))
    (T : Timestamp) :
    (overnightSourceCte s P).truncate T = overnightSourceCte s (P.truncate T) := by
  simp [overnightSourceCte]

@[simp] theorem truncate_overnightValidCte (source : Relation (V × Option V)) (T : Timestamp) :
    (overnightValidCte source).truncate T = overnightValidCte (source.truncate T) :=
  truncate_filterMap source _ T

@[simp] theorem truncate_ohlcObservationsCte (s : Series) (P : Relation (WideRow V))
    (T : Timestamp) :
    (ohlcObservationsCte s P).truncate T = ohlcObservationsCte s (P.truncate T) :=
  truncate_filterMap P _ T

/-- The prior window of the Donchian channel ends one row before the current
one; the other two end at it. -/
@[simp] theorem truncate_ohlcWindowsCte (bars : Relation (OhlcBar V)) (T : Timestamp) :
    (ohlcWindowsCte bars).truncate T = ohlcWindowsCte (bars.truncate T) := by
  rw [ohlcWindowsCte, truncate_window ?causal, ohlcWindowsCte]
  intro l n i v h
  simp only [frame_take _ _ _ h]

@[simp] theorem truncate_stochasticRawCte (windows : Relation (OhlcWindowRow V))
    (T : Timestamp) :
    (stochasticRawCte windows).truncate T = stochasticRawCte (windows.truncate T) :=
  truncate_map windows _ T

@[simp] theorem truncate_stochasticHistoryCte (raw : Relation (StochasticRow V))
    (T : Timestamp) :
    (stochasticHistoryCte raw).truncate T = stochasticHistoryCte (raw.truncate T) := by
  rw [stochasticHistoryCte, truncate_window ?causal, stochasticHistoryCte]
  intro l n i v h
  simp only [frame_take _ _ _ h, lag_take _ _ _ h]

@[simp] theorem truncate_stochasticFeaturesCte (history : Relation (StochasticHistoryRow V))
    (T : Timestamp) :
    (stochasticFeaturesCte history).truncate T = stochasticFeaturesCte (history.truncate T) :=
  truncate_map history _ T

/-! ## Histories, recurrences and z-scores -/

omit [SqlDouble V] in
@[simp] theorem truncate_rsi5ObservationsCte (base : Relation (FeatureBaseRow V))
    (T : Timestamp) :
    (rsi5ObservationsCte base).truncate T = rsi5ObservationsCte (base.truncate T) :=
  truncate_map base _ T

@[simp] theorem truncate_rsi5HistoryCte (observations : Relation (Option V)) (T : Timestamp) :
    (rsi5HistoryCte observations).truncate T = rsi5HistoryCte (observations.truncate T) := by
  rw [rsi5HistoryCte, truncate_window ?causal, rsi5HistoryCte]
  intro l n i v h
  simp only [lag_take _ _ _ h]

@[simp] theorem truncate_emaStateCte (period : ℕ) (allowNonpositive : Bool)
    (input : Relation (Option V)) (T : Timestamp) :
    (emaStateCte period allowNonpositive input).truncate T
      = emaStateCte period allowNonpositive (input.truncate T) := by
  simp [emaStateCte]

@[simp] theorem truncate_macdInputCte (emaSource : Relation (Option V)) (T : Timestamp) :
    (macdInputCte emaSource).truncate T = macdInputCte (emaSource.truncate T) := by
  simp [macdInputCte]

@[simp] theorem truncate_macdBaseCte (emaSource : Relation (Option V)) (T : Timestamp) :
    (macdBaseCte emaSource).truncate T = macdBaseCte (emaSource.truncate T) := by
  simp [macdBaseCte]

@[simp] theorem truncate_macdRelativeCte (base : Relation (MacdRow V)) (T : Timestamp) :
    (macdRelativeCte base).truncate T = macdRelativeCte (base.truncate T) :=
  truncate_map base _ T

@[simp] theorem truncate_macdFeaturesCte (relative : Relation (Option V × Option V))
    (T : Timestamp) :
    (macdFeaturesCte relative).truncate T = macdFeaturesCte (relative.truncate T) := by
  rw [macdFeaturesCte, truncate_window ?causal, macdFeaturesCte]
  intro l n i v h
  simp only [lag_take _ _ _ h]

@[simp] theorem truncate_zscoreCte (window : ℕ) (valid : Relation V) (T : Timestamp) :
    (zscoreCte window valid).truncate T = zscoreCte window (valid.truncate T) := by
  rw [zscoreCte, truncate_window ?causal, zscoreCte]
  intro l n i v h
  simp only [trailing_take _ _ h]

@[simp] theorem truncate_levelValidCte (source : Relation (SourceRow V)) (T : Timestamp) :
    (levelValidCte source).truncate T = levelValidCte (source.truncate T) :=
  truncate_filterMap source _ T

omit [SqlDouble V] in
@[simp] theorem truncate_volatilityValidCte (base : Relation (FeatureBaseRow V))
    (T : Timestamp) :
    (volatilityValidCte base).truncate T = volatilityValidCte (base.truncate T) :=
  truncate_filterMap base _ T

omit [SqlDouble V] in
@[simp] theorem truncate_validReturnPairsCte (k : ℕ) (changes : Relation (ChangeRow V))
    (T : Timestamp) :
    (validReturnPairsCte k changes).truncate T = validReturnPairsCte k (changes.truncate T) := by
  rw [validReturnPairsCte, truncate_filterMap, truncate_window ?causal, validReturnPairsCte]
  intro l n i v h
  simp only [lag_take _ _ _ h]

@[simp] theorem truncate_returnAutocorrCte (window : ℕ) (pairs : Relation (V × V))
    (T : Timestamp) :
    (returnAutocorrCte window pairs).truncate T
      = returnAutocorrCte window (pairs.truncate T) := by
  rw [returnAutocorrCte, truncate_window ?causal, returnAutocorrCte]
  intro l n i v h
  simp only [trailing_take _ _ h]

@[simp] theorem truncate_emaAlignedCte (source : Relation (SourceRow V))
    (emaSource : Relation (Option V)) (T : Timestamp) :
    (emaAlignedCte source emaSource).truncate T
      = emaAlignedCte (source.truncate T) (emaSource.truncate T) := by
  simp [emaAlignedCte]

@[simp] theorem truncate_emaFeaturesCte (aligned : Relation (EmaAlignedRow V))
    (T : Timestamp) :
    (emaFeaturesCte aligned).truncate T = emaFeaturesCte (aligned.truncate T) := by
  rw [emaFeaturesCte, truncate_window ?causal, emaFeaturesCte]
  intro l n i v h
  simp only [lag_take _ _ _ h]

/-! ## A series -/

section Series

variable (s : Series) (P : Relation (WideRow V))
  (table : KeyedTable Timestamp (RawRow V s.nativeShape)) (preserveRawNulls safeLogInputs : Bool)
  (T : Timestamp)

@[simp] theorem truncate_seriesChanges :
    (seriesChanges s P safeLogInputs).truncate T
      = seriesChanges s (P.truncate T) safeLogInputs := by
  simp [seriesChanges]

@[simp] theorem truncate_seriesBase :
    (seriesBase s P safeLogInputs).truncate T = seriesBase s (P.truncate T) safeLogInputs := by
  simp [seriesBase]

omit [SqlDouble V] in
@[simp] theorem truncate_seriesEmaSource :
    (seriesEmaSource s P table preserveRawNulls).truncate T
      = seriesEmaSource s (P.truncate T) (table.truncate T) preserveRawNulls := by
  simp [seriesEmaSource]

@[simp] theorem truncate_helperColumn (suffix : FeatureSuffix) :
    (helperColumn s P table preserveRawNulls safeLogInputs suffix).truncate T
      = helperColumn s (P.truncate T) (table.truncate T) preserveRawNulls safeLogInputs suffix := by
  fun_cases helperColumn s P table preserveRawNulls safeLogInputs suffix <;>
    simp [helperColumn, helperColumn.stochastic, helperColumn.emaFeature, *]

@[simp] theorem truncate_featuresCte :
    (featuresCte s P table preserveRawNulls safeLogInputs).truncate T
      = featuresCte s (P.truncate T) (table.truncate T) preserveRawNulls safeLogInputs := by
  simp [featuresCte]

end Series

/-! ## The views -/

@[simp] theorem truncate_macroFeaturesView (P : Relation (WideRow V)) (D : RawTables V)
    (preserveRawNulls safeLogInputs : Bool) (T : Timestamp) :
    (macroFeaturesView P D preserveRawNulls safeLogInputs).truncate T
      = macroFeaturesView (P.truncate T) (D.truncate T) preserveRawNulls safeLogInputs := by
  simp [macroFeaturesView, RawTables.truncate]

@[simp] theorem truncate_primaryFeaturesView (D : RawTables V) (T : Timestamp) :
    (primaryFeaturesView D).truncate T = primaryFeaturesView (D.truncate T) := by
  simp [primaryFeaturesView]

@[simp] theorem truncate_extendedFeaturesView (D : RawTables V) (T : Timestamp) :
    (extendedFeaturesView D).truncate T = extendedFeaturesView (D.truncate T) := by
  simp [extendedFeaturesView]

/-- The long rows of a view up to a cutoff are those of its wide rows up to the
cutoff, since a wide row gives its timestamp to all its long rows. -/
theorem featureValueSelect_truncate (names : List Feature)
    (view : Relation (Feature → Option (Cell V))) (T : Timestamp) :
    (featureValueSelect names view).filter (fun r => decide (r.1 ≤ T))
      = featureValueSelect names (view.truncate T) := by
  have htime : ∀ t columns, ∀ r ∈ longRows names t (V := V) columns, r.1 = t := by
    intro t columns r hr
    obtain ⟨name, -, hname⟩ := List.mem_filterMap.mp hr
    obtain ⟨value, -, rfl⟩ := Option.map_eq_some_iff.mp hname
    rfl
  rw [featureValueSelect, featureValueSelect, rows_truncate]
  generalize view.rows = rows
  induction rows with
  | nil => rfl
  | cons r rest ih =>
    rw [List.flatMap_cons, List.filter_append, ih]
    by_cases hr : r.1 ≤ T
    · rw [List.filter_cons_of_pos (by simpa using hr), List.flatMap_cons,
        List.filter_eq_self.mpr (fun x hx => by simpa [htime _ _ x hx] using hr)]
    · rw [List.filter_cons_of_neg (by simpa using hr), List.filter_eq_nil_iff.mpr
        (fun x hx => by simpa [htime _ _ x hx] using hr), List.nil_append]

/-- **Published features are causal.** The published rows up to a cutoff are
the rows published from the tables cut at it, whatever the tables hold. -/
theorem macroFeatures_truncate (D : RawTables V) (T : Timestamp) :
    (macroFeatures D).filter (fun r => decide (r.1 ≤ T)) = macroFeatures (D.truncate T) := by
  rw [macroFeatures, List.filter_comm, List.filter_append, featureValueSelect_truncate,
    featureValueSelect_truncate, truncate_primaryFeaturesView, truncate_extendedFeaturesView,
    macroFeatures]
