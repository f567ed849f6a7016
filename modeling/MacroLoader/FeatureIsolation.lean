import MacroLoader.FeatureCausality

/-!
# What a published feature depends on

The wide projection has a row for every timestamp of every table, and most of
the cells of a series are null there for no other reason than that another
series was observed. A feature of one series must not notice such rows.

The four relations through which the query reads the projection – the levels,
the bar metrics, the finite values of one bar field and the complete bars –
all drop a row in which the cells of their series are null. So each depends on
the projection through the cells of that series alone (`SameCells`), with a
missing row and a null cell read alike. Everything else of a series is computed
from those four and, for the recurrences, from the levels of its own raw table
(`featuresCte_cell_congr`). A cell of the published view is then a function of
the cells of its series and of its raw table, and so is the list of published
rows.
-/

open KeyedTable

/-! ## The cells of a projection -/

section Cells

variable {V : Type}

/-- A cell of a wide relation, null where there is no row. -/
def wideCell (P : Relation (WideRow V)) (t : Timestamp) (c : GoldColumn) : Option V :=
  (P.get? t).bind (fun row => row c)

/-- **Two projections show the same cells of a series.** -/
def SameCells (s : Series) (P P' : Relation (WideRow V)) : Prop :=
  ∀ t c, c.series = s → wideCell P t c = wideCell P' t c

/-- A selection that reads the cells of one series, and drops a row in which
they are all null, depends on those cells alone. -/
theorem filterMap_congr_cells {W : Type} {s : Series} {P P' : Relation (WideRow V)}
    (g : Timestamp → WideRow V → Option W) (h : SameCells s P P')
    (hreads : ∀ t r r', (∀ c : GoldColumn, c.series = s → r c = r' c) → g t r = g t r')
    (hnull : ∀ t r, (∀ c : GoldColumn, c.series = s → r c = none) → g t r = none) :
    P.filterMap g = P'.filterMap g := by
  ext t : 1
  rw [get?_filterMap, get?_filterMap]
  have ht : ∀ c : GoldColumn, c.series = s →
      (P.get? t).bind (fun row => row c) = (P'.get? t).bind (fun row => row c) := h t
  cases hr : P.get? t with
  | none =>
    cases hr' : P'.get? t with
    | none => rfl
    | some r' =>
      simp only [hr, hr', Option.bind_none, Option.bind_some] at ht ⊢
      exact (hnull t r' (fun c hc => (ht c hc).symm)).symm
  | some r =>
    cases hr' : P'.get? t with
    | none =>
      simp only [hr, hr', Option.bind_none, Option.bind_some] at ht ⊢
      exact hnull t r ht
    | some r' =>
      simp only [hr, hr', Option.bind_some] at ht ⊢
      exact hreads t r r' ht

/-- What the projection over some tables shows of one of them is what the table
holds. -/
theorem wideCell_rawFeatureProjection {l : List Series} {D : RawTables V} {s : Series}
    (hs : s ∈ l) (t : Timestamp) {c : GoldColumn} (hc : c.series = s) :
    wideCell (rawFeatureProjection l D) t c = D.cell t c := by
  rw [wideCell, get?_rawFeatureProjection, joinedAt, RawTables.cell]
  subst hc
  split_ifs with hex
  · cases c <;> simp_all [JoinedRow.toWide, GoldColumn.series]
  · have hnone : (D c.series).get? t = none := by
      simpa using fun hrow => hex ⟨c.series, hs, hrow⟩
    cases c <;> simp_all [JoinedRow.toWide, GoldColumn.series]

/-- Two projections show the same cells of a series when its tables hold them. -/
theorem sameCells_of_cell {l l' : List Series} {D D' : RawTables V} {s : Series}
    (hs : s ∈ l) (hs' : s ∈ l') (h : ∀ t c, c.series = s → D.cell t c = D'.cell t c) :
    SameCells s (rawFeatureProjection l D) (rawFeatureProjection l' D') := by
  intro t c hc
  rw [wideCell_rawFeatureProjection hs t hc, wideCell_rawFeatureProjection hs' t hc, h t c hc]

theorem RawTables.cell_congr {D D' : RawTables V} {s : Series} (h : D s = D' s) (t : Timestamp)
    {c : GoldColumn} (hc : c.series = s) : D.cell t c = D'.cell t c := by
  subst hc
  cases c with
  | level s => exact congrArg (fun table => (table.get? t).bind RawRow.level) h
  | bar s _ f => exact congrArg (fun table => (table.get? t).bind (fun row => row.field f)) h

end Cells

/-! ## The relations that read the projection -/

variable {V : Type} [SqlDouble V]

section Readers

variable {s : Series} {P P' : Relation (WideRow V)}

omit [SqlDouble V] in
theorem barCell_congr {r r' : WideRow V} (h : ∀ c : GoldColumn, c.series = s → r c = r' c)
    (f : OhlcField) : barCell s f r = barCell s f r' := by
  unfold barCell
  split_ifs
  · exact h _ rfl
  · rfl

omit [SqlDouble V] in
theorem barCell_null {r : WideRow V} (h : ∀ c : GoldColumn, c.series = s → r c = none)
    (f : OhlcField) : barCell s f r = none := by
  unfold barCell
  split_ifs
  · exact h _ rfl
  · rfl

@[simp] theorem finite_none : Sql.finite (none : Option V) = false := rfl

omit [SqlDouble V] in
theorem levelCte_congr (h : SameCells s P P') : levelCte s P = levelCte s P' :=
  filterMap_congr_cells _ h (fun _ _ _ hr => hr _ rfl) (fun _ _ hr => hr _ rfl)

/-- A metric is null where the cells of its series are, and the null metrics are
dropped right away. -/
theorem finiteCte_barMetricCte_congr (metric : BarMetric) (h : SameCells s P P') :
    finiteCte (barMetricCte s metric P) = finiteCte (barMetricCte s metric P') := by
  have hfuse : ∀ Q : Relation (WideRow V), finiteCte (barMetricCte s metric Q)
      = Q.filterMap (fun _ row =>
          Sql.caseWhen (Sql.finite (barMetric s metric row)) (barMetric s metric row)) := by
    intro Q
    ext t : 1
    rw [finiteCte, barMetricCte, get?_filterMap, get?_map, get?_filterMap]
    cases Q.get? t <;> rfl
  rw [hfuse, hfuse]
  refine filterMap_congr_cells _ h (fun _ r r' hr => ?_) (fun _ r hr => ?_)
  · simp only [barMetric, barCell_congr hr]
  · cases metric <;> simp [barMetric, barCell_null hr, Sql.caseWhen]

theorem finiteFieldCte_congr (f : OhlcField) (h : SameCells s P P') :
    finiteFieldCte s f P = finiteFieldCte s f P' := by
  refine filterMap_congr_cells _ h (fun _ r r' hr => ?_) (fun _ r hr => ?_)
  · rw [barCell_congr hr]
  · rw [barCell_null hr]; rfl

theorem overnightSourceCte_congr (h : SameCells s P P') :
    overnightSourceCte s P = overnightSourceCte s P' := by
  rw [overnightSourceCte, finiteFieldCte_congr .open_ h, finiteFieldCte_congr .close h,
    overnightSourceCte]

theorem ohlcObservationsCte_congr (h : SameCells s P P') :
    ohlcObservationsCte s P = ohlcObservationsCte s P' := by
  refine filterMap_congr_cells _ h (fun _ r r' hr => ?_) (fun _ r hr => ?_)
  · simp only [finiteBar, barCell_congr hr]
  · simp [finiteBar, barCell_null hr, ohlcFields]

end Readers

/-! ## The features of a series -/

/-- Whether a column is computed by a recurrence over the raw table of its
series: the moving-average and the MACD features. -/
def FeatureSuffix.readsRawTable : FeatureSuffix → Bool
  | .single .ema5Distance | .single .ema9Distance | .single .ema21Distance
  | .single .ema5Ema21Spread | .single .ema9Slope3 | .single .ema5Ema9Cross
  | .single .macdLineRelative | .single .macdHistRelative | .single .macdHistDelta3 => true
  | _ => false

section Series

variable {s : Series} {P P' : Relation (WideRow V)}
  {table table' : KeyedTable Timestamp (RawRow V s.nativeShape)} (safeLogInputs : Bool)

theorem seriesChanges_congr (h : SameCells s P P') :
    seriesChanges s P safeLogInputs = seriesChanges s P' safeLogInputs := by
  rw [seriesChanges, sourceCte, levelCte_congr h, seriesChanges, sourceCte]

theorem seriesBase_congr (h : SameCells s P P') :
    seriesBase s P safeLogInputs = seriesBase s P' safeLogInputs := by
  rw [seriesBase, seriesChanges_congr safeLogInputs h, seriesBase]

omit [SqlDouble V] in
theorem seriesEmaSource_congr (h : table.map RawRow.level = table'.map RawRow.level) :
    seriesEmaSource s P table true = seriesEmaSource s P' table' true := by
  simpa [seriesEmaSource, emaSourceCte] using h

/-- **A helper column depends on the cells of its series**, and on the levels of
its raw table if it is computed by a recurrence over it. -/
theorem helperColumn_congr (h : SameCells s P P') (suffix : FeatureSuffix)
    (htable : suffix.readsRawTable = true → table.map RawRow.level = table'.map RawRow.level) :
    helperColumn s P table true safeLogInputs suffix
      = helperColumn s P' table' true safeLogInputs suffix := by
  have hsource : sourceCte s P = sourceCte s P' := by
    rw [sourceCte, levelCte_congr h, sourceCte]
  have hema : suffix.readsRawTable = true →
      seriesEmaSource s P table true = seriesEmaSource s P' table' true :=
    fun ht => seriesEmaSource_congr (htable ht)
  fun_cases helperColumn s P table true safeLogInputs suffix <;>
    simp_all [helperColumn, helperColumn.stochastic, helperColumn.emaFeature,
      FeatureSuffix.readsRawTable, finiteCte_barMetricCte_congr _ h,
      overnightSourceCte_congr h, ohlcObservationsCte_congr h,
      seriesBase_congr safeLogInputs h, seriesChanges_congr safeLogInputs h]

/-- Where the level of a series is null, the series has no feature row. -/
theorem featuresCte_get?_eq_none {preserveRawNulls : Bool} {t : Timestamp}
    (h : wideCell P t (.level s) = none) :
    (featuresCte s P table preserveRawNulls safeLogInputs).get? t = none := by
  have hlevel : (levelCte s P).get? t = none := by
    rw [levelCte, get?_filterMap]
    exact h
  have hchanges : (seriesChanges s P safeLogInputs).get? t = none := by
    rw [seriesChanges, changesCte, get?_window, sourceCte, get?_window, hlevel]
    rfl
  rw [featuresCte, get?_map, get?_leftJoinFamily, seriesBase, featureBaseCte, get?_window,
    rsiValuesCte, get?_map, get?_leftJoinFamily, hchanges]
  rfl

/-- **What a feature of a series depends on.** -/
theorem featuresCte_cell_congr (h : SameCells s P P') (suffix : FeatureSuffix)
    (htable : suffix.readsRawTable = true → table.map RawRow.level = table'.map RawRow.level)
    (t : Timestamp) :
    ((featuresCte s P table true safeLogInputs).get? t).bind (fun columns => columns suffix)
      = ((featuresCte s P' table' true safeLogInputs).get? t).bind
          (fun columns => columns suffix) := by
  have hhelper := helperColumn_congr safeLogInputs h suffix htable
  simp only [featuresCte, get?_map, get?_leftJoinFamily, seriesBase_congr safeLogInputs h]
  cases (seriesBase s P' safeLogInputs).get? t with
  | none => rfl
  | some base => simp only [Option.map_some, Option.bind_some, hhelper]

end Series

/-! ## The cells of the views -/

/-- A cell of a view, null where there is no row. -/
def viewCell (view : Relation (Feature → Option (Cell V))) (t : Timestamp) (feature : Feature) :
    Option (Cell V) :=
  (view.get? t).bind (fun columns => columns feature)

omit [SqlDouble V] in
/-- A level that is null somewhere is null in the missing row, too. -/
theorem wideCell_eq_of_get? {P : Relation (WideRow V)} {t : Timestamp} {raw : WideRow V}
    (h : P.get? t = some raw) : wideCell P t = raw := by
  funext c
  rw [wideCell, h, Option.bind_some]

theorem crossExpression_null (safeLogInputs : Bool) (c : CrossFeature) :
    crossExpression safeLogInputs (fun _ => (none : Option V)) c = none := by
  cases c <;> rfl

section Views

variable {P P' : Relation (WideRow V)} {D D' : RawTables V}

omit [SqlDouble V] in
theorem wideCell_eq_of_get?_none {t : Timestamp} (h : P.get? t = none) :
    wideCell P t = fun _ => none := by
  funext c
  rw [wideCell, h, Option.bind_none]

/-- The log level of a view is an expression over the cells of the projection. -/
theorem viewCell_logLevel {preserveRawNulls : Bool} (safeLogInputs : Bool) (t : Timestamp)
    (s : Series) :
    viewCell (macroFeaturesView P D preserveRawNulls safeLogInputs) t (.own s (.single .logLevel))
      = numberCell (logLevelExpression safeLogInputs (wideCell P t) s) := by
  rw [viewCell, macroFeaturesView, get?_map, get?_leftJoinFamily]
  cases hr : P.get? t with
  | none => rw [wideCell_eq_of_get?_none hr]; rfl
  | some raw => rw [wideCell_eq_of_get? hr]; rfl

/-- So is a cross-series feature. -/
theorem viewCell_cross {preserveRawNulls : Bool} (safeLogInputs : Bool) (t : Timestamp)
    (c : CrossFeature) :
    viewCell (macroFeaturesView P D preserveRawNulls safeLogInputs) t (.cross c)
      = numberCell (crossExpression safeLogInputs (wideCell P t) c) := by
  rw [viewCell, macroFeaturesView, get?_map, get?_leftJoinFamily]
  cases hr : P.get? t with
  | none => rw [wideCell_eq_of_get?_none hr, crossExpression_null]; rfl
  | some raw => rw [wideCell_eq_of_get? hr]; rfl

/-- Every other feature of a series is the column of its own relation: that
relation has a row only where the projection has one. -/
theorem viewCell_own {preserveRawNulls : Bool} (safeLogInputs : Bool) (t : Timestamp) (s : Series)
    {suffix : FeatureSuffix} (hsuffix : suffix ≠ .single .logLevel) :
    viewCell (macroFeaturesView P D preserveRawNulls safeLogInputs) t (.own s suffix)
      = ((featuresCte s P (D s) preserveRawNulls safeLogInputs).get? t).bind
          (fun columns => columns suffix) := by
  rw [viewCell, macroFeaturesView, get?_map, get?_leftJoinFamily]
  cases hr : P.get? t with
  | none =>
    have hnull : wideCell P t (.level s) = none := by rw [wideCell_eq_of_get?_none hr]
    rw [featuresCte_get?_eq_none safeLogInputs hnull]
    rfl
  | some raw =>
    simp only [Option.map_some, Option.bind_some]

/-- **A published cell of a series depends on the cells of the series**, and on
the levels of its raw table if it is computed by a recurrence over it. -/
theorem viewCell_own_congr (safeLogInputs : Bool) {s : Series} (h : SameCells s P P')
    (suffix : FeatureSuffix)
    (htable : suffix.readsRawTable = true
      → (D s).map RawRow.level = (D' s).map RawRow.level) (t : Timestamp) :
    viewCell (macroFeaturesView P D true safeLogInputs) t (.own s suffix)
      = viewCell (macroFeaturesView P' D' true safeLogInputs) t (.own s suffix) := by
  by_cases hlog : suffix = .single .logLevel
  · subst hlog
    rw [viewCell_logLevel, viewCell_logLevel, logLevelExpression, logLevelExpression,
      h t (.level s) rfl]
  · rw [viewCell_own safeLogInputs t s hlog, viewCell_own safeLogInputs t s hlog,
      featuresCte_cell_congr safeLogInputs h suffix htable]

/-- The extended view shows of a series what the query over its own projection
does. -/
theorem viewCell_extended_own (t : Timestamp) (s : Series) (suffix : FeatureSuffix) :
    viewCell (extendedFeaturesView D) t (.own s suffix)
      = viewCell (macroFeaturesView (rawFeatureProjection [s] D) D true true) t
          (.own s suffix) := by
  rw [viewCell, extendedFeaturesView, get?_map, get?_leftJoinFamily, get?_rawFeatureProjection,
    joinedAt]
  split_ifs with hex
  · rfl
  · have hnone : (rawFeatureProjection [s] D).get? t = none := by
      rw [get?_rawFeatureProjection, joinedAt, if_neg, Option.map_none]
      rintro ⟨s', hs', hrow⟩
      exact hex ⟨s', mem_goldSourceSeries s', hrow⟩
    rw [viewCell, macroFeaturesView, get?_map, get?_leftJoinFamily, hnone]
    rfl

theorem viewCell_extended_cross (t : Timestamp) (c : CrossFeature) :
    viewCell (extendedFeaturesView D) t (.cross c)
      = numberCell (crossExpression true
          (wideCell (rawFeatureProjection goldSourceSeries D) t) c) := by
  rw [viewCell, extendedFeaturesView, get?_map, get?_leftJoinFamily]
  cases hr : (rawFeatureProjection goldSourceSeries D).get? t with
  | none => rw [wideCell_eq_of_get?_none hr, crossExpression_null]; rfl
  | some raw => rw [wideCell_eq_of_get? hr]; rfl

end Views

/-! ## The published rows -/

/-- The long rows of a view are a function of its cells under the given names. -/
theorem featureValueSelect_congr {names : List Feature}
    {view view' : Relation (Feature → Option (Cell V))}
    (h : ∀ t, ∀ name ∈ names, viewCell view t name = viewCell view' t name) :
    featureValueSelect names view = featureValueSelect names view' := by
  have hcells : ∀ (w : Relation (Feature → Option (Cell V))) (t : Timestamp),
      ((w.get? t).map (longRows names t)).getD [] = longRows names t (viewCell w t) := by
    intro w t
    unfold viewCell
    cases w.get? t with
    | none => simp [longRows]
    | some columns => rfl
  refine flatMap_rows_eq (fun t => ?_)
  rw [hcells view, hcells view']
  exact List.filterMap_congr (fun name hname => by rw [h t name hname])

/-- Selecting published rows by their feature is publishing fewer features. -/
theorem featureValueSelect_filter (p : Feature → Bool) (names : List Feature)
    (view : Relation (Feature → Option (Cell V))) :
    (featureValueSelect names view).filter (fun r => p r.2.1)
      = featureValueSelect (names.filter p) view := by
  rw [featureValueSelect, featureValueSelect, List.filter_flatMap]
  congr 1
  funext r
  rw [longRows, longRows, List.filter_filterMap, List.filterMap_filter]
  refine List.filterMap_congr (fun name _ => ?_)
  cases (r.2 name).bind (Cell.longValue name) <;> simp [Option.filter]

/-- The series a feature belongs to, if it belongs to one alone. -/
def Feature.series : Feature → Option Series
  | .own s _ => some s
  | .cross _ => none

/-- The published rows of the features that belong to one series. -/
def ownFeatureRows (s : Series) (rows : List (Timestamp × Feature × V)) :
    List (Timestamp × Feature × V) :=
  rows.filter (fun r => r.2.1.series = some s)

/-- The long rows a view has for a series depend on its cells for the series. -/
theorem ownFeatureRows_select_congr {names : List Feature} {s : Series}
    {view view' : Relation (Feature → Option (Cell V))}
    (h : ∀ t suffix, viewCell view t (.own s suffix) = viewCell view' t (.own s suffix)) :
    ownFeatureRows s (featureValueSelect names view)
      = ownFeatureRows s (featureValueSelect names view') := by
  have hfilter := featureValueSelect_filter (V := V) (fun name => decide (name.series = some s))
  rw [ownFeatureRows, ownFeatureRows, hfilter, hfilter]
  refine featureValueSelect_congr (fun t name hname => ?_)
  have hseries := of_decide_eq_true (List.mem_filter.mp hname).2
  cases name with
  | own s' suffix =>
    obtain rfl : s' = s := Option.some.inj hseries
    exact h t suffix
  | cross c => cases hseries

theorem ownFeatureRows_macroFeatures (s : Series) (D : RawTables V) :
    ownFeatureRows s (macroFeatures D)
      = (ownFeatureRows s (featureValueSelect featureValuePrimaryNames (primaryFeaturesView D))
        ++ ownFeatureRows s
            (featureValueSelect featureValueExtendedNames (extendedFeaturesView D))).filter
          (fun r => Sql.finite (some r.2.2)) := by
  rw [ownFeatureRows, macroFeatures, List.filter_comm, List.filter_append, ownFeatureRows,
    ownFeatureRows]

/-- **Series isolation.** The published features of a series are determined by
its own raw table, whatever the other tables hold and whenever they hold it. -/
theorem macroFeatures_isolated {D D' : RawTables V} {s : Series} (h : D s = D' s) :
    ownFeatureRows s (macroFeatures D) = ownFeatureRows s (macroFeatures D') := by
  have hcells : ∀ t c, c.series = s → D.cell t c = D'.cell t c :=
    fun t c hc => RawTables.cell_congr h t hc
  have hprimary : ∀ t suffix, viewCell (primaryFeaturesView D) t (.own s suffix)
      = viewCell (primaryFeaturesView D') t (.own s suffix) := fun t suffix =>
    viewCell_own_congr true (sameCells_of_cell (by simp) (by simp) hcells) suffix
      (fun _ => by rw [h]) t
  have hextended : ∀ t suffix, viewCell (extendedFeaturesView D) t (.own s suffix)
      = viewCell (extendedFeaturesView D') t (.own s suffix) := fun t suffix => by
    rw [viewCell_extended_own, viewCell_extended_own]
    exact viewCell_own_congr true (sameCells_of_cell (by simp) (by simp) hcells) suffix
      (fun _ => by rw [h]) t
  rw [ownFeatureRows_macroFeatures, ownFeatureRows_macroFeatures,
    ownFeatureRows_select_congr hprimary, ownFeatureRows_select_congr hextended]

/-- The features of a series with two observations do not change when another
series is observed in between. -/
theorem macroFeatures_isolated_between :
    ownFeatureRows .vstoxx (macroFeatures (Function.update (fun _ => .empty) .vstoxx
        (KeyedTable.ofRows [(1, .scalar (some (.rat 1))), (3, .scalar (some (.rat 1)))])
        : RawTables ExactDouble))
      = ownFeatureRows .vstoxx (macroFeatures (Function.update (fun _ => KeyedTable.ofRows
            [(2, RawRow.ofCells _ (some (.rat 5)) (fun _ => some (.rat 5)))]) .vstoxx
        (KeyedTable.ofRows [(1, .scalar (some (.rat 1))), (3, .scalar (some (.rat 1)))])
        : RawTables ExactDouble)) :=
  macroFeatures_isolated (by rw [Function.update_self, Function.update_self])
