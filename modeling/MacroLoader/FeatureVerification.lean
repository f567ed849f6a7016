import MacroLoader.FeatureNullResets
import MacroLoader.FeatureFinite

/-!
# The verification of the published features

The conformance verifier derives the rows that should be published once more, in
groups: one for each series, from the projection of its own table, and one for the
features that combine series. The groups are built by the same query with other
options. Those of the primary series ask for it as it is published, with the null rows
kept for the recurrences and the logarithms guarded. Those of the extended series do
not, and neither does the one that combines series.

A guard on a logarithm makes no difference while quotients of positive levels are
positive. The null rows do: they reset the averages that are published, and not those
that are expected. And a value that is not finite is rejected wherever the views show
one, in the logarithm of a level above all. So the check accepts what is published
exactly if the views hold finite values and no null row of an extended series resets an
average (`expected_as_published_iff`).
-/

open KeyedTable

variable {V : Type} [SqlDouble V]

/-! ## The groups -/

/-- `FEATURE_VALUE_NAMES`. -/
def featureValueNames : List Feature := featureValuePrimaryNames ++ featureValueExtendedNames

/-- A group of features that is verified by one query. -/
inductive VerificationGroup
  | primary (s : Series)
  | extended (s : Series)
  | crossSeries
  deriving DecidableEq

namespace VerificationGroup

/-- The series of the features of a group. -/
def series : VerificationGroup → Option Series
  | primary s => some s
  | extended s => some s
  | crossSeries => none

/-- The features of a group. -/
def names (group : VerificationGroup) : List Feature :=
  featureValueNames.filter (fun name => name.series = group.series)

/-- The wide rows the rows of a group are selected from. -/
def view (D : RawTables V) : VerificationGroup → Relation (Feature → Option (Cell V))
  | primary s => macroFeaturesView (rawFeatureProjection [s] D) D true true
  | extended s => macroFeaturesView (rawFeatureProjection [s] D) D false false
  | crossSeries => macroFeaturesView (rawFeatureProjection goldSourceSeries D) D false false

/-- **The rows that should be published** of a group. -/
def expectedRows (D : RawTables V) (group : VerificationGroup) : List (Timestamp × Feature × V) :=
  featureValueSelect group.names (group.view D)

end VerificationGroup

/-- `_feature_value_source_groups`. -/
def featureValueSourceGroups : List VerificationGroup :=
  (rawSeries.map VerificationGroup.primary ++ extendedRawSeries.map VerificationGroup.extended
    ++ [VerificationGroup.crossSeries]).filter (fun group => group.names ≠ [])

/-- The rows of one feature. -/
def featureRows (name : Feature) (rows : List (Timestamp × Feature × V)) :
    List (Timestamp × Feature × V) :=
  rows.filter (fun r => r.2.1 = name)

/-- **What is expected is what is published**: for every feature of every group the same
timestamps with the same values. -/
def ExpectedAsPublished (D : RawTables V) : Prop :=
  ∀ group ∈ featureValueSourceGroups, ∀ name ∈ group.names,
    featureRows name (group.expectedRows D) = featureRows name (macroFeatures D)

/-! ## The population check -/

/-- What a population query returns of a group. -/
structure PopulationCounts where
  rowCount : ℕ
  sourceCount : ℕ
  featureCount : ℕ
  sourceFeatureCount : ℕ
  invalidTypes : ℕ
  invalidSourceTypes : ℕ
  invalidSource : ℕ
  featureCountDifferences : ℕ

/-- The features of some rows, each once. -/
def featuresOf (rows : List (Timestamp × Feature × V)) : List Feature :=
  (rows.map (fun r => r.2.1)).dedup

/-- `_feature_value_population_query`: the counts over the published rows of a group and
over the rows that are expected. A cell of the source that is not null and has not the
type of its feature is counted, too. -/
def populationQuery (D : RawTables V) (published : List (Timestamp × Feature × V))
    (group : VerificationGroup) : PopulationCounts :=
  let actual := published.filter (fun r => r.2.1 ∈ group.names)
  let expected := group.expectedRows D
  { rowCount := actual.length
    sourceCount := expected.length
    featureCount := (featuresOf actual).length
    sourceFeatureCount := (featuresOf expected).length
    invalidTypes := actual.countP (fun r => !Sql.finite (some r.2.2))
    invalidSourceTypes := expected.countP (fun r => !Sql.finite (some r.2.2))
    invalidSource := ((group.view D).rows.map (fun r => group.names.countP (fun name =>
      (r.2 name).isSome && ((r.2 name).bind (Cell.longValue name)).isNone))).sum
    featureCountDifferences := (featuresOf (actual ++ expected)).countP (fun name =>
      (featureRows name actual).length ≠ (featureRows name expected).length) }

/-- What `inspect_group` accepts. -/
def PopulationCounts.accepted (counts : PopulationCounts) : Prop :=
  counts.rowCount = counts.sourceCount ∧ counts.featureCount = counts.sourceFeatureCount
    ∧ counts.invalidTypes = 0 ∧ counts.invalidSourceTypes = 0 ∧ counts.invalidSource = 0
    ∧ counts.featureCountDifferences = 0

/-! ## The rows of a feature -/

section Rows

variable {names : List Feature} {view : Relation (Feature → Option (Cell V))}

theorem featureRows_select (name : Feature) (names : List Feature)
    (view : Relation (Feature → Option (Cell V))) :
    featureRows name (featureValueSelect names view)
      = featureValueSelect (names.filter (fun other => other = name)) view :=
  featureValueSelect_filter (fun other => decide (other = name)) names view

theorem featureValueSelect_nil (view : Relation (Feature → Option (Cell V))) :
    featureValueSelect [] view = [] := by
  rw [featureValueSelect]
  exact List.flatMap_eq_nil_iff.mpr (fun _ _ => rfl)

/-- **A row is selected** if its feature is and the cell has its value. -/
theorem mem_featureValueSelect {t : Timestamp} {name : Feature} {v : V} :
    (t, name, v) ∈ featureValueSelect names view
      ↔ name ∈ names ∧ (viewCell view t name).bind (Cell.longValue name) = some v := by
  rw [featureValueSelect, List.mem_flatMap]
  constructor
  · rintro ⟨row, hrow, hmem⟩
    obtain ⟨other, hother, hmap⟩ := List.mem_filterMap.mp hmem
    obtain ⟨value, hlong, heq⟩ := Option.map_eq_some_iff.mp hmap
    obtain ⟨rfl, rfl, rfl⟩ : row.1 = t ∧ other = name ∧ value = v := by
      simpa only [Prod.mk.injEq] using heq
    rw [viewCell, mem_rows_iff.mp hrow]
    exact ⟨hother, hlong⟩
  · rintro ⟨hname, hvalue⟩
    obtain ⟨cell, hcell, hlong⟩ := Option.bind_eq_some_iff.mp hvalue
    obtain ⟨columns, hcolumns, hcell⟩ := Option.bind_eq_some_iff.mp hcell
    refine ⟨(t, columns), mem_rows_iff.mpr hcolumns, List.mem_filterMap.mpr ⟨name, hname, ?_⟩⟩
    show ((columns name).bind (Cell.longValue name)).map _ = _
    rw [hcell, Option.bind_some, hlong]
    rfl

/-- A long value is finite. -/
theorem finite_of_longValue (h : ServerArithmetic V) {name : Feature} {cell : Cell V} {v : V}
    (hv : cell.longValue name = some v) : Sql.finite (some v) = true := by
  cases cell with
  | boolean b =>
    rw [Cell.longValue] at hv
    split_ifs at hv with hboolean hb
    · rw [← hv]
      exact h.lit 1
    · rw [← hv]
      exact h.lit 0
  | number w =>
    rw [Cell.longValue, Sql.caseWhen] at hv
    split_ifs at hv with hboolean hfinite
    obtain rfl := Option.some.inj hv
    exact hfinite

theorem finite_of_mem_select (h : ServerArithmetic V) {r : Timestamp × Feature × V}
    (hr : r ∈ featureValueSelect names view) : Sql.finite (some r.2.2) = true := by
  obtain ⟨-, hvalue⟩ := mem_featureValueSelect.mp hr
  obtain ⟨cell, -, hlong⟩ := Option.bind_eq_some_iff.mp hvalue
  exact finite_of_longValue h hlong

/-- **The published rows of a feature** are those of the two sources. -/
theorem featureRows_macroFeatures (h : ServerArithmetic V) (D : RawTables V) (name : Feature) :
    featureRows name (macroFeatures D)
      = featureValueSelect (featureValuePrimaryNames.filter (fun other => other = name))
          (primaryFeaturesView D)
        ++ featureValueSelect (featureValueExtendedNames.filter (fun other => other = name))
          (extendedFeaturesView D) := by
  have hfinite : macroFeatures D
      = featureValueSelect featureValuePrimaryNames (primaryFeaturesView D)
        ++ featureValueSelect featureValueExtendedNames (extendedFeaturesView D) := by
    refine List.filter_eq_self.mpr (fun r hr => ?_)
    rcases List.mem_append.mp hr with hr | hr
    · exact finite_of_mem_select h hr
    · exact finite_of_mem_select h hr
  rw [hfinite, featureRows, List.filter_append]
  exact congrArg₂ _ (featureRows_select _ _ _) (featureRows_select _ _ _)

/-- The primary features belong to primary series, if to one. -/
theorem series_of_mem_primary {name : Feature} (h : name ∈ featureValuePrimaryNames) :
    ∀ s, name.series = some s → s ∈ rawSeries := by
  have hall : featureValuePrimaryNames.all (fun name => name.series.all (· ∈ rawSeries)) = true := by
    decide +kernel
  intro s hs
  have hname := List.all_eq_true.mp hall name h
  rw [hs] at hname
  exact of_decide_eq_true hname

/-- The extended features belong to extended series. -/
theorem series_of_mem_extended {name : Feature} (h : name ∈ featureValueExtendedNames) :
    ∃ s ∈ extendedRawSeries, name.series = some s := by
  have hall : featureValueExtendedNames.all
      (fun name => name.series.any (· ∈ extendedRawSeries)) = true := by
    decide +kernel
  have hname := List.all_eq_true.mp hall name h
  cases hs : name.series with
  | none =>
    rw [hs] at hname
    cases hname
  | some s =>
    rw [hs] at hname
    exact ⟨s, of_decide_eq_true hname, rfl⟩

/-- The features of a group that have some name. -/
theorem filter_names {group : VerificationGroup} {name : Feature} (h : name ∈ group.names) :
    group.names.filter (fun other => other = name)
      = featureValuePrimaryNames.filter (fun other => other = name)
        ++ featureValueExtendedNames.filter (fun other => other = name) := by
  have hseries : name.series = group.series := of_decide_eq_true (List.mem_filter.mp h).2
  rw [VerificationGroup.names, List.filter_filter, ← List.filter_append]
  refine List.filter_congr (fun other _ => ?_)
  by_cases hother : other = name
  · subst hother
    simp [hseries]
  · simp [hother]

theorem filter_names_eq_nil {names : List Feature} {name : Feature} (h : name ∉ names) :
    names.filter (fun other => other = name) = [] :=
  List.filter_eq_nil_iff.mpr (fun other hother => by
    rw [decide_eq_true_eq]
    rintro rfl
    exact h hother)

end Rows

/-! ## The logarithms -/

section Logarithms

variable {s : Series} {P : Relation (WideRow V)} {levels : Relation V}

/-- The quotients of positive levels of a series are positive. -/
def LevelQuotientsPositive (levels : Relation V) : Prop :=
  ∀ t t' x y, levels.get? t = some x → levels.get? t' = some y →
    Sql.gt (some x) (Sql.lit 0) = true → Sql.gt (some y) (Sql.lit 0) = true →
    Sql.gt (some (SqlDouble.div x y)) (Sql.lit 0) = true

/-- A guard on a logarithm makes no difference where its argument is positive. -/
theorem ln_of_positive {a : Option V} (h : Sql.gt a (Sql.lit 0) = true) :
    Sql.ln false a = Sql.ln true a := by
  show a.map SqlDouble.ln = (Sql.caseWhen (Sql.gt a (Sql.lit 0)) a).map SqlDouble.ln
  rw [h]
  rfl

theorem caseWhen_ln_div {a b : Option V}
    (h : ∀ x y, a = some x → b = some y → Sql.gt (some x) (Sql.lit 0) = true →
      Sql.gt (some y) (Sql.lit 0) = true → Sql.gt (some (SqlDouble.div x y)) (Sql.lit 0) = true) :
    Sql.caseWhen (Sql.gt a (Sql.lit 0) && Sql.gt b (Sql.lit 0)) (Sql.ln false (Sql.div a b))
      = Sql.caseWhen (Sql.gt a (Sql.lit 0) && Sql.gt b (Sql.lit 0)) (Sql.ln true (Sql.div a b)) := by
  cases ha : Sql.gt a (Sql.lit 0) && Sql.gt b (Sql.lit 0) with
  | false => rfl
  | true =>
    rw [Bool.and_eq_true] at ha
    cases a with
    | none => cases ha.1
    | some x =>
      cases b with
      | none => cases ha.2
      | some y =>
        show Sql.caseWhen true (Sql.ln false (some (SqlDouble.div x y)))
          = Sql.caseWhen true (Sql.ln true (some (SqlDouble.div x y)))
        rw [ln_of_positive (h x y rfl rfl ha.1 ha.2)]

/-- **The changes are the same with and without the guards.** -/
theorem seriesChanges_unguarded (h : LevelQuotientsPositive (levelCte s P)) :
    seriesChanges s P false = seriesChanges s P true := by
  rw [seriesChanges, seriesChanges, changesCte_eq_along, changesCte_eq_along, sourceCte_eq_along,
    along_along, along_along]
  ext t : 1
  rw [get?_along, get?_along]
  cases hx : (levelCte s P).get? t with
  | none => rfl
  | some x =>
    show some (changeRowOf false _ _) = some (changeRowOf true _ _)
    dsimp only [changeRowOf]
    congr 2
    funext w
    refine caseWhen_ln_div (fun a b ha hb => ?_)
    obtain rfl : x = a := Option.some.inj ha
    -- a lag is a level of the history
    have hlag : b ∈ (levelCte s P).history t := by
      rw [history_of_get? hx]
      exact List.mem_of_getElem? hb
    obtain ⟨t', ht'⟩ := exists_of_mem_history hlag
    exact h t t' x b hx ht'

/-- **A cell of the series is the same with and without the guards.** -/
theorem featureCell_unguarded (h : LevelQuotientsPositive (levelCte s P))
    (table : KeyedTable Timestamp (RawRow V s.nativeShape)) (preserveRawNulls : Bool)
    (t : Timestamp) (suffix : FeatureSuffix) :
    featureCell s P table preserveRawNulls false t suffix
      = featureCell s P table preserveRawNulls true t suffix := by
  have hchanges := seriesChanges_unguarded h
  have hbase : seriesBase s P false = seriesBase s P true := by
    rw [seriesBase, hchanges, seriesBase]
  have hhelper : helperColumn s P table preserveRawNulls false suffix
      = helperColumn s P table preserveRawNulls true suffix := by
    fun_cases helperColumn s P table preserveRawNulls false suffix <;>
      simp only [helperColumn, helperColumn.stochastic, helperColumn.emaFeature, hchanges, hbase]
  rw [featureCell_eq, featureCell_eq, hbase, hhelper]

theorem logLevelExpression_unguarded (raw : WideRow V) (s : Series) :
    logLevelExpression false raw s = logLevelExpression true raw s := by
  rw [logLevelExpression, logLevelExpression]
  cases hlevel : Sql.gt (raw (.level s)) (Sql.lit 0) with
  | false => rfl
  | true => rw [ln_of_positive hlevel]

/-- The quotient of the two levels of a row whose logarithm is taken is positive. -/
def CrossQuotientPositive (D : RawTables V) : Prop :=
  ∀ t x y, D.cell t (.level .vix9d) = some x → D.cell t (.level .vix3m) = some y →
    Sql.gt (some x) (Sql.lit 0) = true → Sql.gt (some y) (Sql.lit 0) = true →
    Sql.gt (some (SqlDouble.div x y)) (Sql.lit 0) = true

theorem crossExpression_unguarded {D : RawTables V} (h : CrossQuotientPositive D) (t : Timestamp)
    (c : CrossFeature) :
    crossExpression false (wideCell (rawFeatureProjection goldSourceSeries D) t) c
      = crossExpression true (wideCell (rawFeatureProjection goldSourceSeries D) t) c := by
  cases c with
  | vix9dVix3mLogRatio =>
    refine caseWhen_ln_div (fun x y hx hy => h t x y ?_ ?_)
    · rwa [wideCell_rawFeatureProjection (mem_goldSourceSeries _) t rfl] at hx
    · rwa [wideCell_rawFeatureProjection (mem_goldSourceSeries _) t rfl] at hy
  | _ => rfl

end Logarithms

/-! ## The cells of the groups -/

section Cells

variable {D : RawTables V} {s : Series} {name : Feature}

theorem ServerArithmetic.zeroAdd (h : ServerArithmetic V) : ZeroAdd V := fun x hx =>
  h.zero_add x hx

/-- **The positive levels are finite**, of the series whose logarithm is a feature. -/
def FiniteLevels (D : RawTables V) : Prop :=
  ∀ s ∉ signedLevelSeries, ∀ t x, D.cell t (.level s) = some x →
    Sql.gt (some x) (Sql.lit 0) = true → FiniteNumber x

theorem FiniteLevels.positive (hD : FiniteLevels D) (hs : s ∉ signedLevelSeries) {t : Timestamp}
    {x : V} (hx : ((D s).map RawRow.level).get? t = some (some x))
    (hpos : Sql.gt (some x) (Sql.lit 0) = true) : PositiveNumber x := by
  rw [get?_map] at hx
  obtain ⟨row, hrow, hlevel⟩ := Option.map_eq_some_iff.mp hx
  refine ⟨hD s hs t x ?_ hpos, hpos⟩
  show ((D s).get? t).bind RawRow.level = some x
  rw [hrow, Option.bind_some, hlevel]

theorem levelQuotientsPositive (h : ServerArithmetic V) (hD : FiniteLevels D)
    (hs : s ∉ signedLevelSeries) :
    LevelQuotientsPositive (levelCte s (rawFeatureProjection [s] D)) := by
  have hpositive : ∀ t x, (levelCte s (rawFeatureProjection [s] D)).get? t = some x →
      Sql.gt (some x) (Sql.lit 0) = true → PositiveNumber x := by
    intro t x hx hpos
    rw [levelCte_eq_levels (List.mem_singleton_self s), get?_filterMap] at hx
    obtain ⟨level, hlevel, rfl⟩ := Option.bind_eq_some_iff.mp hx
    exact hD.positive hs hlevel hpos
  intro t t' x y hx hy hxpos hypos
  exact (h.div_pos x y (hpositive t x hx hxpos) (hpositive t' y hy hypos)).2

theorem crossQuotientPositive (h : ServerArithmetic V) (hD : FiniteLevels D) :
    CrossQuotientPositive D := by
  intro t x y hx hy hxpos hypos
  exact (h.div_pos x y ⟨hD .vix9d (by decide) t x hx hxpos, hxpos⟩
    ⟨hD .vix3m (by decide) t y hy hypos, hypos⟩).2

/-- **A level is finite if its logarithm is.** -/
theorem finite_of_logLevel (h : ServerArithmetic V) {tables : List Series} (hs : s ∈ tables)
    {preserveRawNulls safeLogInputs : Bool} {t : Timestamp} {x : V}
    (htyped : WellTyped (.own s (.single .logLevel)) (viewCell (macroFeaturesView
      (rawFeatureProjection tables D) D preserveRawNulls safeLogInputs) t
        (.own s (.single .logLevel))))
    (hx : D.cell t (.level s) = some x) (hpos : Sql.gt (some x) (Sql.lit 0) = true) :
    FiniteNumber x := by
  have hln : logLevelExpression safeLogInputs (wideCell (rawFeatureProjection tables D) t) s
      = some (SqlDouble.ln x) := by
    have hlevel : wideCell (rawFeatureProjection tables D) t (.level s) = some x :=
      (wideCell_rawFeatureProjection hs t rfl).trans hx
    have hguarded : Sql.ln true (some x) = some (SqlDouble.ln x) := by
      show (Sql.caseWhen (Sql.gt (some x) (Sql.lit 0)) (some x)).map SqlDouble.ln = _
      rw [hpos]
      rfl
    rw [logLevelExpression, hlevel, hpos]
    cases safeLogInputs with
    | false => rfl
    | true => exact hguarded
  rw [viewCell_logLevel, hln] at htyped
  refine h.finite_of_ln x hpos ?_
  have hlong : (Cell.longValue (.own s (.single .logLevel)) (.number (SqlDouble.ln x))).isSome
      = true := htyped _ rfl
  obtain ⟨v, hv⟩ := Option.isSome_iff_exists.mp hlong
  rw [Cell.longValue, if_neg (by exact Bool.false_ne_true), Sql.caseWhen] at hv
  split_ifs at hv with hfinite
  exact hfinite

/-- The cells of a group of a primary series are those of the primary view. -/
theorem viewCell_group_primary (hname : name.series = some s) (t : Timestamp) :
    viewCell ((VerificationGroup.primary s).view D) t name
      = viewCell (primaryFeaturesView D) t name := by
  cases name with
  | own s' suffix =>
    obtain rfl : s' = s := Option.some.inj hname
    exact viewCell_own_congr true (sameCells_of_cell (List.mem_singleton_self _)
      (mem_goldSourceSeries _) (fun _ _ _ => rfl)) suffix (fun _ => rfl) t
  | cross c => cases hname

/-- The cells of the group over several series are those of the primary view. -/
theorem viewCell_group_crossSeries (h : CrossQuotientPositive D) (hname : name.series = none)
    (t : Timestamp) :
    viewCell (VerificationGroup.crossSeries.view D) t name
      = viewCell (primaryFeaturesView D) t name := by
  cases name with
  | own s suffix => cases hname
  | cross c =>
    rw [VerificationGroup.view, viewCell_cross, primaryFeaturesView, viewCell_cross,
      crossExpression_unguarded h]

/-- **The cells of a group of an extended series** are those of the extended view, if no
null row resets an average. -/
theorem viewCell_group_extended (h : ServerArithmetic V) (hD : FiniteLevels D)
    (hs : s ∉ signedLevelSeries)
    (huninterrupted : Uninterrupted ((D s).map RawRow.level)) (hname : name.series = some s)
    (t : Timestamp) :
    viewCell ((VerificationGroup.extended s).view D) t name
      = viewCell (extendedFeaturesView D) t name := by
  cases name with
  | cross c => cases hname
  | own s' suffix =>
    obtain rfl : s' = s := Option.some.inj hname
    rw [VerificationGroup.view, viewCell_extended_own]
    by_cases hlog : suffix = .single .logLevel
    · subst hlog
      rw [viewCell_logLevel, viewCell_logLevel, logLevelExpression_unguarded]
    · rw [viewCell_own false t s' hlog, viewCell_own true t s' hlog]
      exact (featureCell_nonNull h.zeroAdd huninterrupted
        (levelCte_eq_levels (List.mem_singleton_self s')) false suffix).trans
          (featureCell_unguarded (levelQuotientsPositive h hD hs) _ _ t suffix)

end Cells

/-! ## An average that is expected and not published -/

section Reset

variable {period : ℕ} {run : List V}

/-- The weight of the newest level in an average. -/
theorem alpha_positive (h : ServerArithmetic V) (hperiod : 2 ≤ period) (hbound : period + 1 ≤ 2 ^ 53) :
    ∃ alpha : V, Sql.div (Sql.lit 2) (Sql.lit ((period : ℚ) + 1)) = some alpha
      ∧ PositiveNumber alpha
      ∧ PositiveNumber (SqlDouble.sub (SqlDouble.ofRat 1) alpha : V) := by
  have htwo : PositiveNumber (SqlDouble.ofRat 2 : V) := h.lit_pos 2 (by norm_num)
  have hnext : PositiveNumber (SqlDouble.ofRat ((period : ℚ) + 1) : V) :=
    h.lit_pos _ (by positivity)
  have hlt : Sql.gt (Sql.lit ((period : ℚ) + 1) : Option V) (Sql.lit 2) = true := by
    have hnat := h.lit_lt 2 (period + 1) (by omega) hbound
    push_cast at hnat
    exact hnat
  have halpha := h.div_pos _ _ htwo hnext
  exact ⟨_, rfl, halpha,
    h.sub_pos _ _ (h.lit_pos 1 one_pos) halpha (h.div_lt_one _ _ htwo hnext hlt)⟩

/-- **A run of positive levels has a positive average** once it is as long as the period,
and a positive sum before that. -/
theorem runState_positive (h : ServerArithmetic V) (hperiod : 2 ≤ period)
    (hbound : period + 1 ≤ 2 ^ 53) (hrun : ∀ x ∈ run, PositiveNumber x) :
    (period ≤ run.length → ∃ ema, (runState period false run).ema = some ema ∧ PositiveNumber ema)
      ∧ (run ≠ [] → run.length < period →
        ∃ sum, (runState period false run).seedSum = some sum ∧ PositiveNumber sum) := by
  induction run with
  | nil => exact ⟨fun hlong => absurd hlong (by rw [List.length_nil]; omega), fun hne => absurd rfl hne⟩
  | cons x rest ih =>
    obtain ⟨hema, hsum⟩ := ih (fun y hy => hrun y (List.mem_cons_of_mem _ hy))
    have hx := hrun x List.mem_cons_self
    have hvalid : ∀ y ∈ rest, emaValid false (some y) = true :=
      fun y hy => (hrun y (List.mem_cons_of_mem _ hy)).2
    have hxvalid : emaValid false (some x) = true := hx.2
    obtain ⟨alpha, halpha, hpos, hcomplement⟩ := alpha_positive h hperiod hbound
    -- the sum with the newest level
    have hadd : rest.length < period → ∃ sum,
        Sql.add (runState period false rest).seedSum (some x) = some sum ∧ PositiveNumber sum := by
      intro hshort
      cases rest with
      | nil => exact ⟨x, congrArg some (h.zero_add x hx.2), hx⟩
      | cons y rest =>
        obtain ⟨sum, hsum, hsumpos⟩ := hsum (List.cons_ne_nil _ _) hshort
        exact ⟨SqlDouble.add sum x, by rw [hsum]; rfl, h.add_pos _ _ hsumpos hx⟩
    rw [List.length_cons, runState, emaStep, emaInvalid_eq, hxvalid]
    constructor
    · intro hlong
      by_cases hrest : period ≤ rest.length
      · obtain ⟨ema, hema, hemapos⟩ := hema hrest
        refine ⟨SqlDouble.add (SqlDouble.mul alpha x) (SqlDouble.mul (SqlDouble.sub
          (SqlDouble.ofRat 1) alpha) ema), ?_, h.add_pos _ _ (h.mul_pos _ _ hpos hx)
            (h.mul_pos _ _ hcomplement hemapos)⟩
        simp only [hema, halpha]
        rfl
      · obtain ⟨hnone, hcount⟩ := runState_of_short hvalid (by omega : rest.length < period)
        obtain ⟨sum, hsum, hsumpos⟩ := hadd (by omega)
        refine ⟨SqlDouble.div sum (SqlDouble.ofRat period), ?_,
          h.div_pos _ _ hsumpos (h.lit_pos _ (by positivity))⟩
        simp only [hnone, hcount, hsum, hlong]
        rfl
    · intro _ hshort
      obtain ⟨hnone, -⟩ := runState_of_short hvalid (by omega : rest.length < period)
      obtain ⟨sum, hsum, hsumpos⟩ := hadd (by omega)
      refine ⟨sum, ?_, hsumpos⟩
      simp only [hnone, hsum]
      rfl

end Reset

/-! ## The distance to an average -/

section Distance

variable {s : Series} {P : Relation (WideRow V)} {levels : Relation (Option V)}
  {table : KeyedTable Timestamp (RawRow V s.nativeShape)} {preserveRawNulls safeLogInputs : Bool}
  {t : Timestamp} {x : V}

/-- The relative distance of a level to an average. -/
def emaDistance (level ema : Option V) : Option V :=
  Sql.caseWhen (Sql.gt level (Sql.lit 0) && ema.isSome)
    (Sql.sub (Sql.div level (Sql.nullif ema (Sql.lit 0))) (Sql.lit 1))

/-- **The distance at a row that has a level** is that to the average after the levels
the recurrence reads. -/
theorem featureCell_ema5Distance
    (hlevels : levelCte s P = levels.filterMap (fun _ level => level))
    (hsource : seriesEmaSource s P table preserveRawNulls = levels)
    (hx : levels.get? t = some (some x)) :
    featureCell s P table preserveRawNulls safeLogInputs t (.single .ema5Distance)
      = numberCell (emaDistance (some x) (emaAfter 5 (some x) (levels.earlier t))) := by
  have hlevel : ((levelCte s P).get? t).isSome = true := by
    rw [hlevels, get?_filterMap, hx]
    rfl
  have haligned : (emaAlignedCte (sourceCte s P) levels).get? t
      = alignedRowOf (some x) (levels.earlier t) := by
    rw [emaAlignedCte_eq hlevels, get?_filterMap, get?_along, hx]
    rfl
  rw [featureCell_helper _ _ _ _ _ (fun _ _ _ => rfl), if_pos hlevel, helperColumn,
    helperColumn.emaFeature, hsource, get?_map, emaFeaturesCte, get?_window, haligned]
  rfl

/-- The distance of a level to a positive average is finite. -/
theorem emaDistance_finite (h : ServerArithmetic V) {ema : V} (hx : PositiveNumber x)
    (hema : PositiveNumber ema) :
    ∃ v, emaDistance (some x) (some ema) = some v ∧ FiniteNumber v := by
  have hnull : Sql.nullif (some ema) (Sql.lit 0) = some ema := by
    have hle : Sql.le (some ema) (Sql.lit 0) = false := congrArg not hema.2
    rw [Sql.nullif, Sql.eq, hle, Bool.false_and, if_neg Bool.false_ne_true]
  refine ⟨SqlDouble.sub (SqlDouble.div x ema) (SqlDouble.ofRat 1), ?_,
    h.sub _ _ (h.div_pos _ _ hx hema).1 (h.lit 1)⟩
  rw [emaDistance, hnull, hx.2]
  rfl

end Distance

/-! ## Where a null row resets an average -/

section Difference

variable {D : RawTables V} {s : Series} {t : Timestamp} {x : V} {rest : List (Option V)}

/-- The positive ones of some levels are finite. -/
def PositiveFinite (levels : List (Option V)) : Prop :=
  ∀ y, some y ∈ levels → Sql.gt (some y) (Sql.lit 0) = true → PositiveNumber y

theorem PositiveFinite.skip {levels : List (Option V)} (h : PositiveFinite levels) :
    PositiveFinite (skipNulls levels) := by
  intro y hy hpos
  obtain ⟨z, hz, heq⟩ := List.mem_map.mp hy
  obtain ⟨level, hmem, rfl⟩ := List.mem_filterMap.mp hz
  obtain rfl := Option.some.inj heq
  exact h z hmem hpos

/-- The levels of a run are positive. -/
theorem PositiveFinite.of_mem_validRun {levels : List (Option V)} (h : PositiveFinite levels)
    {y : V} (hy : y ∈ validRun false levels) : PositiveNumber y := by
  obtain ⟨level, hlevel, hlevely⟩ := List.mem_filterMap.mp hy
  obtain rfl : level = some y := hlevely
  exact h y ((List.takeWhile_sublist _).subset hlevel) (valid_of_mem_validRun hy)

/-- A level at which a null row resets the average is positive. -/
theorem gt_of_reset (hreset : ResetByNull (some x :: rest)) :
    Sql.gt (some x) (Sql.lit 0) = true := by
  have hlong := hreset.1
  rw [skipNulls_cons_some] at hlong
  cases hx : emaValid false (some x) with
  | false =>
    rw [validRun_cons_invalid hx] at hlong
    exact absurd hlong (by norm_num)
  | true => exact hx

/-- **An average there is positive without the null rows**, and does not exist with them. -/
theorem emaAfter_of_reset (h : ServerArithmetic V) (hfinite : PositiveFinite (some x :: rest))
    (hreset : ResetByNull (some x :: rest)) :
    (∃ ema, emaAfter 5 (some x) (skipNulls rest) = some ema ∧ PositiveNumber ema)
      ∧ emaAfter 5 (some x) rest = none := by
  rw [emaAfter_eq_runState h.zeroAdd (by norm_num), emaAfter_eq_runState h.zeroAdd (by norm_num),
    ← skipNulls_cons_some]
  constructor
  · exact (runState_positive h (by norm_num) (by norm_num)
      (fun _ => hfinite.skip.of_mem_validRun)).1 hreset.1
  · exact (runState_of_short (fun _ => valid_of_mem_validRun) hreset.2).1

/-- **A distance is expected there** that is not published. -/
theorem difference_of_reset (h : ServerArithmetic V) (hD : FiniteLevels D)
    (hs : s ∉ signedLevelSeries) (hx : ((D s).map RawRow.level).get? t = some (some x))
    (hreset : ResetByNull (((D s).map RawRow.level).history t)) :
    (∃ v, viewCell ((VerificationGroup.extended s).view D) t (.own s (.single .ema5Distance))
        = numberCell (some v) ∧ FiniteNumber v)
      ∧ viewCell (extendedFeaturesView D) t (.own s (.single .ema5Distance)) = none := by
  have hlevels := levelCte_eq_levels (D := D) (List.mem_singleton_self s)
  have hname : FeatureSuffix.single .ema5Distance ≠ .single .logLevel := by decide
  have hfinite : PositiveFinite (((D s).map RawRow.level).history t) := by
    intro y hy hpos
    obtain ⟨t', ht'⟩ := exists_of_mem_history hy
    exact hD.positive hs ht' hpos
  rw [history_of_get? hx] at hreset hfinite
  obtain ⟨⟨ema, hexpected, hema⟩, hpublished⟩ := emaAfter_of_reset h hfinite hreset
  constructor
  · have hnonNull : ((((D s).map RawRow.level).filterMap (fun _ level => level)).map some).get? t
        = some (some x) := by
      rw [get?_map, get?_filterMap, hx]
      rfl
    obtain ⟨v, hv, hvfinite⟩ := emaDistance_finite h
      (hfinite x List.mem_cons_self (gt_of_reset hreset)) hema
    refine ⟨v, ?_, hvfinite⟩
    rw [VerificationGroup.view, viewCell_own false t s hname, ← featureCell,
      featureCell_ema5Distance (levelCte_nonNull hlevels) (seriesEmaSource_false hlevels) hnonNull,
      earlier_nonNull, hexpected, hv]
  · rw [viewCell_extended_own, viewCell_own true t s hname, ← featureCell,
      featureCell_ema5Distance hlevels rfl hx, hpublished, emaDistance]
    simp [numberCell, Sql.caseWhen]

end Difference

/-! ## When the two agree -/

section Agreement

variable {D : RawTables V} {group : VerificationGroup} {name : Feature}

/-- The published view of the features of a group. -/
def VerificationGroup.published (D : RawTables V) :
    VerificationGroup → Relation (Feature → Option (Cell V))
  | primary _ => primaryFeaturesView D
  | extended _ => extendedFeaturesView D
  | crossSeries => primaryFeaturesView D

theorem series_of_mem_names (h : name ∈ group.names) : name.series = group.series :=
  of_decide_eq_true (List.mem_filter.mp h).2

/-- A group is that of a series of its kind. -/
theorem mem_of_mem_groups : ∀ {group : VerificationGroup}, group ∈ featureValueSourceGroups →
    match group with
    | .primary s => s ∈ rawSeries
    | .extended s => s ∈ extendedRawSeries
    | .crossSeries => True := by
  intro group h
  have hmem := (List.mem_filter.mp h).1
  cases group with
  | primary s => simpa using hmem
  | extended s => simpa using hmem
  | crossSeries => trivial

theorem not_mem_signedLevelSeries : ∀ s ∈ extendedRawSeries, s ∉ signedLevelSeries := by
  decide

/-- No null row of an extended series resets an average. -/
def ExtendedUninterrupted (D : RawTables V) : Prop :=
  ∀ s ∈ extendedRawSeries, Uninterrupted ((D s).map RawRow.level)

/-- **The cells of a group are the published ones**, if no null row resets an average. -/
theorem viewCell_group (h : ServerArithmetic V) (hD : FiniteLevels D)
    (huninterrupted : ExtendedUninterrupted D) (hgroup : group ∈ featureValueSourceGroups)
    (hname : name ∈ group.names) (t : Timestamp) :
    viewCell (group.view D) t name = viewCell (group.published D) t name := by
  have hseries := series_of_mem_names hname
  have hmem := mem_of_mem_groups hgroup
  cases group with
  | primary s => exact viewCell_group_primary hseries t
  | extended s =>
    exact viewCell_group_extended h hD (not_mem_signedLevelSeries s hmem) (huninterrupted s hmem)
      hseries t
  | crossSeries => exact viewCell_group_crossSeries (crossQuotientPositive h hD) hseries t

/-- **The features of a group** are published by one of the two views. -/
theorem published_of_mem_names (D : RawTables V) (hgroup : group ∈ featureValueSourceGroups)
    (hname : name ∈ group.names) :
    (group.published D = primaryFeaturesView D ∧ name ∈ featureValuePrimaryNames
        ∧ name ∉ featureValueExtendedNames)
      ∨ (group.published D = extendedFeaturesView D ∧ name ∈ featureValueExtendedNames
        ∧ name ∉ featureValuePrimaryNames) := by
  have hseries := series_of_mem_names hname
  have hmem := mem_of_mem_groups hgroup
  have hnames := List.mem_append.mp (List.mem_filter.mp hname).1
  -- the features of a primary series are no extended ones, and vice versa
  have hdisjoint : ∀ s ∈ rawSeries, s ∉ extendedRawSeries := fun s hs hextended =>
    of_decide_eq_true (List.mem_filter.mp hextended).2 hs
  have hextended : (∀ s, group.series = some s → s ∈ rawSeries) →
      name ∉ featureValueExtendedNames := by
    intro hprimary hextended
    obtain ⟨s, hs, hnameSeries⟩ := series_of_mem_extended hextended
    exact hdisjoint s (hprimary s (hseries.symm.trans hnameSeries)) hs
  cases group with
  | primary s =>
    have hnot := hextended (fun s' hs' => Option.some.inj hs' ▸ hmem)
    exact .inl ⟨rfl, hnames.resolve_right hnot, hnot⟩
  | extended s =>
    have hnot : name ∉ featureValuePrimaryNames := fun hprimary =>
      hdisjoint s (series_of_mem_primary hprimary s hseries) hmem
    exact .inr ⟨rfl, hnames.resolve_left hnot, hnot⟩
  | crossSeries =>
    have hnot := hextended (fun s hs => nomatch hs)
    exact .inl ⟨rfl, hnames.resolve_right hnot, hnot⟩

/-- **The rows that are published** of a feature of a group. -/
theorem featureRows_published (h : ServerArithmetic V) (hgroup : group ∈ featureValueSourceGroups)
    (hname : name ∈ group.names) :
    featureRows name (macroFeatures D)
      = featureRows name (featureValueSelect group.names (group.published D)) := by
  rw [featureRows_macroFeatures h, featureRows_select, filter_names hname]
  rcases published_of_mem_names D hgroup hname with ⟨hview, -, hnot⟩ | ⟨hview, -, hnot⟩
  · rw [hview, filter_names_eq_nil hnot, featureValueSelect_nil, List.append_nil, List.append_nil]
  · rw [hview, filter_names_eq_nil hnot, featureValueSelect_nil, List.nil_append, List.nil_append]

/-- **What is expected is published**, if no null row resets an average. -/
theorem expectedAsPublished_of_uninterrupted (h : ServerArithmetic V) (hD : FiniteLevels D)
    (huninterrupted : ExtendedUninterrupted D) : ExpectedAsPublished D := by
  intro group hgroup name hname
  rw [featureRows_published h hgroup hname, VerificationGroup.expectedRows, featureRows_select,
    featureRows_select]
  refine featureValueSelect_congr (fun t other hother => ?_)
  obtain rfl : other = name := of_decide_eq_true (List.mem_filter.mp hother).2
  exact viewCell_group h hD huninterrupted hgroup hname t

/-- The distance to the average of five levels is a feature of every extended series. -/
theorem ema5Distance_mem_names {s : Series} (hs : s ∈ extendedRawSeries) :
    .own s (.single .ema5Distance) ∈ (VerificationGroup.extended s).names := by
  have hall : extendedRawSeries.all (fun s =>
      Feature.own s (.single .ema5Distance) ∈ featureValueExtendedNames) = true := by
    decide +kernel
  exact List.mem_filter.mpr ⟨List.mem_append_right _ (of_decide_eq_true
    (List.all_eq_true.mp hall s hs)), decide_eq_true rfl⟩

theorem extended_mem_groups {s : Series} (hs : s ∈ extendedRawSeries) :
    .extended s ∈ featureValueSourceGroups := by
  refine List.mem_filter.mpr ⟨?_, decide_eq_true (List.ne_nil_of_mem (ema5Distance_mem_names hs))⟩
  exact List.mem_append_left _ (List.mem_append_right _ (List.mem_map_of_mem hs))

/-- **What is expected is not published** if a null row resets an average. -/
theorem uninterrupted_of_expectedAsPublished (h : ServerArithmetic V) (hD : FiniteLevels D)
    (hagree : ExpectedAsPublished D) : ExtendedUninterrupted D := by
  intro s hs t x hx hreset
  obtain ⟨⟨v, hexpected, hv⟩, hpublished⟩ := difference_of_reset h hD
    (not_mem_signedLevelSeries s hs) hx hreset
  have hname := ema5Distance_mem_names hs
  have hgroup := extended_mem_groups hs
  have hlong : Cell.longValue (.own s (.single .ema5Distance)) (.number v) = some v := by
    rw [Cell.longValue, if_neg (by exact Bool.false_ne_true), Sql.caseWhen,
      if_pos (show Sql.finite (some v) = true from hv)]
  have hrow : (t, .own s (.single .ema5Distance), v) ∈ featureRows (.own s (.single .ema5Distance))
      ((VerificationGroup.extended s).expectedRows D) := by
    refine List.mem_filter.mpr ⟨mem_featureValueSelect.mpr ⟨hname, ?_⟩, decide_eq_true rfl⟩
    rw [hexpected]
    exact hlong
  rw [hagree _ hgroup _ hname, featureRows_published h hgroup hname] at hrow
  obtain ⟨-, hvalue⟩ := mem_featureValueSelect.mp (List.mem_filter.mp hrow).1
  rw [VerificationGroup.published, hpublished] at hvalue
  cases hvalue

end Agreement

/-! ## The check of the population -/

section Population

variable {D : RawTables V}

/-- Lists with the same elements of every kind have the same elements. -/
theorem perm_of_forall_filter {α β : Type} [DecidableEq β] (f : α → β) {l l' : List α}
    (h : ∀ b, l.filter (fun a => f a = b) = l'.filter (fun a => f a = b)) : l.Perm l' := by
  classical
  refine List.perm_iff_count.mpr (fun a => ?_)
  have hcount : ∀ l : List α, (l.filter (fun x => f x = f a)).count a = l.count a :=
    fun l => List.count_filter (decide_eq_true rfl)
  rw [← hcount l, ← hcount l', h]

/-- The rows of a group, published and expected, are the same up to their order. -/
theorem perm_expectedRows {group : VerificationGroup}
    (h : ∀ name ∈ group.names,
      featureRows name (group.expectedRows D) = featureRows name (macroFeatures D)) :
    ((macroFeatures D).filter (fun r => r.2.1 ∈ group.names)).Perm (group.expectedRows D) := by
  refine perm_of_forall_filter (fun r => r.2.1) (fun name => ?_)
  by_cases hname : name ∈ group.names
  · rw [List.filter_filter]
    refine Eq.trans (List.filter_congr (fun r _ => ?_)) (h name hname).symm
    by_cases hr : r.2.1 = name
    · simp [hr, hname]
    · simp [hr]
  · have hnil : ∀ l : List (Timestamp × Feature × V), (∀ r ∈ l, r.2.1 ∈ group.names) →
        l.filter (fun r => r.2.1 = name) = [] := by
      intro l hl
      refine List.filter_eq_nil_iff.mpr (fun r hr heq => hname ?_)
      rw [← of_decide_eq_true heq]
      exact hl r hr
    rw [hnil _ (fun r hr => of_decide_eq_true (List.mem_filter.mp hr).2),
      hnil (group.expectedRows D) (fun r hr => (mem_featureValueSelect.mp hr).1)]

/-- **The check accepts** a group whose rows are published as expected exactly if its
cells are of the types their names call for. -/
theorem populationQuery_accepted_iff (h : ServerArithmetic V) {group : VerificationGroup}
    (hagree : ∀ name ∈ group.names,
      featureRows name (group.expectedRows D) = featureRows name (macroFeatures D)) :
    (populationQuery D (macroFeatures D) group).accepted
      ↔ ∀ name ∈ group.names, ∀ t, WellTyped name (viewCell (group.view D) t name) := by
  have hperm := perm_expectedRows hagree
  simp only [PopulationCounts.accepted, populationQuery]
  constructor
  · intro haccepted name hname t cell hcell
    obtain ⟨-, -, -, -, hinvalid, -⟩ := haccepted
    obtain ⟨columns, hcolumns, hcell⟩ := Option.bind_eq_some_iff.mp hcell
    have hrow : ¬ ((columns name).isSome
        && ((columns name).bind (Cell.longValue name)).isNone) = true :=
      List.countP_eq_zero.mp (List.sum_eq_zero_iff.mp hinvalid _
        (List.mem_map_of_mem (mem_rows_iff.mpr hcolumns))) name hname
    rw [hcell, Option.bind_some] at hrow
    simpa [Option.isSome_iff_ne_none] using hrow
  · intro htyped
    refine ⟨hperm.length_eq, (hperm.map _).dedup.length_eq, ?_, ?_, ?_, ?_⟩
    · refine List.countP_eq_zero.mpr (fun r hr => ?_)
      have hfinite := (List.mem_filter.mp (List.mem_filter.mp hr).1).2
      simpa using hfinite
    · refine List.countP_eq_zero.mpr (fun r hr => ?_)
      simpa using finite_of_mem_select h hr
    · refine List.sum_eq_zero (fun n hn => ?_)
      obtain ⟨row, hrow, rfl⟩ := List.mem_map.mp hn
      refine List.countP_eq_zero.mpr (fun name hname => ?_)
      have hcell := htyped name hname row.1
      rw [viewCell, mem_rows_iff.mp hrow, Option.bind_some] at hcell
      cases hvalue : row.2 name with
      | none => simp
      | some cell =>
        have hlong := hcell cell hvalue
        rw [Option.bind_some]
        simp [Option.isSome_iff_ne_none.mp hlong]
    · refine List.countP_eq_zero.mpr (fun name _ => ?_)
      have hlength := (hperm.filter (fun r => r.2.1 = name)).length_eq
      simpa [featureRows] using hlength

end Population

/-! ## Views with finite values -/

section FiniteViews

variable {D : RawTables V} {names : List Feature}
  {view : Relation (Feature → Option (Cell V))}

/-- The cells of a view are null or of the types their names call for. -/
def TypedCells (names : List Feature) (view : Relation (Feature → Option (Cell V))) : Prop :=
  ∀ name ∈ names, ∀ t, WellTyped name (viewCell view t name)

/-- **The two refreshed views hold finite values**, next to booleans and nulls: no feature
is infinite or NaN anywhere. -/
def FiniteFeatures (D : RawTables V) : Prop :=
  TypedCells featureValuePrimaryNames (primaryFeaturesView D)
    ∧ TypedCells featureValueExtendedNames (extendedFeaturesView D)

/-- The autocorrelations in them are finite. -/
def FiniteAutocorrs (D : RawTables V) : Prop :=
  TypedCells (featureValuePrimaryNames.filter Feature.isAutocorr) (primaryFeaturesView D)
    ∧ TypedCells (featureValueExtendedNames.filter Feature.isAutocorr) (extendedFeaturesView D)

theorem FiniteFeatures.wellTyped (hD : FiniteFeatures D) {group : VerificationGroup}
    (hgroup : group ∈ featureValueSourceGroups) :
    TypedCells group.names (group.published D) := by
  intro name hname t
  rcases published_of_mem_names D hgroup hname with ⟨hview, hmem, -⟩ | ⟨hview, hmem, -⟩
  · rw [hview]
    exact hD.1 name hmem t
  · rw [hview]
    exact hD.2 name hmem t

/-- Every feature is one of a group. -/
theorem exists_group {name : Feature} (h : name ∈ featureValueNames) :
    ∃ group ∈ featureValueSourceGroups, name ∈ group.names := by
  have hnames : ∀ group : VerificationGroup, name.series = group.series → name ∈ group.names :=
    fun group hseries => List.mem_filter.mpr ⟨h, decide_eq_true hseries⟩
  have hgroups : ∀ group : VerificationGroup, name.series = group.series →
      group ∈ rawSeries.map VerificationGroup.primary
        ++ extendedRawSeries.map VerificationGroup.extended ++ [VerificationGroup.crossSeries] →
      ∃ group ∈ featureValueSourceGroups, name ∈ group.names :=
    fun group hseries hmem => ⟨group, List.mem_filter.mpr ⟨hmem,
      decide_eq_true (List.ne_nil_of_mem (hnames group hseries))⟩, hnames group hseries⟩
  cases hseries : name.series with
  | none =>
    exact hgroups .crossSeries hseries (List.mem_append_right _ (List.mem_singleton_self _))
  | some s =>
    by_cases hs : s ∈ rawSeries
    · exact hgroups (.primary s) hseries
        (List.mem_append_left _ (List.mem_append_left _ (List.mem_map_of_mem hs)))
    · have hextended : s ∈ extendedRawSeries :=
        List.mem_filter.mpr ⟨mem_goldSourceSeries s, decide_eq_true hs⟩
      exact hgroups (.extended s) hseries
        (List.mem_append_left _ (List.mem_append_right _ (List.mem_map_of_mem hextended)))

theorem finiteFeatures_of_groups
    (h : ∀ group ∈ featureValueSourceGroups, TypedCells group.names (group.published D)) :
    FiniteFeatures D := by
  constructor
  · intro name hname t
    obtain ⟨group, hgroup, hmem⟩ := exists_group (List.mem_append_left _ hname)
    rcases published_of_mem_names D hgroup hmem with ⟨hview, -, -⟩ | ⟨-, -, hnot⟩
    · rw [← hview]
      exact h group hgroup name hmem t
    · exact absurd hname hnot
  · intro name hname t
    obtain ⟨group, hgroup, hmem⟩ := exists_group (List.mem_append_right _ hname)
    rcases published_of_mem_names D hgroup hmem with ⟨-, -, hnot⟩ | ⟨hview, -, -⟩
    · exact absurd hname hnot
    · rw [← hview]
      exact h group hgroup name hmem t

/-- **Levels are finite** where the logarithms of the groups are. -/
theorem finiteLevels_of_groups (h : ServerArithmetic V)
    (htyped : ∀ group ∈ featureValueSourceGroups,
      TypedCells group.names (group.view D) ∨ TypedCells group.names (group.published D)) :
    FiniteLevels D := by
  intro s hs t x hx hpos
  have hall : goldSourceSeries.all (fun s => s ∈ signedLevelSeries
      ∨ Feature.own s (.single .logLevel) ∈ featureValueNames) = true := by
    decide +kernel
  have hname : Feature.own s (.single .logLevel) ∈ featureValueNames :=
    (of_decide_eq_true (List.all_eq_true.mp hall s (mem_goldSourceSeries s))).resolve_left hs
  obtain ⟨group, hgroup, hmem⟩ := exists_group hname
  have hseries := series_of_mem_names hmem
  rcases htyped group hgroup with hcells | hcells
  · have hcell := hcells _ hmem t
    cases group with
    | crossSeries => cases hseries
    | primary s' =>
      obtain rfl : s = s' := Option.some.inj hseries
      exact finite_of_logLevel h (List.mem_singleton_self s) hcell hx hpos
    | extended s' =>
      obtain rfl : s = s' := Option.some.inj hseries
      exact finite_of_logLevel h (List.mem_singleton_self s) hcell hx hpos
  · have hcell := hcells _ hmem t
    cases group with
    | crossSeries => cases hseries
    | primary s' =>
      exact finite_of_logLevel h (mem_goldSourceSeries s) hcell hx hpos
    | extended s' =>
      rw [VerificationGroup.published, viewCell_extended_own] at hcell
      exact finite_of_logLevel h (List.mem_singleton_self s) hcell hx hpos

theorem wellTyped_extendedFeaturesView (h : ServerArithmetic V) (hD : FiniteTables D)
    {name : Feature} (hname : name ∈ featureValueExtendedNames)
    (hcorr : name.isAutocorr = true → CorrelationsFinite V) (t : Timestamp) :
    WellTyped name (viewCell (extendedFeaturesView D) t name) := by
  obtain ⟨s, -, hseries⟩ := series_of_mem_extended hname
  cases name with
  | cross c => cases hseries
  | own s' suffix =>
    rw [viewCell_extended_own]
    exact wellTyped_viewCell h hD _ _ t hcorr

/-- **Over finite tables only an autocorrelation can be infinite or NaN.** -/
theorem finiteFeatures_iff (h : ServerArithmetic V) (hD : FiniteTables D) :
    FiniteFeatures D ↔ FiniteAutocorrs D := by
  constructor
  · exact fun hfinite => ⟨fun name hname => hfinite.1 name (List.mem_filter.mp hname).1,
      fun name hname => hfinite.2 name (List.mem_filter.mp hname).1⟩
  · intro hfinite
    constructor
    · intro name hname t
      by_cases hauto : name.isAutocorr = true
      · exact hfinite.1 name (List.mem_filter.mpr ⟨hname, hauto⟩) t
      · exact wellTyped_viewCell h hD _ _ t (fun his => absurd his hauto)
    · intro name hname t
      by_cases hauto : name.isAutocorr = true
      · exact hfinite.2 name (List.mem_filter.mpr ⟨hname, hauto⟩) t
      · exact wellTyped_extendedFeaturesView h hD hname (fun his => absurd his hauto) t

/-- Not even one, where a correlation of finite values is finite. -/
theorem finiteFeatures_of_correlations (h : ServerArithmetic V) (hcorr : CorrelationsFinite V)
    (hD : FiniteTables D) : FiniteFeatures D :=
  (finiteFeatures_iff h hD).mpr ⟨fun _ _ t => wellTyped_viewCell h hD _ _ t (fun _ => hcorr),
    fun _ hname t => wellTyped_extendedFeaturesView h hD (List.mem_filter.mp hname).1
      (fun _ => hcorr) t⟩

end FiniteViews

/-! ## When the check accepts -/

section Verification

variable {D : RawTables V}

/-- While the positive levels are finite, **the null rows decide**. -/
theorem expectedAsPublished_iff (h : ServerArithmetic V) (hD : FiniteLevels D) :
    ExpectedAsPublished D ↔ ExtendedUninterrupted D :=
  ⟨uninterrupted_of_expectedAsPublished h hD, expectedAsPublished_of_uninterrupted h hD⟩

end Verification

/-- Six days of an extended series, the fifth without a level. -/
def gappedWeek : Relation (Option ℚ) :=
  KeyedTable.ofRows [(1, some 1), (2, some 1), (3, some 1), (4, some 1), (5, none), (6, some 1)]

/-- Tables that hold the level one on six days. -/
noncomputable def constantWeek : RawTables EReal := fun s =>
  (KeyedTable.ofRows [(1, ()), (2, ()), (3, ()), (4, ()), (5, ()), (6, ())]).map (fun _ =>
    RawRow.ofCells s.nativeShape (some ((1 : ℝ) : EReal)) (fun _ => some ((1 : ℝ) : EReal)))
