import MacroLoader.FeatureCells
import MacroLoader.FeatureIsolation

/-!
# The MACD line, its signal and the histogram

The line is the difference of two moving averages of the levels, and its signal
is a moving average of the line, which takes any number and is reset by a null
only. The reference computes all of this on the history of the raw rows, null
rows included: the line at a row is a function of the levels up to it, the
signal one of the lines up to it, and the change of the histogram looks three
raw rows back. What is published is all of it at the rows that have a level.
-/

open KeyedTable

/-! ## Moving averages on a history -/

/-- **The moving average after some levels**, newest first: the one of the levels
since the last invalid one, if they are as many as the period. -/
def emaOf (period : ℕ) (allowNonpositive : Bool) (levels : List (Option ℚ)) : Option ℚ :=
  let run := (levels.takeWhile (isValidLevel allowNonpositive)).filterMap id
  if period ≤ run.length then some (emaOfRun period run) else none

/-- The recurrence follows the levels since the last invalid one. -/
theorem follows_stateAfter {period : ℕ} (hperiod : 2 ≤ period) (allowNonpositive : Bool)
    (level : Option ℚ) (rest : List (Option ℚ)) :
    Follows period
      (((level :: rest).takeWhile (isValidLevel allowNonpositive)).filterMap id)
      (stateAfter (emaInit allowNonpositive) (emaStep period allowNonpositive) (exactCell level)
        (rest.map exactCell)) := by
  have hcons : ∀ (level : Option ℚ) (rest : List (Option ℚ)),
      ((level :: rest).takeWhile (isValidLevel allowNonpositive)).filterMap id
        = if isValidLevel allowNonpositive level then
            level.toList ++ (rest.takeWhile (isValidLevel allowNonpositive)).filterMap id
          else [] := fun level rest => by
    rw [List.takeWhile_cons]
    split_ifs
    · cases level <;> rfl
    · rfl
  induction rest generalizing level with
  | nil =>
    rw [hcons, List.takeWhile_nil, List.filterMap_nil, List.append_nil]
    exact follows_init hperiod level
  | cons previous rest ih =>
    rw [hcons]
    exact follows_step hperiod (ih previous) level

/-- **The moving average of the query is the one of the history.** -/
theorem emaStateCte_eq_along {period : ℕ} (hperiod : 2 ≤ period) (allowNonpositive : Bool)
    (levels : Relation (Option ℚ)) :
    emaStateCte period allowNonpositive (levels.map exactCell)
      = levels.along (fun level rest => exactCell (emaOf period allowNonpositive (level :: rest))) := by
  rw [emaStateCte, recursive_eq_along, map_eq_along _ EmaState.ema, along_along, along_map]
  congr 1
  funext level rest
  have hfollows := follows_stateAfter hperiod allowNonpositive level rest
  rw [emaOf]
  split_ifs with hlong
  · exact hfollows.running hlong
  · exact (hfollows.seeding (not_le.mp hlong)).1

/-! ## The reference -/

/-- **The line** after some levels. -/
def macdLine (levels : List (Option ℚ)) : Option ℚ :=
  Option.map₂ (· - ·) (emaOf 12 false levels) (emaOf 26 false levels)

/-- **The signal**: the moving average of the lines, one for every raw row. -/
def macdSignal (levels : List (Option ℚ)) : Option ℚ :=
  emaOf 9 true (alongHistory (fun level rest => macdLine (level :: rest)) levels)

/-- A value relative to a positive level. -/
def overLevel (level value : Option ℚ) : Option ℚ :=
  Option.map₂ (· / ·) value (level.filter (fun x => decide (0 < x)))

/-- The line, relative to the newest level. -/
def macdLineRelative (levels : List (Option ℚ)) : Option ℚ :=
  overLevel levels.head?.join (macdLine levels)

/-- The histogram, relative to the newest level. -/
def macdHistRelative (levels : List (Option ℚ)) : Option ℚ :=
  overLevel levels.head?.join (Option.map₂ (· - ·) (macdLine levels) (macdSignal levels))

/-- The change of the histogram since the row three raw rows earlier. -/
def macdHistDelta3 (levels : List (Option ℚ)) : Option ℚ :=
  Option.map₂ (· - ·) (macdHistRelative levels) (macdHistRelative (levels.drop 3))

/-- The three outputs. -/
def macdReference (levels : List (Option ℚ)) : SingleFeature → Option ℚ
  | .macdLineRelative => macdLineRelative levels
  | .macdHistRelative => macdHistRelative levels
  | .macdHistDelta3 => macdHistDelta3 levels
  | _ => none

/-- **A relative value is null exactly when** it is, or the level is null or not
positive. -/
theorem overLevel_eq_none_iff {level value : Option ℚ} :
    overLevel level value = none ↔ value = none ∨ ∀ x ∈ level, x ≤ 0 := by
  cases value with
  | none => simp [overLevel]
  | some v =>
    cases level with
    | none => simp [overLevel]
    | some x => by_cases hx : 0 < x <;> simp [overLevel, Option.filter, hx, not_lt.mp]

/-! ## The query -/

section Query

/-- A difference that is asked for where both operands exist. -/
theorem sub_exactCell (a b : Option ℚ) :
    Sql.caseWhen ((exactCell a).isSome && (exactCell b).isSome)
      (Sql.sub (exactCell a) (exactCell b)) = exactCell (Option.map₂ (· - ·) a b) := by
  cases a <;> cases b <;> rfl

variable (levels : Relation (Option ℚ))

theorem macdInputCte_eq_along :
    macdInputCte (levels.map exactCell)
      = levels.along (fun level rest => exactCell (macdLine (level :: rest))) := by
  rw [macdInputCte, emaStateCte_eq_along (by norm_num), emaStateCte_eq_along (by norm_num),
    map_eq_along levels exactCell, along_leftJoin_along, along_leftJoin_along, map_eq_along,
    along_along]
  congr 1
  funext level rest
  exact sub_exactCell _ _

theorem macdBaseCte_eq_along :
    macdBaseCte (levels.map exactCell) = levels.along (fun level rest =>
      ⟨exactCell level, exactCell (macdLine (level :: rest)),
        exactCell (macdSignal (level :: rest))⟩) := by
  have hline : macdInputCte (levels.map exactCell)
      = (levels.along (fun level rest => macdLine (level :: rest))).map exactCell := by
    rw [macdInputCte_eq_along, map_eq_along, along_along]
  rw [macdBaseCte, hline, emaStateCte_eq_along (by decide), ← hline, macdInputCte_eq_along,
    along_along, map_eq_along levels exactCell, along_innerJoin_along, along_leftJoin_along,
    map_eq_along, along_along]
  rfl

/-- The value over a positive level, in the query. -/
theorem div_exactCell (level value : Option ℚ) :
    Sql.caseWhen (Sql.gt (exactCell level) (Sql.lit 0) && (exactCell value).isSome)
      (Sql.div (exactCell value) (exactCell level)) = exactCell (overLevel level value) := by
  cases value with
  | none => rw [exactCell_none, Option.isSome_none, Bool.and_false]; rfl
  | some v =>
    cases level with
    | none => rfl
    | some x =>
      rw [lit_exact, exactCell_some, gt_exact, overLevel]
      by_cases hx : 0 < x <;> simp [hx, Option.filter, Sql.caseWhen]

end Query

theorem div_sub_exactCell (level line signal : Option ℚ) :
    Sql.caseWhen (Sql.gt (exactCell level) (Sql.lit 0) && (exactCell line).isSome
        && (exactCell signal).isSome)
      (Sql.div (Sql.sub (exactCell line) (exactCell signal)) (exactCell level))
      = exactCell (overLevel level (Option.map₂ (· - ·) line signal)) := by
  cases line with
  | none =>
    rw [exactCell_none, Option.isSome_none, Bool.and_false, Bool.false_and]
    rfl
  | some a =>
    cases signal with
    | none => rw [exactCell_none, Option.isSome_none, Bool.and_false]; rfl
    | some b =>
      rw [← div_exactCell, exactCell_some, Option.isSome_some, exactCell_some, Option.isSome_some,
        Bool.and_true, Bool.and_true]
      exact congrArg (Sql.caseWhen · _) (Bool.and_true _).symm

/-- The histogram three raw rows earlier. -/
theorem lag_macdHistRelative (levels : List (Option ℚ)) :
    (alongHistory (fun level rest => (exactCell (macdLineRelative (level :: rest)),
      exactCell (macdHistRelative (level :: rest)))) levels)[3]?.bind Prod.snd
      = exactCell (macdHistRelative (levels.drop 3)) := by
  rw [getElem?_alongHistory (fun l => (exactCell (macdLineRelative l),
    exactCell (macdHistRelative l)))]
  split_ifs with hlong
  · rfl
  · rw [List.drop_eq_nil_of_le (not_lt.mp hlong)]
    rfl

/-- **The outputs of the query** are those of the reference, at every raw row. -/
theorem macdFeaturesCte_eq_along (levels : Relation (Option ℚ)) :
    macdFeaturesCte (macdRelativeCte (macdBaseCte (levels.map exactCell)))
      = levels.along (fun level rest feature =>
          exactCell (macdReference (level :: rest) feature)) := by
  have hrelative : macdRelativeCte (macdBaseCte (levels.map exactCell))
      = levels.along (fun level rest => (exactCell (macdLineRelative (level :: rest)),
        exactCell (macdHistRelative (level :: rest)))) := by
    rw [macdRelativeCte, macdBaseCte_eq_along, map_eq_along, along_along]
    congr 1
    funext level rest
    exact Prod.ext (div_exactCell level _) (div_sub_exactCell level _ _)
  have hfeatures : ∀ relative : Relation (Option ExactDouble × Option ExactDouble),
      macdFeaturesCte relative = relative.along (fun r rest feature =>
        match feature with
        | .macdLineRelative => r.1
        | .macdHistRelative => r.2
        | .macdHistDelta3 => Sql.caseWhen (r.2.isSome && ((r :: rest)[3]?.bind Prod.snd).isSome)
            (Sql.sub r.2 ((r :: rest)[3]?.bind Prod.snd))
        | _ => none) := by
    refine window_eq_along (fun l i r h => ?_)
    funext feature
    cases feature <;> simp only [lag_eq h]
  rw [hfeatures, hrelative, along_along]
  congr 1
  funext level rest feature
  cases feature with
  | macdHistDelta3 =>
    have hlag := lag_macdHistRelative (level :: rest)
    rw [alongHistory] at hlag
    simp only [hlag]
    exact sub_exactCell _ _
  | _ => rfl

/-! ## What is published -/

/-- The levels of a series in the projection are those of its table. -/
theorem levelCte_rawFeatureProjection {V : Type} [SqlDouble V] {tables : List Series}
    {D : RawTables V} {s : Series} (hs : s ∈ tables) :
    levelCte s (rawFeatureProjection tables D) = (D s).filterMap (fun _ r => r.level) := by
  ext t : 1
  rw [levelCte, get?_filterMap, get?_filterMap]
  exact wideCell_rawFeatureProjection hs t (c := .level s) rfl

/-- They are the levels of the table that are not null. -/
theorem levelCte_eq_levels {V : Type} [SqlDouble V] {tables : List Series} {D : RawTables V}
    {s : Series} (hs : s ∈ tables) :
    levelCte s (rawFeatureProjection tables D)
      = ((D s).map RawRow.level).filterMap (fun _ level => level) := by
  rw [levelCte_rawFeatureProjection hs]
  ext t : 1
  rw [get?_filterMap, get?_filterMap, get?_map]
  cases (D s).get? t <;> rfl

/-- **The MACD outputs are their reference**, at every row of the raw table, whatever
rows of it have no level: the line is the difference of the two averages of the
levels, its signal an average of the lines at all raw rows, and the outputs are
null exactly when an operand is, or the level is null or not positive. They are
published at the rows that have a level. -/
theorem macd_reference {s : Series} {tables : List Series} (hs : s ∈ tables)
    {D : RawTables ExactDouble} {levels : Relation (Option ℚ)}
    (hlevels : (D s).map RawRow.level = levels.map exactCell) (safeLogInputs : Bool)
    {t : Timestamp} {level : Option ℚ} (hlevel : levels.get? t = some level) :
    let L := levels.history t
    let source := seriesEmaSource s (rawFeatureProjection tables D) (D s) true
    ((emaStateCte 12 false source).get? t = some (exactCell (emaOf 12 false L))
      ∧ (emaStateCte 26 false source).get? t = some (exactCell (emaOf 26 false L))
      ∧ (macdInputCte source).get? t = some (exactCell (macdLine L))
      ∧ ((macdLine L).isSome = true ↔
        (emaOf 12 false L).isSome = true ∧ (emaOf 26 false L).isSome = true))
    ∧ (∃ row, (macdBaseCte source).get? t = some row
      ∧ row.macdLine = exactCell (macdLine L) ∧ row.macdSignal = exactCell (macdSignal L))
    ∧ (macdLineRelative L = none ↔ macdLine L = none ∨ ∀ x ∈ level, x ≤ 0)
    ∧ (macdHistRelative L = none ↔
      macdLine L = none ∨ macdSignal L = none ∨ ∀ x ∈ level, x ≤ 0)
    ∧ (macdHistDelta3 L = none ↔ macdHistRelative L = none ∨ macdHistRelative (L.drop 3) = none)
    ∧ ∀ feature ∈ [SingleFeature.macdLineRelative, .macdHistRelative, .macdHistDelta3],
      featureCell s (rawFeatureProjection tables D) (D s) true safeLogInputs t (.single feature)
        = if level.isSome then numberCell (exactCell (macdReference L feature)) else none := by
  intro L source
  have hsource : source = levels.map exactCell := hlevels
  have hL : L = level :: levels.earlier t := history_of_get? hlevel
  have hhead : L.head?.join = level := by rw [hL]; rfl
  refine ⟨⟨?_, ?_, ?_, ?_⟩, ?_, ?_, ?_, ?_, ?_⟩
  · rw [hsource, emaStateCte_eq_along (by norm_num), get?_along, hlevel, hL]
    rfl
  · rw [hsource, emaStateCte_eq_along (by norm_num), get?_along, hlevel, hL]
    rfl
  · rw [hsource, macdInputCte_eq_along, get?_along, hlevel, hL]
    rfl
  · rw [macdLine]
    cases emaOf 12 false L <;> cases emaOf 26 false L <;> simp
  · refine ⟨_, by rw [hsource, macdBaseCte_eq_along, get?_along, hlevel]; rfl, ?_, ?_⟩
    · rw [hL]
    · rw [hL]
  · rw [macdLineRelative, overLevel_eq_none_iff, hhead]
  · rw [macdHistRelative, overLevel_eq_none_iff, hhead, Option.map₂_eq_none_iff, or_assoc]
  · rw [macdHistDelta3, Option.map₂_eq_none_iff]
  · intro feature hfeature
    have hpresent : ((levelCte s (rawFeatureProjection tables D)).get? t).isSome = level.isSome := by
      rw [levelCte_rawFeatureProjection hs, get?_filterMap]
      have hrow := congrArg (fun r => KeyedTable.get? r t) hlevels
      simp only [get?_map, hlevel] at hrow
      obtain ⟨row, hrow, hcell⟩ := Option.map_eq_some_iff.mp hrow
      rw [hrow, Option.bind_some, hcell]
      cases level <;> rfl
    have hfeatures : (macdFeaturesCte (macdRelativeCte (macdBaseCte source))).get? t
        = some (fun feature => exactCell (macdReference L feature)) := by
      rw [hsource, macdFeaturesCte_eq_along, get?_along, hlevel, hL]
      rfl
    have hcell : ∀ feature, (((macdFeaturesCte (macdRelativeCte (macdBaseCte source))).map
        (fun r => numberCell (r feature))).get? t).join
          = numberCell (exactCell (macdReference L feature)) := fun feature => by
      rw [get?_map, hfeatures]
      rfl
    fin_cases hfeature
    · rw [featureCell_helper _ _ _ _ _ (fun _ _ _ => rfl), hpresent]
      exact congrArg (fun c => if level.isSome then c else none) (hcell .macdLineRelative)
    · rw [featureCell_helper _ _ _ _ _ (fun _ _ _ => rfl), hpresent]
      exact congrArg (fun c => if level.isSome then c else none) (hcell .macdHistRelative)
    · rw [featureCell_helper _ _ _ _ _ (fun _ _ _ => rfl), hpresent]
      exact congrArg (fun c => if level.isSome then c else none) (hcell .macdHistDelta3)

/-- A level for each of so many days. -/
def constantLevels (days : ℕ) : Relation (Option ℚ) :=
  KeyedTable.ofRows ((List.range days).map (fun day => ((day : ℤ), some 1)))

/-- Levels that do not change have a line as soon as there are 26 of them. -/
theorem macd_reference_constant :
    featureCell .vix (rawFeatureProjection [.vix] (levelTables .vix (constantLevels 26)))
        (levelTables .vix (constantLevels 26) .vix) true true 25 (.single .macdLineRelative)
      = numberCell (some (.rat 0)) := by
  have hlevel : (constantLevels 26).get? 25 = some (some 1) := by decide +kernel
  have hvalue : macdReference ((constantLevels 26).history 25) .macdLineRelative = some 0 := by
    decide +kernel
  obtain ⟨-, -, -, -, -, hcells⟩ := macd_reference (List.mem_singleton_self Series.vix)
    (levelTables_level .vix (constantLevels 26)) true hlevel
  rw [hcells .macdLineRelative (by simp), hvalue]
  rfl
