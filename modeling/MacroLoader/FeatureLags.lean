import MacroLoader.FeatureMacd

/-!
# Lags over the rows that have a level

The slope of the moving average and the crossover of two of them look back with
a lag, and the query takes the lag over the rows that have a level, although the
averages themselves are computed over all raw rows. A lag over fewer rows
reaches further back. It makes no difference here, because an average exists
only if as many rows as its period, this one among them, all have a level, and
the lags are shorter than that: the rows that a lag passes over are all there.
Nothing in this is about numbers, so the values are arbitrary.
-/

open KeyedTable

variable {V : Type} [SqlDouble V]

/-! ## The features over all raw rows -/

/-- A raw row with the averages at it. -/
structure EmaRawRow (V : Type) where
  level : Option V
  ema5 : Option V
  ema9 : Option V

/-- The raw rows, null rows included, with the averages at them. -/
def emaRawAligned (levels : Relation (Option V)) : Relation (EmaRawRow V) :=
  ((levels.leftJoin (emaStateCte 5 false levels)).leftJoin (emaStateCte 9 false levels)).map
    (fun r => ⟨r.1.1, r.1.2.join, r.2.join⟩)

/-- **The slope and the crossover with lags over every raw row.** -/
def emaRawFeatures (levels : Relation (Option V)) : Relation (Option V × Option V) :=
  (emaRawAligned levels).window (fun rows i r =>
    let positive := Sql.gt r.level (Sql.lit 0)
    let previous5 := KeyedTable.lag EmaRawRow.ema5 1 rows i
    let previous9 := KeyedTable.lag EmaRawRow.ema9 1 rows i
    let ema9Lag3 := KeyedTable.lag EmaRawRow.ema9 3 rows i
    (Sql.caseWhen (positive && r.ema9.isSome && ema9Lag3.isSome)
       (Sql.div (Sql.sub r.ema9 ema9Lag3) (Sql.mul (Sql.lit 3) r.level)),
     Sql.caseWhen (positive && r.ema5.isSome && r.ema9.isSome && previous5.isSome
         && previous9.isSome)
       (emaCross r.ema5 r.ema9 previous5 previous9)))

/-! ## An average needs levels -/

/-- The average after some levels. -/
def emaAfter (period : ℕ) (level : Option V) (rest : List (Option V)) : Option V :=
  (stateAfter (emaInit false) (emaStep period false) level rest).ema

theorem emaStateCte_eq_emaAfter (period : ℕ) (levels : Relation (Option V)) :
    emaStateCte period false levels = levels.along (emaAfter period) := by
  rw [emaStateCte, recursive_eq_along, map_eq_along, along_along]
  rfl

/-- The first rows of a history have a level. -/
def Present (n : ℕ) (levels : List (Option V)) : Prop := ∀ i < n, ∃ x, levels[i]? = some (some x)

omit [SqlDouble V] in
theorem Present.cons {n : ℕ} {level : Option V} {levels : List (Option V)}
    (hlevel : level.isSome = true) (h : Present n levels) : Present (n + 1) (level :: levels) := by
  intro i hi
  cases i with
  | zero =>
    obtain ⟨x, rfl⟩ := Option.isSome_iff_exists.mp hlevel
    exact ⟨x, rfl⟩
  | succ i => exact h i (by omega)

omit [SqlDouble V] in
theorem Present.mono {m n : ℕ} {levels : List (Option V)} (h : Present n levels) (hle : m ≤ n) :
    Present m levels := fun i hi => h i (hi.trans_le hle)

/-- **An average exists after as many levels as its period**, none of them null. -/
theorem present_of_emaAfter {period : ℕ} (level : Option V)
    (rest : List (Option V)) :
    Present (stateAfter (emaInit false) (emaStep period false) level rest).seedCount (level :: rest)
      ∧ ((emaAfter period level rest).isSome = true → Present period (level :: rest)) := by
  have hvalid : ∀ {level : Option V}, emaValid false level = true → level.isSome = true := by
    intro level h
    cases level with
    | none => cases h
    | some x => rfl
  induction rest generalizing level with
  | nil =>
    refine ⟨fun i hi => ?_, fun h => nomatch h⟩
    have hcount : i < if emaValid false level then 1 else 0 := hi
    split_ifs at hcount with hlevel
    · obtain ⟨x, rfl⟩ := Option.isSome_iff_exists.mp (hvalid hlevel)
      obtain rfl : i = 0 := by omega
      exact ⟨x, rfl⟩
    · omega
  | cons previous rest ih =>
    obtain ⟨hseed, hema⟩ := ih previous
    rw [emaAfter] at hema ⊢
    rw [stateAfter]
    generalize stateAfter (emaInit false) (emaStep period false) previous rest = st at *
    refine ⟨?_, fun h => ?_⟩
    · simp only [emaStep]
      split_ifs with hlevel hnone
      · exact hseed.cons (hvalid hlevel)
      · have hsome : st.ema.isSome = true :=
          Option.isSome_iff_ne_none.mpr (by simpa using hnone)
        exact ((hema hsome).cons (hvalid hlevel)).mono (Nat.le_succ _)
      · exact fun i hi => absurd hi (Nat.not_lt_zero i)
    · simp only [emaStep] at h
      split_ifs at h with hinvalid hsome hfull
      · cases h
      · have hlevel : level.isSome = true := by
          cases level with
          | none => exact absurd rfl hinvalid
          | some x => rfl
        exact ((hema hsome).cons hlevel).mono (Nat.le_succ _)
      · have hlevel : level.isSome = true := by
          cases level with
          | none => exact absurd rfl hinvalid
          | some x => rfl
        exact (hseed.cons hlevel).mono hfull
      · cases h

/-! ## A lag over fewer rows -/

section Lags

variable {R : Type}

omit [SqlDouble V] in
/-- **Where the first rows are all kept**, a selection leaves them in their places. -/
theorem getElem?_filterMap_of_present {f : Option V → List (Option V) → Option R}
    (hf : ∀ x rest, (f (some x) rest).isSome = true) {levels : List (Option V)} {j : ℕ}
    (h : Present (j + 1) levels) :
    ((alongHistory f levels).filterMap id)[j]? = (alongHistory f levels)[j]?.join := by
  induction levels generalizing j with
  | nil => rfl
  | cons level rest ih =>
    obtain ⟨x, hx⟩ := h 0 (Nat.succ_pos j)
    obtain rfl : level = some x := Option.some.inj hx
    obtain ⟨r, hr⟩ := Option.isSome_iff_exists.mp (hf x rest)
    rw [alongHistory, hr, List.filterMap_cons_some (by rfl)]
    cases j with
    | zero => rfl
    | succ j => exact ih (fun i hi => h (i + 1) (by omega))

/-- The row of the averages after some levels, in the query. -/
def alignedRowOf (level : Option V) (rest : List (Option V)) : Option (EmaAlignedRow V) :=
  level.map (fun x =>
    ⟨x, emaAfter 5 level rest, emaAfter 9 level rest, emaAfter 21 level rest⟩)

/-- The row of the averages after some levels, at every raw row. -/
def rawAlignedRowOf (level : Option V) (rest : List (Option V)) : EmaRawRow V :=
  ⟨level, emaAfter 5 level rest, emaAfter 9 level rest⟩

theorem emaRawAligned_eq_along (levels : Relation (Option V)) :
    emaRawAligned levels = levels.along rawAlignedRowOf := by
  ext t : 1
  rw [emaRawAligned, emaStateCte_eq_emaAfter, emaStateCte_eq_emaAfter, get?_map, get?_leftJoin,
    get?_leftJoin, get?_along, get?_along, get?_along]
  cases levels.get? t <;> rfl

/-- **A lag that an average needs** is the same over the rows that have a level as
over all of them. -/
theorem lag_alignedRowOf {col : EmaAlignedRow V → Option V} {rawCol : EmaRawRow V → Option V}
    (hcol : ∀ x rest, (alignedRowOf (some x) rest).bind col = rawCol (rawAlignedRowOf (some x) rest))
    {levels : List (Option V)} {j : ℕ} (h : Present (j + 1) levels) :
    ((alongHistory alignedRowOf levels).filterMap id)[j]?.bind col
      = (alongHistory rawAlignedRowOf levels)[j]?.bind rawCol := by
  obtain ⟨x, hx⟩ := h j (Nat.lt_succ_self j)
  rw [getElem?_filterMap_of_present (fun _ _ => rfl) h, getElem?_alongHistory_eq,
    getElem?_alongHistory_eq, hx]
  exact hcol x _

/-- **The averages of the query** are at the rows that have a level. -/
theorem emaAlignedCte_eq {s : Series} {projection : Relation (WideRow V)}
    {levels : Relation (Option V)}
    (hlevels : levelCte s projection = levels.filterMap (fun _ level => level)) :
    emaAlignedCte (sourceCte s projection) levels
      = (levels.along alignedRowOf).filterMap (fun _ r => r) := by
  ext t : 1
  rw [emaAlignedCte, emaStateCte_eq_emaAfter, emaStateCte_eq_emaAfter, emaStateCte_eq_emaAfter,
    get?_map, get?_leftJoin, get?_leftJoin, get?_leftJoin, sourceCte_eq_along, hlevels,
    get?_filterMap]
  simp only [get?_along, get?_filterMap]
  cases levels.get? t with
  | none => rfl
  | some level => cases level <;> rfl

end Lags

/-! ## What is published -/

section Row

variable {levels : Relation (Option V)} {t : Timestamp} {x : V}

/-- A column of the row of the query some rows earlier, and one over all raw rows. -/
theorem lag_aligned_raw (col : EmaAlignedRow V → Option V) (rawCol : EmaRawRow V → Option V)
    (hcol : ∀ x rest, (alignedRowOf (some x) rest).bind col = rawCol (rawAlignedRowOf (some x) rest))
    (hlevel : levels.get? t = some (some x)) {period j : ℕ} (hj : j < period)
    (hema : (emaAfter period (some x) (levels.earlier t)).isSome = true) :
    let aligned := (levels.along alignedRowOf).filterMap (fun _ r => r)
    let raw := levels.along rawAlignedRowOf
    KeyedTable.lag col j aligned.values (aligned.rank t)
      = KeyedTable.lag rawCol j raw.values (raw.rank t) := by
  intro aligned raw
  have haligned : aligned.get? t = alignedRowOf (some x) (levels.earlier t) := by
    rw [get?_filterMap, get?_along, hlevel]
    rfl
  have hraw : raw.get? t = some (rawAlignedRowOf (some x) (levels.earlier t)) := by
    rw [get?_along, hlevel]
    rfl
  have hpresent : Present (j + 1) (levels.history t) := by
    rw [history_of_get? hlevel]
    exact ((present_of_emaAfter _ _).2 hema).mono hj
  rw [lag_rank haligned, lag_rank hraw, history_filterMap, history_along, history_along]
  exact lag_alignedRowOf hcol hpresent

/-- **The slope and the crossover of a row that has a level.** -/
theorem emaFeaturesCte_row (hlevel : levels.get? t = some (some x)) :
    ∃ features raw,
      (emaFeaturesCte ((levels.along alignedRowOf).filterMap (fun _ r => r))).get? t = some features
      ∧ (emaRawFeatures levels).get? t = some raw
      ∧ features .ema9Slope3 = raw.1 ∧ features .ema5Ema9Cross = raw.2 := by
  set aligned := (levels.along alignedRowOf).filterMap (fun _ r => r)
  have haligned : aligned.get? t = alignedRowOf (some x) (levels.earlier t) := by
    rw [get?_filterMap, get?_along, hlevel]
    rfl
  have hraw : (levels.along rawAlignedRowOf).get? t
      = some (rawAlignedRowOf (some x) (levels.earlier t)) := by
    rw [get?_along, hlevel]
    rfl
  refine ⟨_, _, by rw [emaFeaturesCte, get?_window, haligned]; rfl,
    by rw [emaRawFeatures, emaRawAligned_eq_along, get?_window, hraw]; rfl, ?_, ?_⟩
  · -- a slope needs the average of nine rows, so the three before this one have levels
    show Sql.caseWhen (_ && (emaAfter 9 _ _).isSome && _) _
      = Sql.caseWhen (_ && (emaAfter 9 _ _).isSome && _) _
    cases hema : (emaAfter 9 (some x) (levels.earlier t)).isSome with
    | false => simp only [rawAlignedRowOf, Bool.and_false, Bool.false_and]; rfl
    | true =>
      rw [lag_aligned_raw EmaAlignedRow.ema9 EmaRawRow.ema9 (fun _ _ => rfl) hlevel
        (by norm_num) hema]
      rfl
  · show Sql.caseWhen (_ && (emaAfter 5 _ _).isSome && _ && _ && _) _
      = Sql.caseWhen (_ && (emaAfter 5 _ _).isSome && _ && _ && _) _
    cases hema : (emaAfter 5 (some x) (levels.earlier t)).isSome with
    | false => simp only [rawAlignedRowOf, Bool.and_false, Bool.false_and]; rfl
    | true =>
      rw [lag_aligned_raw EmaAlignedRow.ema5 EmaRawRow.ema5 (fun _ _ => rfl) hlevel
          (by norm_num) hema,
        lag_aligned_raw EmaAlignedRow.ema9 EmaRawRow.ema9 (fun _ _ => rfl) hlevel
          (by norm_num) hema]
      rfl

/-- A row without a level has neither. -/
theorem emaRawFeatures_null (hlevel : levels.get? t = some none) :
    (emaRawFeatures levels).get? t = some (none, none) := by
  rw [emaRawFeatures, emaRawAligned_eq_along, get?_window, get?_along, hlevel]
  rfl

end Row

/-- **The slope and the crossover agree with lags over all raw rows**, whatever
rows have no level: they are null at the same timestamps and equal elsewhere. -/
theorem ema_lags_raw {s : Series} {tables : List Series} (hs : s ∈ tables) (D : RawTables V)
    (safeLogInputs : Bool) (t : Timestamp) :
    let raw := (emaRawFeatures ((D s).map RawRow.level)).get? t
    let published := fun feature =>
      featureCell s (rawFeatureProjection tables D) (D s) true safeLogInputs t (.single feature)
    published .ema9Slope3 = raw.bind (fun r => numberCell r.1)
      ∧ published .ema5Ema9Cross = raw.bind (fun r => numberCell r.2) := by
  intro raw published
  set levels := (D s).map RawRow.level
  have hcte : levelCte s (rawFeatureProjection tables D) = levels.filterMap (fun _ x => x) :=
    levelCte_eq_levels hs
  -- the cells are those of one relation, at the rows that have a level
  have hcell : ∀ feature ∈ [SingleFeature.ema9Slope3, .ema5Ema9Cross], published feature
      = if ((levels.get? t).bind (fun x => x)).isSome then
          (((emaFeaturesCte ((levels.along alignedRowOf).filterMap (fun _ r => r))).map
            (fun r => numberCell (r feature))).get? t).join
        else none := by
    intro feature hfeature
    rw [← emaAlignedCte_eq hcte, ← get?_filterMap levels (fun _ x => x) t, ← hcte]
    fin_cases hfeature
    · exact featureCell_helper _ _ _ _ _ (fun _ _ _ => rfl) t
    · exact featureCell_helper _ _ _ _ _ (fun _ _ _ => rfl) t
  rw [hcell _ (by simp), hcell _ (by simp)]
  cases hlevel : levels.get? t with
  | none =>
    have hraw : raw = none := by
      show (emaRawFeatures levels).get? t = none
      rw [emaRawFeatures, emaRawAligned_eq_along, get?_window, get?_along, hlevel]
      rfl
    rw [hraw]
    exact ⟨rfl, rfl⟩
  | some level =>
    cases level with
    | none =>
      rw [show raw = some (none, none) from emaRawFeatures_null hlevel]
      exact ⟨rfl, rfl⟩
    | some x =>
      obtain ⟨features, r, hfeatures, hr, hslope, hcross⟩ := emaFeaturesCte_row hlevel
      rw [show raw = some r from hr, get?_map, get?_map, hfeatures]
      exact ⟨congrArg numberCell hslope, congrArg numberCell hcross⟩

/-- Levels that change every day, one of them missing. -/
def gappedLevels (days : ℕ) : Relation (Option ℚ) :=
  KeyedTable.ofRows ((List.range days).map
    (fun day => ((day : ℤ), if day = 2 then none else some (day : ℚ))))

/-- Twelve days after a missing level there is a slope. -/
theorem ema_lags_raw_gapped :
    featureCell .vix (rawFeatureProjection [.vix] (levelTables .vix (gappedLevels 15)))
        (levelTables .vix (gappedLevels 15) .vix) true true 14 (.single .ema9Slope3)
      = numberCell (some (.rat (1 / 14))) := by
  have hraw : ((emaRawFeatures ((gappedLevels 15).map exactCell)).get? 14).map Prod.fst
      = some (some (.rat (1 / 14))) := by decide +kernel
  obtain ⟨r, hr, hslope⟩ := Option.map_eq_some_iff.mp hraw
  have hpublished := (ema_lags_raw (List.mem_singleton_self Series.vix)
    (levelTables .vix (gappedLevels 15)) true 14).1
  rw [levelTables_level, hr, Option.bind_some, hslope] at hpublished
  exact hpublished
