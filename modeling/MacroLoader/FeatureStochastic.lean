import MacroLoader.FeatureBars

/-!
# The stochastic oscillator and the Donchian flags

Both look at the complete bars of a series only, those with four finite fields, and
at nothing else: a bar that is not complete neither fills a window nor resets one.
The reference computes them on the complete bars up to a row, newest first, where a
window is a prefix, the bars before the current one are the tail, and what was the
case some bars earlier is the same function of a shorter list. The numbers are exact.

The place of the close in the range is defined for a positive range only. A range is
zero if all bars of the window are flat at one price, and negative if every low of
the window is above every high, which no table excludes; both have no place
(`inverted_bars`).
-/

open KeyedTable

/-! ## The reference -/

/-- The highest high of some bars. -/
def highest (bars : List (OhlcBar ℚ)) : Option ℚ := (bars.map OhlcBar.high).max?

/-- The lowest low of some bars. -/
def lowest (bars : List (OhlcBar ℚ)) : Option ℚ := (bars.map OhlcBar.low).min?

/-- **`%K`**: the place of the newest close in the range of the last `n` bars, this one
among them. -/
def percentK (n : ℕ) (bars : List (OhlcBar ℚ)) : Option ℚ := do
  let bar ← bars.head?
  let high ← highest (bars.take n)
  let low ← lowest (bars.take n)
  if n ≤ bars.length ∧ low < high then
    return 100 * (bar.close - low) / (high - low)
  else none

/-- **`%D`**: the mean of the `%K` of the last three bars, if all of them have one. -/
def percentD (n : ℕ) (bars : List (OhlcBar ℚ)) : Option ℚ := do
  let k ← percentK n bars
  let k₁ ← percentK n (bars.drop 1)
  let k₂ ← percentK n (bars.drop 2)
  return (k + k₁ + k₂) / 3

/-- The distance of `%K` from `%D`. -/
def percentKdSpread (n : ℕ) (bars : List (OhlcBar ℚ)) : Option ℚ := do
  let k ← percentK n bars
  let d ← percentD n bars
  return k - d

/-- The slope of `%K` over three bars. -/
def percentKSlope3 (n : ℕ) (bars : List (OhlcBar ℚ)) : Option ℚ := do
  let k ← percentK n bars
  let k₃ ← percentK n (bars.drop 3)
  return (k - k₃) / 3

/-- Whether the newest high is above the highs of the twenty bars before it. -/
def breakoutUp : List (OhlcBar ℚ) → Option Bool
  | [] => none
  | bar :: prior =>
    if 20 ≤ prior.length then some (decide (∀ b ∈ prior.take 20, b.high < bar.high)) else none

/-- Whether the newest low is below the lows of the twenty bars before it. -/
def breakoutDown : List (OhlcBar ℚ) → Option Bool
  | [] => none
  | bar :: prior =>
    if 20 ≤ prior.length then some (decide (∀ b ∈ prior.take 20, bar.low < b.low)) else none

/-- The eight features. -/
def stochasticFeatures : List SingleFeature :=
  [.stochK5, .stochD53, .stochK14, .stochD143, .stochKdSpread5, .stochKSlope3,
    .donchianBreakoutUp, .donchianBreakoutDown]

/-- **The features after some complete bars**, newest first. -/
def stochasticReference (bars : List (OhlcBar ℚ)) : SingleFeature → Option (Cell ExactDouble)
  | .stochK5 => numberCell (exactCell (percentK 5 bars))
  | .stochD53 => numberCell (exactCell (percentD 5 bars))
  | .stochK14 => numberCell (exactCell (percentK 14 bars))
  | .stochD143 => numberCell (exactCell (percentD 14 bars))
  | .stochKdSpread5 => numberCell (exactCell (percentKdSpread 5 bars))
  | .stochKSlope3 => numberCell (exactCell (percentKSlope3 5 bars))
  | .donchianBreakoutUp => (breakoutUp bars).map Cell.boolean
  | .donchianBreakoutDown => (breakoutDown bars).map Cell.boolean
  | _ => none

/-- A number, of a cell that holds one. -/
def numberOf : Option ExactDouble → Option ℚ
  | some (.rat q) => some q
  | _ => none

/-- **A complete bar**: four numbers. -/
def completeBar (bar : Bar ExactDouble) : Option (OhlcBar ℚ) := do
  let open_ ← numberOf (bar .open_)
  let high ← numberOf (bar .high)
  let low ← numberOf (bar .low)
  let close ← numberOf (bar .close)
  return ⟨open_, high, low, close⟩

/-- The complete bars of a series. -/
def completeBars {s : Series} (table : KeyedTable Timestamp (RawRow ExactDouble s.nativeShape)) :
    Relation (OhlcBar ℚ) :=
  (seriesBars table).filterMap (fun _ => completeBar)

/-! ## The reference by itself -/

section Reference

variable {n : ℕ} {bars : List (OhlcBar ℚ)}

theorem highest_eq_some_iff {x : ℚ} :
    highest bars = some x ↔ (∃ b ∈ bars, b.high = x) ∧ ∀ b ∈ bars, b.high ≤ x := by
  rw [highest, List.max?_eq_some_iff]
  simp only [List.mem_map, forall_exists_index, and_imp, forall_apply_eq_imp_iff₂]

theorem lowest_eq_some_iff {x : ℚ} :
    lowest bars = some x ↔ (∃ b ∈ bars, b.low = x) ∧ ∀ b ∈ bars, x ≤ b.low := by
  rw [lowest, List.min?_eq_some_iff]
  simp only [List.mem_map, forall_exists_index, and_imp, forall_apply_eq_imp_iff₂]

/-- A window with bars in it has both bounds. -/
theorem exists_highest_lowest (hbars : bars ≠ []) :
    ∃ high low, highest bars = some high ∧ lowest bars = some low := by
  have hhigh : (highest bars).isSome = true :=
    List.isSome_max?_of_ne_nil (by simpa using hbars)
  have hlow : (lowest bars).isSome = true :=
    List.isSome_min?_of_ne_nil (by simpa using hbars)
  obtain ⟨high, hhigh⟩ := Option.isSome_iff_exists.mp hhigh
  obtain ⟨low, hlow⟩ := Option.isSome_iff_exists.mp hlow
  exact ⟨high, low, hhigh, hlow⟩

/-- `%K`, when the bounds of the window are known. -/
theorem percentK_of_bounds {bar : OhlcBar ℚ} {rest : List (OhlcBar ℚ)} {high low : ℚ}
    (hhigh : highest ((bar :: rest).take n) = some high)
    (hlow : lowest ((bar :: rest).take n) = some low) :
    percentK n (bar :: rest) = if n ≤ (bar :: rest).length ∧ low < high then
      some (100 * (bar.close - low) / (high - low)) else none := by
  rw [percentK, hhigh, hlow]
  rfl

/-- **There is no `%K` exactly when** there are too few bars or the range is not positive. -/
theorem percentK_eq_none_iff (hn : 0 < n) (hbars : bars ≠ []) :
    percentK n bars = none ↔ bars.length < n
      ∨ ∀ a ∈ bars.take n, ∀ b ∈ bars.take n, a.high ≤ b.low := by
  cases bars with
  | nil => exact absurd rfl hbars
  | cons bar rest =>
    have hwindow : (bar :: rest).take n ≠ [] := by
      rw [Ne, List.take_eq_nil_iff]
      rintro (hzero | hnil)
      · exact hn.ne' hzero
      · exact hbars hnil
    obtain ⟨high, low, hhigh, hlow⟩ := exists_highest_lowest hwindow
    obtain ⟨⟨a, ha, hahigh⟩, hhighest⟩ := highest_eq_some_iff.mp hhigh
    obtain ⟨⟨b, hb, hblow⟩, hlowest⟩ := lowest_eq_some_iff.mp hlow
    rw [percentK_of_bounds hhigh hlow, ite_eq_right_iff]
    constructor
    · intro hnone
      rw [or_iff_not_imp_left, not_lt]
      intro hlong a' ha' b' hb'
      have hle : high ≤ low := le_of_not_gt (fun hlt => nomatch hnone ⟨hlong, hlt⟩)
      exact (hhighest a' ha').trans (hle.trans (hlowest b' hb'))
    · rintro (hshort | hflat) ⟨hlong, hlt⟩
      · exact absurd hlong (not_le.mpr hshort)
      · rw [← hahigh, ← hblow] at hlt
        exact absurd (hflat a ha b hb) (not_le.mpr hlt)

/-- **`%K` lies between 0 and 100** if the close of its bar is between low and high. -/
theorem percentK_mem_Icc {bar : OhlcBar ℚ} {rest : List (OhlcBar ℚ)} (hn : 0 < n)
    (hlow : bar.low ≤ bar.close) (hhigh : bar.close ≤ bar.high) {k : ℚ}
    (hk : percentK n (bar :: rest) = some k) : k ∈ Set.Icc 0 100 := by
  obtain ⟨m, rfl⟩ : ∃ m, n = m + 1 := ⟨n - 1, by omega⟩
  have hbar : bar ∈ (bar :: rest).take (m + 1) := List.mem_cons_self
  obtain ⟨high, low, hmax, hmin⟩ := exists_highest_lowest (List.ne_nil_of_mem hbar)
  rw [percentK_of_bounds hmax hmin] at hk
  split_ifs at hk with hrange
  obtain rfl := Option.some.inj hk
  have hrange' : 0 < high - low := sub_pos.mpr hrange.2
  have hfloor : low ≤ bar.close := ((lowest_eq_some_iff.mp hmin).2 bar hbar).trans hlow
  have hceiling : bar.close ≤ high := hhigh.trans ((highest_eq_some_iff.mp hmax).2 bar hbar)
  constructor
  · exact div_nonneg (mul_nonneg (by norm_num) (sub_nonneg.mpr hfloor)) hrange'.le
  · rw [div_le_iff₀ hrange']
    linarith

end Reference

/-! ## The bars of the query -/

/-- A complete bar, as the query has it. -/
def exactOhlcBar (bar : OhlcBar ℚ) : OhlcBar ExactDouble :=
  ⟨.rat bar.open_, .rat bar.high, .rat bar.low, .rat bar.close⟩

theorem finite_eq_isSome_numberOf (x : Option ExactDouble) :
    Sql.finite x = (numberOf x).isSome := by
  cases x with
  | none => rfl
  | some v => cases v <;> rfl

theorem eq_of_numberOf {x : Option ExactDouble} {q : ℚ} (h : numberOf x = some q) :
    x = some (.rat q) := by
  cases x with
  | none => cases h
  | some v =>
    cases v with
    | rat p => rw [← Option.some.inj h]
    | negInfinity => cases h
    | infinity => cases h
    | nan => cases h

/-- **The query takes the complete bars.** -/
theorem finiteBar_eq (s : Series) (row : WideRow ExactDouble) :
    finiteBar s row = (completeBar (fun f => barCell s f row)).map exactOhlcBar := by
  rw [finiteBar, completeBar]
  simp only [ohlcFields, List.all_cons, List.all_nil, finite_eq_isSome_numberOf, Bool.and_true]
  cases hopen : numberOf (barCell s .open_ row) with
  | none => rfl
  | some open_ =>
    cases hhigh : numberOf (barCell s .high row) with
    | none => rfl
    | some high =>
      cases hlow : numberOf (barCell s .low row) with
      | none => rfl
      | some low =>
        cases hclose : numberOf (barCell s .close row) with
        | none => rfl
        | some close =>
          rw [eq_of_numberOf hopen, eq_of_numberOf hhigh, eq_of_numberOf hlow,
            eq_of_numberOf hclose]
          rfl

theorem ohlcObservationsCte_eq {s : Series} {tables : List Series} (hs : s ∈ tables)
    (hshape : s.nativeShape = .ohlc) (D : RawTables ExactDouble) :
    ohlcObservationsCte s (rawFeatureProjection tables D)
      = (completeBars (D s)).map exactOhlcBar := by
  have hbars := filterMap_seriesBars hs hshape D
    (g := fun bar => (completeBar bar).map exactOhlcBar) rfl
  ext t : 1
  rw [ohlcObservationsCte, funext (fun _ : Timestamp => funext (finiteBar_eq s)), hbars,
    get?_filterMap, completeBars, get?_map, get?_filterMap, Option.map_bind]
  rfl

/-! ## The windows of the query -/

section Windows

/-- A fold that keeps the greater of two exact numbers. -/
theorem max_exact {R : Type} (col : R → ℚ) (rows : List R) :
    Sql.max (fun r => (some (.rat (col r)) : Option ExactDouble)) rows
      = exactCell (rows.map col).max? := by
  have hfold : ∀ (rows : List R) (a : ℚ),
      (rows.map (fun r => ExactDouble.rat (col r))).foldl
          (fun acc x => Sql.greatest acc (some x)) (some (.rat a))
        = some (.rat ((rows.map col).foldl max a)) := by
    intro rows
    induction rows with
    | nil => exact fun _ => rfl
    | cons r rest ih =>
      intro a
      rw [List.map_cons, List.map_cons, List.foldl_cons, List.foldl_cons, greatest_exact]
      exact ih _
  rw [Sql.max, Sql.nonNull, List.filterMap_eq_map']
  cases rows with
  | nil => rfl
  | cons r rest => exact hfold rest (col r)

/-- The lesser of two nullable values, of which one is not null. -/
def least (acc : Option ExactDouble) (x : ExactDouble) : Option ExactDouble :=
  match acc with
  | some y => if SqlDouble.lt x y then some x else some y
  | none => some x

theorem least_exact (a b : ℚ) : least (some (.rat a)) (.rat b) = some (.rat (min a b)) := by
  show (if decide (b < a) then some (ExactDouble.rat b) else some (.rat a)) = _
  simp only [decide_eq_true_eq]
  split_ifs with h
  · rw [min_eq_right h.le]
  · rw [min_eq_left (not_lt.mp h)]

theorem min_exact {R : Type} (col : R → ℚ) (rows : List R) :
    Sql.min (fun r => (some (.rat (col r)) : Option ExactDouble)) rows
      = exactCell (rows.map col).min? := by
  have hfold : ∀ (rows : List R) (a : ℚ),
      (rows.map (fun r => ExactDouble.rat (col r))).foldl least (some (.rat a))
        = some (.rat ((rows.map col).foldl min a)) := by
    intro rows
    induction rows with
    | nil => exact fun _ => rfl
    | cons r rest ih =>
      intro a
      rw [List.map_cons, List.map_cons, List.foldl_cons, List.foldl_cons, least_exact]
      exact ih _
  have hmin : Sql.min (fun r => (some (.rat (col r)) : Option ExactDouble)) rows
      = (rows.map (fun r => ExactDouble.rat (col r))).foldl least none := by
    rw [Sql.min, Sql.nonNull, List.filterMap_eq_map']
    refine congrArg (fun step => List.foldl step _ _) (funext (fun acc => funext (fun x => ?_)))
    cases acc <;> rfl
  rw [hmin]
  cases rows with
  | nil => rfl
  | cons r rest => exact hfold rest (col r)

/-- The order of a window is of no account for its highest high. -/
theorem highest_reverse (bars : List (OhlcBar ℚ)) : highest bars.reverse = highest bars := by
  ext x
  rw [highest_eq_some_iff, highest_eq_some_iff]
  simp only [List.mem_reverse]

theorem lowest_reverse (bars : List (OhlcBar ℚ)) : lowest bars.reverse = lowest bars := by
  ext x
  rw [lowest_eq_some_iff, lowest_eq_some_iff]
  simp only [List.mem_reverse]

/-- The row of the windows after some complete bars. -/
def ohlcWindowRowOf (bar : OhlcBar ℚ) (rest : List (OhlcBar ℚ)) : OhlcWindowRow ExactDouble :=
  let w5 := (bar :: rest).take 5
  let w14 := (bar :: rest).take 14
  let prior20 := rest.take 20
  { toOhlcBar := exactOhlcBar bar
    count5 := w5.length
    minLow5 := exactCell (lowest w5)
    maxHigh5 := exactCell (highest w5)
    count14 := w14.length
    minLow14 := exactCell (lowest w14)
    maxHigh14 := exactCell (highest w14)
    priorCount20 := prior20.length
    priorMaxHigh20 := exactCell (highest prior20)
    priorMinLow20 := exactCell (lowest prior20) }

theorem max_high_exact (bars : List (OhlcBar ℚ)) :
    Sql.max (fun b : OhlcBar ExactDouble => some b.high) (bars.map exactOhlcBar).reverse
      = exactCell (highest bars) := by
  rw [← highest_reverse, highest, ← max_exact, ← List.map_reverse, Sql.max, Sql.nonNull,
    List.filterMap_map]
  rfl

theorem min_low_exact (bars : List (OhlcBar ℚ)) :
    Sql.min (fun b : OhlcBar ExactDouble => some b.low) (bars.map exactOhlcBar).reverse
      = exactCell (lowest bars) := by
  rw [← lowest_reverse, lowest, ← min_exact, ← List.map_reverse, Sql.min, Sql.nonNull,
    List.filterMap_map]
  rfl

theorem ohlcWindowsCte_eq_along (bars : Relation (OhlcBar ℚ)) :
    ohlcWindowsCte (bars.map exactOhlcBar) = bars.along ohlcWindowRowOf := by
  ext t : 1
  rw [ohlcWindowsCte, get?_window, get?_along]
  cases hbar : bars.get? t with
  | none =>
    rw [get?_map, hbar]
    rfl
  | some bar =>
    have hexact : (bars.map exactOhlcBar).get? t = some (exactOhlcBar bar) := by
      rw [get?_map, hbar]
      rfl
    -- the three frames are prefixes of the exact bars
    have hframe : ∀ n, frame n 0 (bars.map exactOhlcBar).values ((bars.map exactOhlcBar).rank t)
        = (((bar :: bars.earlier t).take (n + 1)).map exactOhlcBar).reverse := by
      intro n
      rw [frame_eq (getElem?_rank hexact), reverse_take_rank_earlier hexact, earlier_map,
        ← List.map_cons, ← List.map_take]
    have hprior : frame 20 1 (bars.map exactOhlcBar).values ((bars.map exactOhlcBar).rank t)
        = (((bars.earlier t).take 20).map exactOhlcBar).reverse := by
      rw [frame_prior_eq (getElem?_rank hexact), reverse_take_rank_earlier hexact, earlier_map,
        ← List.map_take]
    rw [hexact, Option.map_some, Option.map_some, ohlcWindowRowOf]
    dsimp only
    rw [hframe 4, hframe 13, hprior]
    simp only [max_high_exact, min_low_exact, List.length_reverse, List.length_map]

end Windows

/-! ## The features of the query -/

section Rows

/-- The place in a range, as the query computes it. -/
theorem stochK_exact (n : ℕ) (bar : OhlcBar ℚ) (rest : List (OhlcBar ℚ)) :
    stochK n ((bar :: rest).take n).length (.rat bar.close)
        (exactCell (lowest ((bar :: rest).take n))) (exactCell (highest ((bar :: rest).take n)))
      = exactCell (percentK n (bar :: rest)) := by
  cases hhigh : highest ((bar :: rest).take n) with
  | none =>
    rw [percentK, hhigh, stochK, exactCell_none, show ∀ low : Option ExactDouble,
      Sql.gt none low = false from fun _ => rfl, Bool.and_false]
    rfl
  | some high =>
    cases hlow : lowest ((bar :: rest).take n) with
    | none =>
      rw [percentK, hhigh, hlow, stochK, exactCell_none, exactCell_some,
        show Sql.gt (some (ExactDouble.rat high)) none = false from rfl, Bool.and_false]
      rfl
    | some low =>
      rw [percentK_of_bounds hhigh hlow, stochK, length_take_beq, exactCell_some, exactCell_some,
        gt_exact, lit_exact, sub_exact, sub_exact, mul_exact, div_exact, ← Bool.decide_and]
      by_cases hrange : n ≤ (bar :: rest).length ∧ low < high
      · rw [decide_eq_true hrange, if_pos hrange]
        rfl
      · rw [decide_eq_false hrange, if_neg hrange]
        rfl

/-- The row with both places, after some complete bars. -/
def stochasticRowOf (bar : OhlcBar ℚ) (rest : List (OhlcBar ℚ)) : StochasticRow ExactDouble :=
  { toOhlcWindowRow := ohlcWindowRowOf bar rest
    stochK5 := exactCell (percentK 5 (bar :: rest))
    stochK14 := exactCell (percentK 14 (bar :: rest)) }

theorem stochasticRawCte_eq_along (bars : Relation (OhlcBar ℚ)) :
    stochasticRawCte (ohlcWindowsCte (bars.map exactOhlcBar)) = bars.along stochasticRowOf := by
  rw [stochasticRawCte, ohlcWindowsCte_eq_along, map_eq_along, along_along]
  congr 1
  funext bar rest
  rw [stochasticRowOf, ← stochK_exact, ← stochK_exact]
  rfl

variable {n : ℕ} {col : StochasticRow ExactDouble → Option ExactDouble}

/-- The place some complete bars earlier. -/
theorem lag_stochasticRowOf
    (hcol : ∀ bar rest, col (stochasticRowOf bar rest) = exactCell (percentK n (bar :: rest)))
    (bars : List (OhlcBar ℚ)) (j : ℕ) :
    (alongHistory stochasticRowOf bars)[j]?.bind col = exactCell (percentK n (bars.drop j)) :=
  bind_getElem?_alongHistory (f := fun bars => exactCell (percentK n bars)) hcol rfl bars j

/-- **The mean of three places**: three of them are counted exactly if there is a mean,
and then it is the mean. -/
theorem mean_stochasticRowOf
    (hcol : ∀ bar rest, col (stochasticRowOf bar rest) = exactCell (percentK n (bar :: rest)))
    (bars : List (OhlcBar ℚ)) :
    let w := ((alongHistory stochasticRowOf bars).take 3).reverse
    (Sql.count col w == 3) = (percentD n bars).isSome
      ∧ ∀ d, percentD n bars = some d → Sql.avg col w = some (.rat d) := by
  intro w
  -- the window as a list of nullable places, oldest first
  have hplaces : w.filterMap col
      = [percentK n (bars.drop 2), percentK n (bars.drop 1), percentK n bars].filterMap
        exactCell := by
    have hlast : ∀ j, (alongHistory stochasticRowOf bars)[j]?.bind col
        = exactCell (percentK n (bars.drop j)) := lag_stochasticRowOf hcol bars
    have htake : ∀ l : List (StochasticRow ExactDouble), ((l.take 3).reverse).filterMap col
        = [l[2]?.bind col, l[1]?.bind col, l[0]?.bind col].filterMap id := by
      intro l
      rcases l with _ | ⟨a, _ | ⟨b, _ | ⟨c, rest⟩⟩⟩
      · rfl
      · simp [List.filterMap_cons]
      · simp [List.filterMap_cons]
      · simp [List.filterMap_cons]
    rw [htake, hlast, hlast, hlast]
    simp only [List.filterMap_cons, List.filterMap_nil, id_eq, List.drop_zero]
  rw [Sql.count, Sql.avg, Sql.nonNull, hplaces, percentD]
  have hnone : ∀ avg : Option ExactDouble, ∀ d : ℚ, none = some d → avg = some (.rat d) :=
    fun _ d h => by cases h
  cases percentK n bars with
  | none => cases percentK n (bars.drop 1) <;> cases percentK n (bars.drop 2) <;>
      exact ⟨rfl, hnone _⟩
  | some k =>
    cases percentK n (bars.drop 1) with
    | none => cases percentK n (bars.drop 2) <;> exact ⟨rfl, hnone _⟩
    | some k₁ =>
      cases percentK n (bars.drop 2) with
      | none => exact ⟨rfl, hnone _⟩
      | some k₂ =>
        refine ⟨rfl, fun d hd => ?_⟩
        obtain rfl := Option.some.inj hd
        have hmean := avg_exact (l := [k₂, k₁, k]) (List.cons_ne_nil _ _)
        simp only [List.sum_cons, List.sum_nil, List.length_cons, List.length_nil] at hmean
        refine hmean.trans (congrArg (fun q => some (ExactDouble.rat q)) ?_)
        push_cast
        ring

/-- A mean of places that is published where three of them are counted. -/
theorem mean_cell
    (hcol : ∀ bar rest, col (stochasticRowOf bar rest) = exactCell (percentK n (bar :: rest)))
    (bars : List (OhlcBar ℚ)) :
    let w := ((alongHistory stochasticRowOf bars).take 3).reverse
    Sql.caseWhen (Sql.count col w == 3 && Sql.finite (Sql.avg col w)) (Sql.avg col w)
      = exactCell (percentD n bars) := by
  intro w
  obtain ⟨hcount, hmean⟩ := mean_stochasticRowOf hcol bars
  rw [hcount]
  cases hd : percentD n bars with
  | none => rfl
  | some d =>
    rw [hmean d hd]
    rfl

/-- The distance from the mean. -/
theorem spread_cell
    (hcol : ∀ bar rest, col (stochasticRowOf bar rest) = exactCell (percentK n (bar :: rest)))
    (bars : List (OhlcBar ℚ)) :
    let w := ((alongHistory stochasticRowOf bars).take 3).reverse
    let spread := Sql.sub (exactCell (percentK n bars)) (Sql.avg col w)
    Sql.caseWhen (Sql.count col w == 3 && Sql.finite spread) spread
      = exactCell (percentKdSpread n bars) := by
  intro w spread
  obtain ⟨hcount, hmean⟩ := mean_stochasticRowOf hcol bars
  have hspread : spread = Sql.sub (exactCell (percentK n bars)) (Sql.avg col w) := rfl
  rw [hcount, percentKdSpread]
  cases hd : percentD n bars with
  | none =>
    cases percentK n bars <;> rfl
  | some d =>
    rw [hspread, hmean d hd]
    cases percentK n bars <;> rfl

/-- The slope over three bars. -/
theorem slope_cell (n : ℕ) (bars : List (OhlcBar ℚ)) :
    let k := exactCell (percentK n bars)
    let k₃ := exactCell (percentK n (bars.drop 3))
    let slope := Sql.div (Sql.sub k k₃) (Sql.lit 3)
    Sql.caseWhen (k.isSome && k₃.isSome) (Sql.caseWhen (Sql.finite slope) slope)
      = exactCell (percentKSlope3 n bars) := by
  rw [percentKSlope3]
  cases percentK n bars <;> cases percentK n (bars.drop 3) <;> rfl

/-- A flag for a high above the ones before it. -/
theorem breakoutUp_cell (bar : OhlcBar ℚ) (prior : List (OhlcBar ℚ)) :
    Sql.caseWhen ((prior.take 20).length == 20)
        (greaterCell (some (.rat bar.high)) (exactCell (highest (prior.take 20))))
      = (breakoutUp (bar :: prior)).map Cell.boolean := by
  rw [breakoutUp, length_take_beq]
  by_cases hlong : 20 ≤ prior.length
  · have hprior : prior.take 20 ≠ [] := by
      rw [Ne, List.take_eq_nil_iff]
      rintro (hzero | rfl)
      · cases hzero
      · exact absurd hlong (by decide)
    obtain ⟨high, -, hhigh, -⟩ := exists_highest_lowest hprior
    obtain ⟨⟨a, ha, rfl⟩, hhighest⟩ := highest_eq_some_iff.mp hhigh
    have habove : a.high < bar.high ↔ ∀ b ∈ prior.take 20, b.high < bar.high :=
      ⟨fun h b hb => (hhighest b hb).trans_lt h, fun h => h a ha⟩
    rw [if_pos hlong, decide_eq_true hlong, hhigh, ← decide_eq_decide.mpr habove]
    rfl
  · rw [if_neg hlong, decide_eq_false hlong]
    rfl

/-- A flag for a low below the ones before it. -/
theorem breakoutDown_cell (bar : OhlcBar ℚ) (prior : List (OhlcBar ℚ)) :
    Sql.caseWhen ((prior.take 20).length == 20)
        (greaterCell (exactCell (lowest (prior.take 20))) (some (.rat bar.low)))
      = (breakoutDown (bar :: prior)).map Cell.boolean := by
  rw [breakoutDown, length_take_beq]
  by_cases hlong : 20 ≤ prior.length
  · have hprior : prior.take 20 ≠ [] := by
      rw [Ne, List.take_eq_nil_iff]
      rintro (hzero | rfl)
      · cases hzero
      · exact absurd hlong (by decide)
    obtain ⟨-, low, -, hlow⟩ := exists_highest_lowest hprior
    obtain ⟨⟨a, ha, rfl⟩, hlowest⟩ := lowest_eq_some_iff.mp hlow
    have hbelow : bar.low < a.low ↔ ∀ b ∈ prior.take 20, bar.low < b.low :=
      ⟨fun h b hb => h.trans_le (hlowest b hb), fun h => h a ha⟩
    rw [if_pos hlong, decide_eq_true hlong, hlow, ← decide_eq_decide.mpr hbelow]
    rfl
  · rw [if_neg hlong, decide_eq_false hlong]
    rfl

/-- **The features of the query are the reference** on the complete bars. -/
theorem stochasticFeaturesCte_eq_along (bars : Relation (OhlcBar ℚ)) :
    stochasticFeaturesCte (stochasticHistoryCte (stochasticRawCte (ohlcWindowsCte
        (bars.map exactOhlcBar))))
      = bars.along (fun bar rest => stochasticReference (bar :: rest)) := by
  rw [stochasticRawCte_eq_along]
  generalize hraw : bars.along stochasticRowOf = raw
  ext t : 1
  rw [stochasticFeaturesCte, stochasticHistoryCte, get?_map, get?_window, get?_along]
  cases hbar : bars.get? t with
  | none =>
    rw [← hraw, get?_along, hbar]
    rfl
  | some bar =>
    have hrow : raw.get? t = some (stochasticRowOf bar (bars.earlier t)) := by
      rw [← hraw, get?_along, hbar]
      rfl
    have hhistory : raw.history t = alongHistory stochasticRowOf (bar :: bars.earlier t) := by
      rw [← hraw, history_along, history_of_get? hbar]
    have hframe : frame 2 0 raw.values (raw.rank t)
        = ((alongHistory stochasticRowOf (bar :: bars.earlier t)).take 3).reverse := by
      rw [← hhistory, ← trailing_rank hrow (by norm_num)]
      rfl
    have hlag : KeyedTable.lag StochasticRow.stochK5 3 raw.values (raw.rank t)
        = exactCell (percentK 5 ((bar :: bars.earlier t).drop 3)) := by
      rw [lag_rank hrow, hhistory, lag_stochasticRowOf (fun _ _ => rfl)]
    rw [hrow, Option.map_some, Option.map_some, Option.map_some]
    congr 1
    funext feature
    dsimp only
    rw [hframe, hlag]
    cases feature <;> try rfl
    case stochD53 => exact congrArg numberCell (mean_cell (fun _ _ => rfl) _)
    case stochD143 => exact congrArg numberCell (mean_cell (fun _ _ => rfl) _)
    case stochKdSpread5 => exact congrArg numberCell (spread_cell (fun _ _ => rfl) _)
    case stochKSlope3 => exact congrArg numberCell (slope_cell _ _)
    case donchianBreakoutUp => exact breakoutUp_cell bar _
    case donchianBreakoutDown => exact breakoutDown_cell bar _

end Rows

/-! ## What is published -/

section Published

variable {s : Series} {tables : List Series} {D : RawTables ExactDouble} {t : Timestamp}

/-- A complete bar has a level. -/
theorem isSome_level_of_complete (hs : s ∈ tables) (hshape : s.nativeShape = .ohlc)
    {bar : OhlcBar ℚ} (hbar : (completeBars (D s)).get? t = some bar) :
    ((levelCte s (rawFeatureProjection tables D)).get? t).isSome = true := by
  rw [completeBars, get?_filterMap] at hbar
  obtain ⟨cells, hcells, hcomplete⟩ := Option.bind_eq_some_iff.mp hbar
  rw [levelCte_seriesBars hs hshape, hcells, Option.bind_some]
  cases hclose : cells .close with
  | some c => rfl
  | none =>
    have hnone : completeBar cells = none := by
      rw [completeBar, hclose]
      cases numberOf (cells .open_) with
      | none => rfl
      | some open_ => cases numberOf (cells .high) <;> cases numberOf (cells .low) <;> rfl
    rw [hnone] at hcomplete
    cases hcomplete

/-- **The published features are the reference** at the complete bars, and there are none
at other rows. -/
theorem featureCell_stochastic (hs : s ∈ tables) (hshape : s.nativeShape = .ohlc)
    (safeLogInputs : Bool) {feature : SingleFeature} (hfeature : feature ∈ stochasticFeatures) :
    featureCell s (rawFeatureProjection tables D) (D s) true safeLogInputs t (.single feature)
      = ((completeBars (D s)).get? t).bind (fun _ =>
          stochasticReference ((completeBars (D s)).history t) feature) := by
  have hcell : featureCell s (rawFeatureProjection tables D) (D s) true safeLogInputs t
      (.single feature) = if ((levelCte s (rawFeatureProjection tables D)).get? t).isSome then
        (((stochasticFeaturesCte (stochasticHistoryCte (stochasticRawCte (ohlcWindowsCte
          (ohlcObservationsCte s (rawFeatureProjection tables D)))))).map
            (fun r => r feature)).get? t).join
        else none := by
    fin_cases hfeature <;> exact featureCell_helper _ _ _ _ _ (fun _ _ _ => rfl) t
  rw [hcell, ohlcObservationsCte_eq hs hshape, stochasticFeaturesCte_eq_along, get?_map, get?_along]
  cases hbar : (completeBars (D s)).get? t with
  | none => exact ite_self none
  | some bar =>
    rw [if_pos (isSome_level_of_complete hs hshape hbar), history_of_get? hbar]
    rfl

/-- **The stochastic and Donchian features are the reference** on the complete bars. A
`%K` is missing exactly where there are too few bars or the range of the window is not
positive, and lies between 0 and 100 where the close of the bar lies between its low
and its high. -/
theorem stochastic_reference (hs : s ∈ tables) (hshape : s.nativeShape = .ohlc)
    (D : RawTables ExactDouble) (safeLogInputs : Bool) (t : Timestamp) :
    let bars := completeBars (D s)
    let published := fun feature =>
      featureCell s (rawFeatureProjection tables D) (D s) true safeLogInputs t (.single feature)
    (∀ feature ∈ stochasticFeatures,
      published feature = (bars.get? t).bind (fun _ => stochasticReference (bars.history t) feature))
    ∧ ∀ p ∈ [(SingleFeature.stochK5, 5), (SingleFeature.stochK14, 14)], ∀ bar,
      bars.get? t = some bar →
        (published p.1 = none ↔ (bars.history t).length < p.2
          ∨ ∀ a ∈ (bars.history t).take p.2, ∀ b ∈ (bars.history t).take p.2, a.high ≤ b.low)
        ∧ (bar.low ≤ bar.close → bar.close ≤ bar.high →
          ∀ k : ℚ, published p.1 = numberCell (exactCell (some k)) → k ∈ Set.Icc 0 100) := by
  intro bars published
  have hreference : ∀ feature ∈ stochasticFeatures, published feature
      = (bars.get? t).bind (fun _ => stochasticReference (bars.history t) feature) :=
    fun feature hfeature => featureCell_stochastic hs hshape safeLogInputs hfeature
  refine ⟨hreference, fun p hp bar hbar => ?_⟩
  -- either place is published as such
  have hplace : 0 < p.2 ∧ published p.1 = numberCell (exactCell (percentK p.2 (bars.history t))) := by
    simp only [List.mem_cons, List.not_mem_nil, or_false] at hp
    rcases hp with rfl | rfl
    · exact ⟨by norm_num, (hreference _ (by decide)).trans (by rw [hbar]; rfl)⟩
    · exact ⟨by norm_num, (hreference _ (by decide)).trans (by rw [hbar]; rfl)⟩
  have hhistory : bars.history t = bar :: bars.earlier t := history_of_get? hbar
  rw [hplace.2]
  constructor
  · rw [← percentK_eq_none_iff hplace.1 (by rw [hhistory]; exact List.cons_ne_nil _ _)]
    cases percentK p.2 (bars.history t) with
    | none => exact ⟨fun _ => rfl, fun _ => rfl⟩
    | some k => exact ⟨fun h => (nomatch h), fun h => (nomatch h)⟩
  · intro hlow hhigh k hk
    rw [hhistory] at hk
    have hplaced : percentK p.2 (bar :: bars.earlier t) = some k := by
      cases hvalue : percentK p.2 (bar :: bars.earlier t) with
      | none =>
        rw [hvalue] at hk
        cases hk
      | some k' =>
        rw [hvalue] at hk
        rw [ExactDouble.rat.inj (Cell.number.inj (Option.some.inj hk))]
    exact percentK_mem_Icc hplace.1 hlow hhigh hplaced

end Published

/-! ## Bars with their low above their high -/

/-- Some days with the same bar. -/
def constantBars (days : ℕ) (bar : Bar ExactDouble) : Relation (Bar ExactDouble) :=
  KeyedTable.ofRows ((List.range days).map (fun day => ((day : ℤ), bar)))

theorem completeBars_constant (bar : Bar ExactDouble) :
    completeBars (barTables (constantBars 5 bar) .vix)
      = (constantBars 5 bar).filterMap (fun _ => completeBar) := by
  rw [completeBars, seriesBars_barTables rfl]

/-- A close in the middle of five equal bars. -/
theorem stochastic_reference_constant :
    let D := barTables (constantBars 5 (exactBar (some 12) (some 20) (some 10) (some 15)))
    featureCell .vix (rawFeatureProjection [.vix] D) (D .vix) true true 4 (.single .stochK5)
      = numberCell (exactCell (some 50)) := by
  intro D
  have hpublished := (stochastic_reference (List.mem_singleton_self Series.vix) rfl D true 4).1
    .stochK5 (by decide)
  have hk : percentK 5 ((completeBars (D .vix)).history 4) = some 50 := by
    rw [completeBars_constant]
    decide +kernel
  have hrow : ((completeBars (D .vix)).get? 4).isSome = true := by
    rw [completeBars_constant]
    decide +kernel
  obtain ⟨bar, hbar⟩ := Option.isSome_iff_exists.mp hrow
  rw [hbar, Option.bind_some, stochasticReference, hk] at hpublished
  exact hpublished

/-- Five bars whose lows are above their highs have a range that is not zero, and no
place in it. -/
theorem inverted_bars :
    let D := barTables (constantBars 5 (exactBar (some 1) (some 1) (some 2) (some 1)))
    let bars := completeBars (D .vix)
    ¬ (featureCell .vix (rawFeatureProjection [.vix] D) (D .vix) true true 4 (.single .stochK5) = none
      ↔ (bars.history 4).length < 5
        ∨ highest ((bars.history 4).take 5) = lowest ((bars.history 4).take 5)) := by
  intro D bars hiff
  have hk : percentK 5 (bars.history 4) = none := by
    rw [show bars = _ from completeBars_constant _]
    decide +kernel
  have hnone : featureCell .vix (rawFeatureProjection [.vix] D) (D .vix) true true 4
      (.single .stochK5) = none := by
    rw [featureCell_stochastic (List.mem_singleton_self Series.vix) rfl true (by decide),
      stochasticReference, hk]
    exact Option.bind_fun_none _
  rw [show bars = _ from completeBars_constant _] at hiff
  exact absurd (hiff.mp hnone) (by decide +kernel)
