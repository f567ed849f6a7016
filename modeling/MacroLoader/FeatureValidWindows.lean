import MacroLoader.FeatureMacd

/-!
# Windows that count valid values

The z-scores and the return autocorrelations take their window over the rows that
have a valid value, so a row that has none neither fills the window nor takes a place
in it. But what a value looks back to is found before anything is left out: the
return that is paired with a return is the one a fixed number of rows earlier, and a
volatility sees eight rows, of which all must have a return.

The reference states this on the levels up to a row, newest first: a window is the
last so many of the valid values along the history (`validWindow`), and a value is a
function of a history. Logarithm, mean, standard deviation and correlation are
arbitrary functions of what they are given. What the nulls need of them is that they
have a value where they are defined (`AggregatesDefined`).
-/

open KeyedTable

variable {V : Type} [SqlDouble V]

/-! ## The reference -/

section Reference

variable {X : Type}

/-- **The valid values** along a history, newest first. -/
def validValues (value : List V → Option X) (levels : List V) : List X :=
  (alongHistory (fun level rest => value (level :: rest)) levels).filterMap id

/-- **The last `n` valid values**, oldest first, at a row that has one itself. -/
def validWindow (value : List V → Option X) (n : ℕ) (levels : List V) : Option (List X) :=
  let valid := validValues value levels
  if (value levels).isSome && decide (n ≤ valid.length) then some (valid.take n).reverse else none

/-- The level of a row, if it is positive. -/
def positiveLevel : List V → Option V
  | [] => none
  | level :: _ => if Sql.gt (some level) (Sql.lit 0) then some level else none

/-- **The return of a row**: the logarithm of its level over the one before it, if both
and their quotient are positive. -/
def logReturn : List V → Option V
  | level :: previous :: _ =>
    if Sql.gt (some level) (Sql.lit 0) && Sql.gt (some previous) (Sql.lit 0)
        && Sql.gt (some (SqlDouble.div level previous)) (Sql.lit 0) then
      some (SqlDouble.ln (SqlDouble.div level previous))
    else none
  | _ => none

/-- **The volatility of a row**: the deviation of the returns of eight rows, if all of
them have one. -/
def volatility8 (levels : List V) : Option V :=
  let returns := ((alongHistory (fun level rest => logReturn (level :: rest)) levels).take 8).filterMap id
  if returns.length = 8 then SqlDouble.stddevSamp returns.reverse else none

/-- **The return of a row with the one `lag` rows earlier**, if both exist. -/
def returnPair (lag : ℕ) (levels : List V) : Option (V × V) :=
  Option.map₂ Prod.mk (logReturn levels) (logReturn (levels.drop lag))

/-- The z-score of the newest value in its window. -/
def validZscore (value : List V → Option V) (n : ℕ) (levels : List V) : Option V := do
  let current ← value levels
  let window ← validWindow value n levels
  let mean ← SqlDouble.avg window
  let deviation ← SqlDouble.stddevSamp window
  if Sql.ne (some deviation) (Sql.lit 0) then
    return SqlDouble.div (SqlDouble.sub current mean) deviation
  else none

/-- The correlation of the pairs in a window. -/
def validAutocorr (lag n : ℕ) (levels : List V) : Option V := do
  let window ← validWindow (returnPair lag) n levels
  let deviation₁ ← SqlDouble.stddevSamp (window.map Prod.fst)
  let deviation₂ ← SqlDouble.stddevSamp (window.map Prod.snd)
  if Sql.ne (some deviation₁) (Sql.lit 0) && Sql.ne (some deviation₂) (Sql.lit 0) then
    SqlDouble.corr window
  else none

/-- The deviation of the last `n` of some values is zero. -/
def NoDispersion (n : ℕ) (values : List V) : Prop :=
  Sql.eq (SqlDouble.stddevSamp (values.take n).reverse) (Sql.lit 0) = true

/-- **Where the aggregates are defined**: a mean of anything, a sample deviation of two
values or more, a correlation of samples that both have a dispersion. -/
structure AggregatesDefined (V : Type) [SqlDouble V] : Prop where
  avg : ∀ l : List V, l ≠ [] → (SqlDouble.avg l).isSome = true
  stddevSamp : ∀ l : List V, 2 ≤ l.length → (SqlDouble.stddevSamp l).isSome = true
  corr : ∀ l : List (V × V),
    Sql.ne (SqlDouble.stddevSamp (l.map Prod.fst)) (Sql.lit 0) = true →
    Sql.ne (SqlDouble.stddevSamp (l.map Prod.snd)) (Sql.lit 0) = true →
    (SqlDouble.corr l).isSome = true

end Reference

/-! ## Where there is nothing -/

section Nulls

variable {X : Type} {value : List V → Option X} {n : ℕ} {levels : List V}

omit [SqlDouble V] in
theorem validWindow_eq_none_iff : validWindow value n levels = none
    ↔ value levels = none ∨ (validValues value levels).length < n := by
  rw [validWindow]
  cases value levels <;> simp

omit [SqlDouble V] in
theorem length_validWindow {window : List X} (h : validWindow value n levels = some window) :
    window.length = n ∧ window = ((validValues value levels).take n).reverse := by
  rw [validWindow] at h
  split_ifs at h with hvalid
  simp only [Bool.and_eq_true, decide_eq_true_eq] at hvalid
  obtain rfl := Option.some.inj h
  rw [List.length_reverse, List.length_take, min_eq_left hvalid.2]
  exact ⟨rfl, rfl⟩

/-- Two values in PostgreSQL's order are equal or not. -/
theorem ne_eq_not_eq (a b : V) : Sql.ne (some a) (some b) = !Sql.eq (some a) (some b) := by
  show (SqlDouble.lt a b || SqlDouble.lt b a) = !(!SqlDouble.lt b a && !SqlDouble.lt a b)
  cases SqlDouble.lt a b <;> cases SqlDouble.lt b a <;> rfl

/-- **A z-score is null exactly when** the row has no valid value, there are too few, or
they have no dispersion. -/
theorem validZscore_eq_none_iff (h : AggregatesDefined V) (hn : 2 ≤ n) {value : List V → Option V} :
    validZscore value n levels = none ↔ value levels = none
      ∨ (validValues value levels).length < n ∨ NoDispersion n (validValues value levels) := by
  rw [validZscore, ← or_assoc, ← validWindow_eq_none_iff]
  cases hwindow : validWindow value n levels with
  | none =>
    refine ⟨fun _ => .inl rfl, fun _ => ?_⟩
    cases value levels <;> rfl
  | some window =>
    obtain ⟨hlength, hlast⟩ := length_validWindow hwindow
    obtain ⟨current, hcurrent⟩ : ∃ current, value levels = some current := by
      rw [← Option.ne_none_iff_exists']
      intro hnone
      rw [validWindow_eq_none_iff.mpr (.inl hnone)] at hwindow
      cases hwindow
    obtain ⟨mean, hmean⟩ := Option.isSome_iff_exists.mp
      (h.avg window (by rintro rfl; rw [List.length_nil] at hlength; omega))
    obtain ⟨deviation, hdeviation⟩ := Option.isSome_iff_exists.mp
      (h.stddevSamp window (by omega))
    simp only [NoDispersion, ← hlast, hcurrent, hmean, hdeviation, Option.bind_eq_bind,
      Option.bind_some]
    show (if Sql.ne (some deviation) (Sql.lit 0) then _ else none) = none ↔ _
    rw [Sql.lit, ne_eq_not_eq]
    cases Sql.eq (some deviation) (some (SqlDouble.ofRat 0)) <;> simp

/-- **A correlation is null exactly when** the row has no valid pair, there are too few, or
one side of them has no dispersion. -/
theorem validAutocorr_eq_none_iff (h : AggregatesDefined V) {lag : ℕ} (hn : 2 ≤ n) :
    validAutocorr lag n levels = none ↔ returnPair lag levels = none
      ∨ (validValues (returnPair lag) levels).length < n
      ∨ NoDispersion n ((validValues (returnPair lag) levels).map Prod.fst)
      ∨ NoDispersion n ((validValues (returnPair lag) levels).map Prod.snd) := by
  rw [validAutocorr, ← or_assoc, ← validWindow_eq_none_iff]
  cases hwindow : validWindow (returnPair lag) n levels with
  | none => exact ⟨fun _ => .inl rfl, fun _ => rfl⟩
  | some window =>
    obtain ⟨hlength, hlast⟩ := length_validWindow hwindow
    obtain ⟨deviation₁, hdeviation₁⟩ := Option.isSome_iff_exists.mp
      (h.stddevSamp (window.map Prod.fst) (by rw [List.length_map]; omega))
    obtain ⟨deviation₂, hdeviation₂⟩ := Option.isSome_iff_exists.mp
      (h.stddevSamp (window.map Prod.snd) (by rw [List.length_map]; omega))
    have hcorr := h.corr window
    simp only [NoDispersion, ← List.map_take, ← List.map_reverse, ← hlast, hdeviation₁,
      hdeviation₂, Option.bind_eq_bind, Option.bind_some]
    rw [hdeviation₁, hdeviation₂] at hcorr
    rw [Sql.lit, ne_eq_not_eq, ne_eq_not_eq] at hcorr ⊢
    cases heq₁ : Sql.eq (some deviation₁) (some (SqlDouble.ofRat 0)) with
    | true => simp
    | false =>
      cases heq₂ : Sql.eq (some deviation₂) (some (SqlDouble.ofRat 0)) with
      | true => simp
      | false =>
        rw [heq₁, heq₂] at hcorr
        have hsome := hcorr rfl rfl
        simp [← Option.not_isSome_iff_eq_none, hsome]

end Nulls

/-! ## The query -/

section Query

variable {s : Series} {projection : Relation (WideRow V)} {levels : Relation V} {t : Timestamp}

/-- The row of the changes after some levels. -/
def changeOf (level : V) (rest : List V) : ChangeRow V :=
  changeRowOf true (sourceRowOf level rest) (alongHistory sourceRowOf rest)

theorem seriesChanges_eq_along (hlevels : levelCte s projection = levels) :
    seriesChanges s projection true = levels.along changeOf := by
  rw [seriesChanges, changesCte_eq_along, sourceCte_eq_along, hlevels, along_along]
  rfl

/-- The return of the query. -/
theorem logReturn_changeOf (level : V) (rest : List V) :
    (changeOf level rest).logReturn 1 = logReturn (level :: rest) := by
  cases rest with
  | nil =>
    show Sql.caseWhen (Sql.gt (some level) (Sql.lit 0) && Sql.gt none (Sql.lit 0)) _ = none
    rw [show Sql.gt (none : Option V) (Sql.lit 0) = false from rfl, Bool.and_false]
    rfl
  | cons previous rest =>
    show Sql.caseWhen (Sql.gt (some level) (Sql.lit 0) && Sql.gt (some previous) (Sql.lit 0))
      (Sql.ln true (some (SqlDouble.div level previous))) = _
    rw [logReturn]
    cases Sql.gt (some level) (Sql.lit 0) && Sql.gt (some previous) (Sql.lit 0) with
    | false => rfl
    | true =>
      show (Sql.caseWhen (Sql.gt (some (SqlDouble.div level previous)) (Sql.lit 0)) _).map _ = _
      rw [Bool.true_and]
      cases Sql.gt (some (SqlDouble.div level previous)) (Sql.lit 0) <;> rfl

/-- The levels that are positive. -/
theorem levelValidCte_eq (hlevels : levelCte s projection = levels) :
    levelValidCte (sourceCte s projection)
      = (levels.along (fun level rest => positiveLevel (level :: rest))).filterMap
        (fun _ m => m) := by
  ext t : 1
  rw [levelValidCte, sourceCte_eq_along, hlevels, get?_filterMap, get?_filterMap, get?_along,
    get?_along]
  cases levels.get? t <;> rfl

/-- The pairs of returns. -/
theorem validReturnPairsCte_eq (hlevels : levelCte s projection = levels) (lag : ℕ) :
    validReturnPairsCte lag (seriesChanges s projection true)
      = (levels.along (fun level rest => returnPair lag (level :: rest))).filterMap
        (fun _ m => m) := by
  ext t : 1
  rw [seriesChanges_eq_along hlevels, validReturnPairsCte, get?_filterMap, get?_filterMap,
    get?_window, get?_along, get?_along]
  cases hlevel : levels.get? t with
  | none => rfl
  | some level =>
    have hrow : (levels.along changeOf).get? t = some (changeOf level (levels.earlier t)) := by
      rw [get?_along, hlevel]
      rfl
    rw [lag_rank hrow, history_along, history_of_get? hlevel,
      bind_getElem?_alongHistory logReturn_changeOf rfl]
    show Option.map₂ Prod.mk ((changeOf level (levels.earlier t)).logReturn 1) _ = _
    rw [logReturn_changeOf]
    rfl

/-- The returns in the rows of the base. -/
theorem rsiValuesCte_toChangeRow (changes : Relation (ChangeRow V)) :
    (rsiValuesCte changes).map RsiRow.toChangeRow = changes := by
  ext t : 1
  rw [get?_map, rsiValuesCte, get?_map, get?_leftJoinFamily]
  cases changes.get? t <;> rfl

/-- The volatilities. -/
theorem volatilityValidCte_eq (hlevels : levelCte s projection = levels) :
    volatilityValidCte (seriesBase s projection true)
      = (levels.along (fun level rest => volatility8 (level :: rest))).filterMap
        (fun _ m => m) := by
  ext t : 1
  set rsiValues := rsiValuesCte (seriesChanges s projection true) with hvalues
  have hchanges : rsiValues.map RsiRow.toChangeRow = levels.along changeOf :=
    (rsiValuesCte_toChangeRow _).trans (seriesChanges_eq_along hlevels)
  rw [volatilityValidCte, seriesBase, featureBaseCte, ← hvalues, get?_filterMap, get?_window,
    get?_filterMap, get?_along]
  cases hrow : rsiValues.get? t with
  | none =>
    have hnone : levels.get? t = none := by
      have hget := congrArg (fun relation => relation.get? t) hchanges
      rw [get?_map, hrow, get?_along] at hget
      exact Option.map_eq_none_iff.mp hget.symm
    rw [hnone]
    rfl
  | some row =>
    obtain ⟨level, hlevel⟩ : ∃ level, levels.get? t = some level := by
      have hget := congrArg (fun relation => relation.get? t) hchanges
      rw [get?_map, hrow, get?_along, Option.map_some] at hget
      obtain ⟨level, hlevel, -⟩ := Option.map_eq_some_iff.mp hget.symm
      exact ⟨level, hlevel⟩
    -- the returns of the last eight rows of the base are those of the last eight levels
    have hreturns : (trailing 8 rsiValues.values (rsiValues.rank t)).filterMap
          (fun x : RsiRow V => x.logReturn 1)
        = (((alongHistory (fun level rest => logReturn (level :: rest))
            (levels.history t)).take 8).filterMap id).reverse := by
      have hhistory := congrArg (fun relation => relation.history t) hchanges
      rw [history_map, history_along] at hhistory
      rw [trailing_rank hrow (by norm_num), List.filterMap_reverse]
      refine congrArg List.reverse ?_
      have hcolumn : ∀ l : List V, (alongHistory changeOf l).map (fun r => r.logReturn 1)
          = alongHistory (fun level rest => logReturn (level :: rest)) l := by
        intro l
        induction l with
        | nil => rfl
        | cons level rest ih => rw [alongHistory, List.map_cons, ih, logReturn_changeOf, alongHistory]
      rw [← hcolumn, ← hhistory, ← List.map_take, List.filterMap_map, ← List.map_take,
        List.filterMap_map]
      rfl
    rw [Option.map_some, Option.bind_some, hlevel, Option.map_some, Option.bind_some,
      ← history_of_get? hlevel, volatility8]
    show Sql.caseWhen (Sql.count (fun x : RsiRow V => x.logReturn 1) _ == 8)
      (Sql.stddevSamp (fun x : RsiRow V => x.logReturn 1) _) = _
    rw [Sql.count, Sql.stddevSamp, Sql.nonNull, hreturns, List.length_reverse]
    simp only [Sql.caseWhen, beq_iff_eq]

omit [SqlDouble V] in
/-- The valid values up to a row. -/
theorem history_valid {X : Type} (value : List V → Option X) (t : Timestamp) :
    ((levels.along (fun level rest => value (level :: rest))).filterMap (fun _ m => m)).history t
      = validValues value (levels.history t) := by
  rw [history_filterMap, history_along]
  rfl

omit [SqlDouble V] in
/-- A row has a valid value if its history has. -/
theorem get?_valid {X : Type} (value : List V → Option X) {level : V}
    (hlevel : levels.get? t = some level) :
    ((levels.along (fun level rest => value (level :: rest))).filterMap (fun _ m => m)).get? t
      = value (levels.history t) := by
  rw [get?_filterMap, get?_along, hlevel, history_of_get? hlevel]
  rfl

/-- **A z-score of the query**, at a row with a valid value. -/
theorem get?_zscoreCte {value : List V → Option V} {n : ℕ} (hn : 0 < n) {level : V}
    (hlevel : levels.get? t = some level) :
    ((zscoreCte n ((levels.along (fun level rest => value (level :: rest))).filterMap
        (fun _ m => m))).get? t).join
      = validZscore value n (levels.history t) := by
  have hvalid := get?_valid value hlevel
  rw [zscoreCte, get?_window]
  cases hcurrent : value (levels.history t) with
  | none =>
    rw [hvalid, hcurrent, validZscore, hcurrent]
    rfl
  | some current =>
    rw [hcurrent] at hvalid
    rw [hvalid, Option.map_some, Option.join_some]
    dsimp only
    rw [trailing_rank hvalid hn, history_valid, List.length_reverse, length_take_beq, validZscore,
      validWindow, hcurrent, Sql.stddevSamp, Sql.avg, Sql.nonNull, List.filterMap_some]
    generalize ((validValues value (levels.history t)).take n).reverse = window
    cases decide (n ≤ (validValues value (levels.history t)).length) with
    | false => rfl
    | true =>
      show Sql.caseWhen (Sql.ne (SqlDouble.stddevSamp window) (Sql.lit 0)) _
        = (SqlDouble.avg window).bind (fun mean => (SqlDouble.stddevSamp window).bind
          (fun deviation => if Sql.ne (some deviation) (Sql.lit 0) then
            some (SqlDouble.div (SqlDouble.sub current mean) deviation) else none))
      cases SqlDouble.stddevSamp window with
      | none => cases SqlDouble.avg window <;> rfl
      | some deviation =>
        cases SqlDouble.avg window with
        | none => exact ite_self none
        | some mean => rfl

/-- **A correlation of the query**, at a row with a valid pair. -/
theorem get?_returnAutocorrCte {lag n : ℕ} (hn : 0 < n) {level : V}
    (hlevel : levels.get? t = some level) :
    ((returnAutocorrCte n ((levels.along (fun level rest =>
        returnPair lag (level :: rest))).filterMap (fun _ m => m))).get? t).join
      = validAutocorr lag n (levels.history t) := by
  have hvalid := get?_valid (returnPair lag) hlevel
  rw [returnAutocorrCte, get?_window]
  cases hcurrent : returnPair lag (levels.history t) with
  | none =>
    rw [hvalid, hcurrent, validAutocorr, validWindow, hcurrent]
    rfl
  | some pair =>
    rw [hcurrent] at hvalid
    rw [hvalid, Option.map_some, Option.join_some]
    dsimp only
    rw [trailing_rank hvalid hn, history_valid, List.length_reverse, length_take_beq, validAutocorr,
      validWindow, hcurrent, Sql.stddevSamp, Sql.stddevSamp, Sql.corr, Sql.nonNull, Sql.nonNull,
      Sql.nonNull]
    generalize ((validValues (returnPair lag) (levels.history t)).take n).reverse = window
    have hpairs : window.filterMap (fun p : V × V => Option.map₂ Prod.mk (some p.1) (some p.2))
        = window := List.filterMap_some
    rw [hpairs, show (fun p : V × V => some p.1) = some ∘ Prod.fst from rfl,
      show (fun p : V × V => some p.2) = some ∘ Prod.snd from rfl, List.filterMap_eq_map,
      List.filterMap_eq_map]
    cases decide (n ≤ (validValues (returnPair lag) (levels.history t)).length) with
    | false => rfl
    | true =>
      show Sql.caseWhen (Sql.ne (SqlDouble.stddevSamp (window.map Prod.fst)) (Sql.lit 0)
          && Sql.ne (SqlDouble.stddevSamp (window.map Prod.snd)) (Sql.lit 0)) _
        = (SqlDouble.stddevSamp (window.map Prod.fst)).bind (fun deviation₁ =>
          (SqlDouble.stddevSamp (window.map Prod.snd)).bind (fun deviation₂ =>
            if Sql.ne (some deviation₁) (Sql.lit 0) && Sql.ne (some deviation₂) (Sql.lit 0) then
              SqlDouble.corr window else none))
      cases SqlDouble.stddevSamp (window.map Prod.fst) with
      | none => rfl
      | some deviation₁ =>
        cases SqlDouble.stddevSamp (window.map Prod.snd) with
        | none => exact congrArg (Sql.caseWhen · _) (Bool.and_false _)
        | some deviation₂ => rfl

end Query

/-! ## What is published -/

section Published

variable {s : Series} {tables : List Series} {t : Timestamp}

/-- A column that a helper computes at the rows that have a level. -/
theorem featureCell_of_levels {D : RawTables V} (hs : s ∈ tables) {suffix : FeatureSuffix}
    (hbase : ∀ (rows : List (RsiRow V)) i r, baseColumn rows i r suffix = none)
    {column : Relation (Option V)} (hcolumn : helperColumn s (rawFeatureProjection tables D) (D s)
      true true suffix = column.map numberCell) {value : Option V}
    (hvalue : ∀ level, ((D s).filterMap (fun _ r => r.level)).get? t = some level →
      (column.get? t).join = value) :
    featureCell s (rawFeatureProjection tables D) (D s) true true t suffix
      = (((D s).filterMap (fun _ r => r.level)).get? t).bind (fun _ => numberCell value) := by
  rw [featureCell_helper _ _ _ _ _ hbase, levelCte_rawFeatureProjection hs, hcolumn, get?_map]
  cases hlevel : ((D s).filterMap (fun _ r => r.level)).get? t with
  | none => rfl
  | some level =>
    rw [← hvalue level hlevel]
    cases column.get? t <;> rfl

omit [SqlDouble V] in
/-- A cell at the rows that have a level is null where there is no level or no value. -/
theorem bind_numberCell_eq_none_iff {level value : Option V} :
    level.bind (fun _ => numberCell value) = none ↔ level = none ∨ value = none := by
  cases level <;> cases value <;> simp [numberCell]

/-- **The windows count what they say**: what is published is computed from the last valid
values, and it is null exactly where the row has no valid value, there are too few of
them, or they have no dispersion. -/
theorem valid_windows (h : AggregatesDefined V) (hs : s ∈ tables) (D : RawTables V)
    (t : Timestamp) :
    let levels := (D s).filterMap (fun _ r => r.level)
    let published := featureCell s (rawFeatureProjection tables D) (D s) true true t
    (∀ p ∈ [(SingleFeature.levelZscore96, positiveLevel), (.volatilityZscore96, volatility8)],
      published (.single p.1)
          = (levels.get? t).bind (fun _ => numberCell (validZscore p.2 96 (levels.history t)))
        ∧ (published (.single p.1) = none ↔ levels.get? t = none
          ∨ p.2 (levels.history t) = none
          ∨ (validValues p.2 (levels.history t)).length < 96
          ∨ NoDispersion 96 (validValues p.2 (levels.history t))))
    ∧ ∀ p ∈ returnAutocorrelationLagWindows,
      let pairs := validValues (returnPair p.1) (levels.history t)
      published (.returnAutocorr p.1 p.2)
          = (levels.get? t).bind (fun _ => numberCell (validAutocorr p.1 p.2 (levels.history t)))
        ∧ (published (.returnAutocorr p.1 p.2) = none ↔ levels.get? t = none
          ∨ returnPair p.1 (levels.history t) = none
          ∨ pairs.length < p.2
          ∨ NoDispersion p.2 (pairs.map Prod.fst) ∨ NoDispersion p.2 (pairs.map Prod.snd)) := by
  intro levels published
  have hlevels : levelCte s (rawFeatureProjection tables D) = levels :=
    levelCte_rawFeatureProjection hs
  constructor
  · intro p hp
    have hcell : published (.single p.1)
        = (levels.get? t).bind (fun _ => numberCell (validZscore p.2 96 (levels.history t))) := by
      simp only [List.mem_cons, List.not_mem_nil, or_false] at hp
      rcases hp with rfl | rfl
      · refine featureCell_of_levels hs (fun _ _ _ => rfl) rfl (fun level hlevel => ?_)
        rw [levelValidCte_eq hlevels]
        exact get?_zscoreCte (by decide) hlevel
      · refine featureCell_of_levels hs (fun _ _ _ => rfl) rfl (fun level hlevel => ?_)
        rw [volatilityValidCte_eq hlevels]
        exact get?_zscoreCte (by decide) hlevel
    refine ⟨hcell, ?_⟩
    rw [hcell, bind_numberCell_eq_none_iff, validZscore_eq_none_iff h (by norm_num)]
  · intro p hp pairs
    have hwindow : 2 ≤ p.2 := by
      have hall : ∀ p ∈ returnAutocorrelationLagWindows, 2 ≤ p.2 := by decide
      exact hall p hp
    have hcell : published (.returnAutocorr p.1 p.2)
        = (levels.get? t).bind (fun _ => numberCell (validAutocorr p.1 p.2 (levels.history t))) := by
      refine featureCell_of_levels hs (fun _ _ _ => rfl) rfl (fun level hlevel => ?_)
      rw [validReturnPairsCte_eq hlevels]
      exact get?_returnAutocorrCte (by omega) hlevel
    refine ⟨hcell, ?_⟩
    rw [hcell, bind_numberCell_eq_none_iff, validAutocorr_eq_none_iff h hwindow]

end Published

/-! ## A full window -/

/-- A deviation that is not zero is one of values that deviate. -/
theorem codeviation_ne_zero {l : List ExactDouble}
    (h : Sql.ne (SqlDouble.stddevSamp l) (Sql.lit 0) = true) :
    ExactDouble.codeviation (l.map (fun x => (x, x))) ≠ .rat 0 := by
  intro hzero
  have hdeviation : SqlDouble.stddevSamp l
      = if l.length < 2 then none else some (ExactDouble.deviation (l.length - 1) l) := rfl
  rw [hdeviation] at h
  split_ifs at h with hshort
  · cases h
  · rw [ExactDouble.deviation, hzero] at h
    have hroot : ExactDouble.sqrt (.rat 0) = .rat 0 := by decide +kernel
    have hquotient : ExactDouble.lift₂ (· / ·) (.rat 0) (.rat ((l.length : ℚ) - 1)) = .rat 0 :=
      congrArg ExactDouble.rat (zero_div _)
    rw [hquotient, hroot] at h
    revert h
    decide +kernel

/-- A product is zero only if a factor is. -/
theorem mul_ne_zero_exact {a b : ExactDouble} (ha : a ≠ .rat 0) (hb : b ≠ .rat 0) :
    ExactDouble.lift₂ (· * ·) a b ≠ .rat 0 := by
  cases a with
  | rat p =>
    cases b with
    | rat q =>
      intro hzero
      have hproduct : p * q = 0 := ExactDouble.rat.inj hzero
      rcases mul_eq_zero.mp hproduct with rfl | rfl
      · exact ha rfl
      · exact hb rfl
    | negInfinity => exact nofun
    | infinity => exact nofun
    | nan => exact nofun
  | negInfinity => exact nofun
  | infinity => exact nofun
  | nan => exact nofun

/-- The aggregates over exact numbers are defined where they should be. -/
theorem aggregatesDefined_exact : AggregatesDefined ExactDouble where
  avg l hl := by
    show (if l.isEmpty then none else some (ExactDouble.mean l)).isSome = true
    rw [List.isEmpty_eq_false_iff.mpr hl]
    rfl
  stddevSamp l hl := by
    show (if l.length < 2 then none else some (ExactDouble.deviation (l.length - 1) l)).isSome = true
    rw [if_neg (not_lt.mpr hl)]
    rfl
  corr l hfst hsnd := by
    have hdeviations := mul_ne_zero_exact (codeviation_ne_zero hfst) (codeviation_ne_zero hsnd)
    rw [List.map_map, List.map_map] at hdeviations
    have hempty : l.isEmpty = false := by
      cases l with
      | nil => cases hfst
      | cons p rest => rfl
    have hcorr : SqlDouble.corr l = if l.isEmpty
        || ExactDouble.lift₂ (· * ·) (ExactDouble.codeviation (l.map (fun p => (p.1, p.1))))
          (ExactDouble.codeviation (l.map (fun p => (p.2, p.2)))) == .rat 0 then none
        else some (ExactDouble.lift₂ (· / ·) (ExactDouble.codeviation l)
          (ExactDouble.sqrt (ExactDouble.lift₂ (· * ·)
            (ExactDouble.codeviation (l.map (fun p => (p.1, p.1))))
            (ExactDouble.codeviation (l.map (fun p => (p.2, p.2))))))) := rfl
    rw [hcorr, hempty, Bool.false_or, if_neg (by rw [beq_iff_eq]; exact hdeviations)]
    rfl

/-- Levels around ten whose deviation is two, one of the days without a positive level. -/
def deviatingLevels : Relation (Option ℚ) :=
  KeyedTable.ofRows (((List.range 97).map (fun day : ℕ => ((day : ℤ),
    if day = 50 then some (-1)
    else if day = 0 then some 13
    else if day = 1 then some 7
    else if day = 2 then some 11
    else if day = 3 then some 9
    else if day = 4 ∨ day = 5 then some 10
    else if day % 2 = 0 then some 12
    else some 8))))

/-- After ninety-six valid levels there is a z-score. -/
theorem valid_windows_deviating :
    featureCell .vix (rawFeatureProjection [.vix] (levelTables .vix deviatingLevels))
        (levelTables .vix deviatingLevels .vix) true true 96 (.single .levelZscore96)
      = numberCell (exactCell (some 1)) := by
  have hpublished := ((valid_windows aggregatesDefined_exact (List.mem_singleton_self Series.vix)
    (levelTables .vix deviatingLevels) 96).1 (.levelZscore96, positiveLevel)
      List.mem_cons_self).1
  have hlevels : (levelTables .vix deviatingLevels .vix).filterMap (fun _ r => r.level)
      = deviatingLevels.filterMap (fun _ level => exactCell level) := by
    ext t : 1
    have hmap := congrArg (fun relation => relation.get? t) (levelTables_level .vix deviatingLevels)
    rw [get?_map, get?_map] at hmap
    rw [get?_filterMap, get?_filterMap]
    cases hrow : (levelTables .vix deviatingLevels .vix).get? t with
    | none =>
      rw [hrow] at hmap
      rw [Option.map_eq_none_iff.mp hmap.symm]
      rfl
    | some row =>
      rw [hrow] at hmap
      obtain ⟨level, hlevel, hcell⟩ := Option.map_eq_some_iff.mp hmap.symm
      rw [hlevel, Option.bind_some, Option.bind_some, hcell]
  have hzscore : validZscore positiveLevel 96
      ((deviatingLevels.filterMap (fun _ level => exactCell level)).history 96)
      = some (.rat 1) := by decide +kernel
  have hrow : ((deviatingLevels.filterMap (fun _ level => exactCell level)).get? 96).isSome = true := by
    decide +kernel
  obtain ⟨level, hlevel⟩ := Option.isSome_iff_exists.mp hrow
  rw [hlevels, hlevel, Option.bind_some, hzscore] at hpublished
  exact hpublished
