import MacroLoader.FeatureLags

/-!
# The recurrences with and without the null rows

The query can read the recurrences of a series from its raw table, where a row whose
level is null resets them, or from the rows that have a level, where it is as if such
a row were not there. The state of a recurrence is a function of the run of valid
levels up to a row (`stateAfter_eq_runState`), so the two agree at a row exactly as far
as they see the same run. They do, for every feature, if no row has five positive
levels since the last non-positive one but fewer than five since the last null one
(`ResetByNull`): no average exists over fewer than five levels, so only longer runs
matter, and a run of five is not interrupted.
-/

open KeyedTable

variable {V : Type} [SqlDouble V]

/-! ## Runs of valid levels -/

/-- The levels since the last invalid one, newest first. -/
def validRun (allowNonpositive : Bool) (levels : List (Option V)) : List V :=
  (levels.takeWhile (emaValid allowNonpositive)).filterMap id

omit [SqlDouble V] in
/-- The levels without the null ones. -/
def skipNulls (levels : List (Option V)) : List (Option V) := (levels.filterMap id).map some

/-- **A null row resets the average of five levels**: there are five since the last
non-positive one, but not since the last null one. -/
def ResetByNull (levels : List (Option V)) : Prop :=
  5 ≤ (validRun false (skipNulls levels)).length ∧ (validRun false levels).length < 5

/-- No null row does so at any of these rows. -/
def NeverReset : List (Option V) → Prop
  | [] => True
  | level :: rest => (level.isSome = true → ¬ ResetByNull (level :: rest)) ∧ NeverReset rest

theorem neverReset_of_forall {levels : List (Option V)}
    (h : ∀ p ∈ alongHistory (fun level rest =>
      level.isSome = true → ¬ ResetByNull (level :: rest)) levels, p) : NeverReset levels := by
  induction levels with
  | nil => trivial
  | cons level rest ih =>
    rw [alongHistory, List.forall_mem_cons] at h
    exact ⟨h.1, ih h.2⟩

section Runs

variable {allow : Bool} {x : V} {level : Option V} {rest : List (Option V)}

theorem emaValid_some (h : emaValid allow level = true) : ∃ x, level = some x := by
  cases level with
  | none => cases allow <;> cases h
  | some x => exact ⟨x, rfl⟩

/-- A level that does not feed a recurrence resets it. -/
theorem emaInvalid_eq (allow : Bool) (level : Option V) :
    emaInvalid allow level = !emaValid allow level := by
  cases allow <;> cases level <;> rfl

theorem validRun_cons (h : emaValid allow (some x) = true) (rest : List (Option V)) :
    validRun allow (some x :: rest) = x :: validRun allow rest := by
  rw [validRun, List.takeWhile_cons, if_pos h, List.filterMap_cons_some (by rfl)]
  rfl

theorem validRun_cons_invalid (h : emaValid allow level = false) (rest : List (Option V)) :
    validRun allow (level :: rest) = [] := by
  rw [validRun, List.takeWhile_cons, if_neg (by rw [h]; exact Bool.false_ne_true)]
  rfl

theorem valid_of_mem_validRun {levels : List (Option V)} (h : x ∈ validRun allow levels) :
    emaValid allow (some x) = true := by
  obtain ⟨level, hlevel, hx⟩ := List.mem_filterMap.mp h
  obtain rfl : level = some x := hx
  exact List.mem_takeWhile_imp hlevel

omit [SqlDouble V] in
theorem skipNulls_cons_some (x : V) (rest : List (Option V)) :
    skipNulls (some x :: rest) = some x :: skipNulls rest := by
  rw [skipNulls, List.filterMap_cons_some (by rfl)]
  rfl

omit [SqlDouble V] in
/-- Without a null row there is none to skip. -/
theorem skipNulls_eq_self {levels : List (Option V)} (h : ∀ level ∈ levels, level.isSome = true) :
    skipNulls levels = levels := by
  induction levels with
  | nil => rfl
  | cons level rest ih =>
    obtain ⟨x, rfl⟩ := Option.isSome_iff_exists.mp (h level List.mem_cons_self)
    rw [skipNulls_cons_some, ih (fun level hlevel => h level (List.mem_cons_of_mem _ hlevel))]

/-- A run that ends at null rows is the newest part of one that does not. -/
theorem prefix_validRun (levels : List (Option V)) :
    validRun false levels <+: validRun false (skipNulls levels) := by
  induction levels with
  | nil => exact List.prefix_rfl
  | cons level rest ih =>
    cases level with
    | none =>
      rw [validRun_cons_invalid (show emaValid false (none : Option V) = false from rfl)]
      exact List.nil_prefix
    | some x =>
      rw [skipNulls_cons_some]
      cases hx : emaValid false (some x) with
      | false => rw [validRun_cons_invalid hx, validRun_cons_invalid hx]
      | true =>
        rw [validRun_cons hx, validRun_cons hx]
        exact (List.prefix_cons_inj x).mpr ih

/-- **A run of five is the same with and without the null rows.** -/
theorem validRun_skipNulls {x : V} {rest : List (Option V)} (h : NeverReset (some x :: rest))
    (hlong : 5 ≤ (validRun false (skipNulls (some x :: rest))).length) :
    validRun false (some x :: rest) = validRun false (skipNulls (some x :: rest)) := by
  have hfive : 5 ≤ (validRun false (some x :: rest)).length :=
    not_lt.mp (fun hshort => h.1 rfl ⟨hlong, hshort⟩)
  refine (prefix_validRun _).eq_of_length (le_antisymm (prefix_validRun _).length_le ?_)
  induction rest generalizing x with
  | nil => exact le_refl _
  | cons level rest ih =>
    rw [skipNulls_cons_some] at hlong ⊢
    cases hx : emaValid false (some x) with
    | false => rw [validRun_cons_invalid hx, validRun_cons_invalid hx]
    | true =>
      rw [validRun_cons hx, List.length_cons] at hfive hlong ⊢
      rw [validRun_cons hx, List.length_cons]
      cases level with
      | none =>
        -- right after a null row there is no run of five
        rw [validRun_cons_invalid (show emaValid false (none : Option V) = false from rfl)] at hfive
        exact absurd hfive (by norm_num)
      | some y =>
        rw [Nat.succ_le_succ_iff]
        by_cases hrest : 5 ≤ (validRun false (skipNulls (some y :: rest))).length
        · exact ih h.2 hrest (not_lt.mp (fun hshort => h.2.1 rfl ⟨hrest, hshort⟩))
        · omega

end Runs

/-! ## The state of a recurrence is a function of the run -/

section States

/-- The state after a run of valid levels, newest first. -/
def runState (period : ℕ) (allowNonpositive : Bool) : List V → EmaState V
  | [] => ⟨0, Sql.lit 0, none⟩
  | x :: rest => emaStep period allowNonpositive (runState period allowNonpositive rest) (some x)

variable {allow : Bool} {period : ℕ}

theorem emaStep_invalid {level : Option V} (h : emaValid allow level = false) (st : EmaState V) :
    emaStep period allow st level = runState period allow [] := by
  rw [emaStep, emaInvalid_eq, h]
  rfl

/-- **The state of a recurrence is that of the run**, if it is at the first row. -/
theorem stateAfter_eq_runState {rest : List (Option V)} {level : Option V}
    (hinit : ∀ first, (level :: rest).getLast? = some first →
      emaInit allow first = runState period allow (validRun allow [first])) :
    stateAfter (emaInit allow) (emaStep period allow) level rest
      = runState period allow (validRun allow (level :: rest)) := by
  induction rest generalizing level with
  | nil => exact hinit level rfl
  | cons previous rest ih =>
    rw [stateAfter, ih (fun first hfirst => hinit first hfirst)]
    cases hlevel : emaValid allow level with
    | false => rw [emaStep_invalid hlevel, validRun_cons_invalid hlevel]
    | true =>
      obtain ⟨x, rfl⟩ := emaValid_some hlevel
      rw [validRun_cons hlevel]
      rfl

/-- A run that is shorter than the period has no average. -/
theorem runState_of_short {run : List V} (hvalid : ∀ x ∈ run, emaValid allow (some x) = true)
    (hshort : run.length < period) :
    (runState period allow run).ema = none
      ∧ (runState period allow run).seedCount = run.length := by
  induction run with
  | nil => exact ⟨rfl, rfl⟩
  | cons x rest ih =>
    rw [List.length_cons] at hshort
    obtain ⟨hema, hcount⟩ := ih (fun y hy => hvalid y (List.mem_cons_of_mem _ hy)) (by omega)
    have hx := hvalid x List.mem_cons_self
    rw [runState, emaStep, emaInvalid_eq, hx, hema, hcount]
    constructor
    · simp [show ¬ period ≤ rest.length + 1 by omega]
    · rfl

/-- Adding to zero, as the seed of a run that is not at the first row does. -/
def ZeroAdd (V : Type) [SqlDouble V] : Prop :=
  ∀ x : V, emaValid false (some x) = true → SqlDouble.add (SqlDouble.ofRat 0) x = x

/-- The first row of a table. -/
theorem emaInit_eq_runState (hzero : ZeroAdd V) (hperiod : 2 ≤ period) (first : Option V) :
    emaInit false first = runState period false (validRun false [first]) := by
  cases hfirst : emaValid false first with
  | false =>
    rw [validRun_cons_invalid hfirst, emaInit, hfirst]
    rfl
  | true =>
    obtain ⟨x, rfl⟩ := emaValid_some hfirst
    rw [validRun_cons hfirst, emaInit, hfirst]
    show _ = emaStep period false ⟨0, Sql.lit 0, none⟩ (some x)
    rw [emaStep, emaInvalid_eq, hfirst]
    simp [Sql.lit, Sql.add, hzero x hfirst, show ¬ period ≤ 1 by omega]

/-- **The average after some levels is that of their run.** -/
theorem emaAfter_eq_runState (hzero : ZeroAdd V) (hperiod : 2 ≤ period) (level : Option V)
    (rest : List (Option V)) :
    emaAfter period level rest = (runState period false (validRun false (level :: rest))).ema := by
  rw [emaAfter, stateAfter_eq_runState (fun first _ => emaInit_eq_runState hzero hperiod first)]

/-- **An average over five levels or more** is the same with and without the null rows. -/
theorem emaAfter_skipNulls (hzero : ZeroAdd V) (hperiod : 5 ≤ period) {x : V}
    {rest : List (Option V)} (h : NeverReset (some x :: rest)) :
    emaAfter period (some x) (skipNulls rest) = emaAfter period (some x) rest := by
  rw [emaAfter_eq_runState hzero (by omega), emaAfter_eq_runState hzero (by omega),
    ← skipNulls_cons_some]
  by_cases hlong : 5 ≤ (validRun false (skipNulls (some x :: rest))).length
  · rw [validRun_skipNulls h hlong]
  · have hle := (prefix_validRun (some x :: rest)).length_le
    rw [(runState_of_short (fun _ => valid_of_mem_validRun) (by omega)).1,
      (runState_of_short (fun _ => valid_of_mem_validRun) (by omega)).1]

end States

/-! ## The line, its signal and the histogram -/

section Macd

/-- The line after some levels. -/
def lineAfter (level : Option V) (rest : List (Option V)) : Option V :=
  Sql.caseWhen ((emaAfter 12 level rest).isSome && (emaAfter 26 level rest).isSome)
    (Sql.sub (emaAfter 12 level rest) (emaAfter 26 level rest))

/-- The signal after some levels. -/
def signalAfter (level : Option V) (rest : List (Option V)) : Option V :=
  (stateAfter (emaInit true) (emaStep macdSignalEmaPeriod true) (lineAfter level rest)
    (alongHistory lineAfter rest)).ema

/-- The line and the histogram over the level, after some levels. -/
def relativeAfter (level : Option V) (rest : List (Option V)) : Option V × Option V :=
  let positive := Sql.gt level (Sql.lit 0)
  (Sql.caseWhen (positive && (lineAfter level rest).isSome)
     (Sql.div (lineAfter level rest) level),
   Sql.caseWhen (positive && (lineAfter level rest).isSome && (signalAfter level rest).isSome)
     (Sql.div (Sql.sub (lineAfter level rest) (signalAfter level rest)) level))

/-- The three outputs after some levels. -/
def macdAfter (level : Option V) (rest : List (Option V)) (feature : SingleFeature) : Option V :=
  let histLag3 := (alongHistory relativeAfter (level :: rest))[3]?.bind Prod.snd
  match feature with
  | .macdLineRelative => (relativeAfter level rest).1
  | .macdHistRelative => (relativeAfter level rest).2
  | .macdHistDelta3 =>
    Sql.caseWhen ((relativeAfter level rest).2.isSome && histLag3.isSome)
      (Sql.sub (relativeAfter level rest).2 histLag3)
  | _ => none

theorem macdInputCte_eq_lineAfter (levels : Relation (Option V)) :
    macdInputCte levels = levels.along lineAfter := by
  ext t : 1
  rw [macdInputCte, emaStateCte_eq_emaAfter, emaStateCte_eq_emaAfter, get?_map, get?_leftJoin,
    get?_leftJoin, get?_along, get?_along, get?_along]
  cases levels.get? t <;> rfl

theorem macdRelativeCte_eq_relativeAfter (levels : Relation (Option V)) :
    macdRelativeCte (macdBaseCte levels) = levels.along relativeAfter := by
  have hsignal : emaStateCte macdSignalEmaPeriod true (levels.along lineAfter)
      = levels.along signalAfter := by
    rw [emaStateCte, recursive_eq_along, map_eq_along, along_along, along_along]
    rfl
  ext t : 1
  rw [macdRelativeCte, macdBaseCte, macdInputCte_eq_lineAfter, hsignal, get?_map, get?_map,
    get?_leftJoin, get?_innerJoin, get?_along, get?_along, get?_along]
  cases levels.get? t <;> rfl

/-- **The outputs of the query** are those after the levels. -/
theorem macdFeaturesCte_eq_macdAfter (levels : Relation (Option V)) :
    macdFeaturesCte (macdRelativeCte (macdBaseCte levels)) = levels.along macdAfter := by
  ext t : 1
  rw [macdRelativeCte_eq_relativeAfter, macdFeaturesCte, get?_window]
  cases hlevel : levels.get? t with
  | none =>
    rw [get?_along, get?_along, hlevel]
    rfl
  | some level =>
    have hrow : (levels.along relativeAfter).get? t
        = some (relativeAfter level (levels.earlier t)) := by
      rw [get?_along, hlevel]
      rfl
    rw [hrow, Option.map_some, get?_along, hlevel, lag_rank hrow, history_along,
      history_of_get? hlevel]
    rfl

variable {x : V} {rest : List (Option V)}

/-- A line needs twenty-six levels. -/
theorem present_of_lineAfter {level : Option V} (h : (lineAfter level rest).isSome = true) :
    Present 26 (level :: rest) := by
  refine (present_of_emaAfter level rest).2 ?_
  rw [lineAfter, Sql.caseWhen] at h
  split_ifs at h with hboth
  · rw [Bool.and_eq_true] at hboth
    exact hboth.2
  · cases h

theorem lineAfter_skipNulls (hzero : ZeroAdd V) (h : NeverReset (some x :: rest)) :
    lineAfter (some x) (skipNulls rest) = lineAfter (some x) rest := by
  rw [lineAfter, emaAfter_skipNulls hzero (by norm_num) h, emaAfter_skipNulls hzero (by norm_num) h,
    lineAfter]

/-- **A run of lines is the same with and without the null rows**: a line needs levels,
so the run has no null row in it. -/
theorem validRun_lines (hzero : ZeroAdd V) (h : NeverReset (some x :: rest)) :
    validRun true (alongHistory lineAfter (skipNulls (some x :: rest)))
      = validRun true (alongHistory lineAfter (some x :: rest)) := by
  induction rest generalizing x with
  | nil => rfl
  | cons level rest ih =>
    rw [skipNulls_cons_some, alongHistory, alongHistory, lineAfter_skipNulls hzero h]
    cases hline : lineAfter (some x) (level :: rest) with
    | none => rw [validRun_cons_invalid rfl, validRun_cons_invalid rfl]
    | some line =>
      obtain ⟨y, hy⟩ := present_of_lineAfter (by rw [hline]; rfl) 1 (by norm_num)
      obtain rfl : level = some y := Option.some.inj hy
      rw [validRun_cons rfl, validRun_cons rfl, ih h.2]

/-- The first row of a table has no line. -/
theorem getLast?_lines {levels : List (Option V)} {first : Option V}
    (h : (alongHistory lineAfter levels).getLast? = some first) : first = none := by
  induction levels with
  | nil => cases h
  | cons level rest ih =>
    cases rest with
    | nil =>
      obtain rfl := Option.some.inj h
      cases hline : lineAfter level [] with
      | none => rfl
      | some line =>
        obtain ⟨y, hy⟩ := present_of_lineAfter (by rw [hline]; rfl) 1 (by norm_num)
        cases hy
    | cons previous rest =>
      rw [alongHistory, alongHistory, List.getLast?_cons_cons, ← alongHistory] at h
      exact ih h

theorem signalAfter_eq_runState (level : Option V) (rest : List (Option V)) :
    signalAfter level rest = (runState macdSignalEmaPeriod true
      (validRun true (alongHistory lineAfter (level :: rest)))).ema := by
  rw [signalAfter, stateAfter_eq_runState (fun first hfirst => ?_), alongHistory]
  have hnone : first = none := @getLast?_lines _ _ (level :: rest) first hfirst
  subst hnone
  rfl

theorem relativeAfter_skipNulls (hzero : ZeroAdd V) (h : NeverReset (some x :: rest)) :
    relativeAfter (some x) (skipNulls rest) = relativeAfter (some x) rest := by
  have hsignal : signalAfter (some x) (skipNulls rest) = signalAfter (some x) rest := by
    rw [signalAfter_eq_runState, signalAfter_eq_runState, ← skipNulls_cons_some,
      validRun_lines hzero h]
  rw [relativeAfter, lineAfter_skipNulls hzero h, hsignal, relativeAfter]

/-- **The outputs at a row that has a level** are the same with and without the null
rows. -/
theorem macdAfter_skipNulls (hzero : ZeroAdd V) (h : NeverReset (some x :: rest)) :
    macdAfter (some x) (skipNulls rest) = macdAfter (some x) rest := by
  funext feature
  unfold macdAfter
  rw [relativeAfter_skipNulls hzero h]
  cases hhist : (relativeAfter (some x) rest).2 with
  | none => rfl
  | some hist =>
    -- a histogram needs a line, so the three rows before this one have a level
    have hline : (lineAfter (some x) rest).isSome = true := by
      rw [relativeAfter] at hhist
      by_contra hnone
      rw [Bool.not_eq_true] at hnone
      dsimp only at hhist
      rw [hnone, Bool.and_false, Bool.false_and] at hhist
      cases hhist
    have hpresent := present_of_lineAfter hline
    obtain ⟨a, ha⟩ := hpresent 1 (by norm_num)
    obtain ⟨b, hb⟩ := hpresent 2 (by norm_num)
    obtain ⟨c, hc⟩ := hpresent 3 (by norm_num)
    match rest, h, ha, hb, hc with
    | _ :: _ :: _ :: rest, h, rfl, rfl, rfl =>
      rw [skipNulls_cons_some, skipNulls_cons_some, skipNulls_cons_some]
      simp only [alongHistory, List.getElem?_cons_succ, List.getElem?_cons_zero,
        relativeAfter_skipNulls hzero h.2.2.2]

end Macd

/-! ## The features of a series -/

section Series

variable {s : Series} {P : Relation (WideRow V)} {levels : Relation (Option V)}
  {table : KeyedTable Timestamp (RawRow V s.nativeShape)} {t : Timestamp}

/-- No null row resets the average of five levels. -/
def Uninterrupted (levels : Relation (Option V)) : Prop :=
  ∀ t x, levels.get? t = some (some x) → ¬ ResetByNull (levels.history t)

theorem Uninterrupted.neverReset (h : Uninterrupted levels) (t : Timestamp) :
    NeverReset (levels.history t) := by
  refine neverReset_of_forall (forall_alongHistory (fun j level hlevel hsome => ?_) t)
  obtain ⟨x, rfl⟩ := Option.isSome_iff_exists.mp hsome
  rw [← history_of_get? hlevel]
  exact h j x hlevel

/-- Without null rows nothing is reset. -/
theorem uninterrupted_of_isSome
    (h : ∀ t level, levels.get? t = some level → level.isSome = true) : Uninterrupted levels := by
  intro t x hx hreset
  have hself : skipNulls (levels.history t) = levels.history t := by
    refine skipNulls_eq_self (fun level hlevel => ?_)
    obtain ⟨t', ht'⟩ := exists_of_mem_history hlevel
    exact h t' level ht'
  rw [ResetByNull, hself] at hreset
  exact absurd hreset.1 (not_le.mpr hreset.2)

omit [SqlDouble V] in
/-- The rows the recurrences read without the null rows. -/
theorem seriesEmaSource_false (hlevels : levelCte s P = levels.filterMap (fun _ level => level)) :
    seriesEmaSource s P table false
      = (levels.filterMap (fun _ level => level)).map some := by
  ext t : 1
  rw [seriesEmaSource, emaSourceCte, if_neg Bool.false_ne_true, sourceCte_eq_along, hlevels,
    get?_map, get?_map, get?_along]
  cases (levels.filterMap (fun _ level => level)).get? t <;> rfl

omit [SqlDouble V] in
theorem earlier_nonNull (levels : Relation (Option V)) (t : Timestamp) :
    ((levels.filterMap (fun _ level => level)).map some).earlier t
      = skipNulls (levels.earlier t) := by
  rw [earlier_map, earlier_filterMap]
  rfl

omit [SqlDouble V] in
/-- The levels of those rows are the same. -/
theorem levelCte_nonNull (hlevels : levelCte s P = levels.filterMap (fun _ level => level)) :
    levelCte s P
      = ((levels.filterMap (fun _ level => level)).map some).filterMap (fun _ level => level) := by
  rw [hlevels]
  ext t : 1
  rw [get?_filterMap, get?_filterMap, get?_map, get?_filterMap]
  cases (levels.get? t).bind (fun level => level) <;> rfl

/-- **The averages at the rows that have a level** are the same with and without the null
rows. -/
theorem emaAlignedCte_nonNull (hzero : ZeroAdd V) (h : Uninterrupted levels)
    (hlevels : levelCte s P = levels.filterMap (fun _ level => level)) :
    emaAlignedCte (sourceCte s P) ((levels.filterMap (fun _ level => level)).map some)
      = emaAlignedCte (sourceCte s P) levels := by
  rw [emaAlignedCte_eq (levelCte_nonNull hlevels), emaAlignedCte_eq hlevels]
  ext t : 1
  rw [get?_filterMap, get?_filterMap, get?_along, get?_along, earlier_nonNull, get?_map,
    get?_filterMap]
  cases hlevel : levels.get? t with
  | none => rfl
  | some level =>
    cases level with
    | none => rfl
    | some x =>
      have hnever := h.neverReset t
      rw [history_of_get? hlevel] at hnever
      show alignedRowOf (some x) _ = alignedRowOf (some x) _
      rw [alignedRowOf, emaAfter_skipNulls hzero (by norm_num) hnever,
        emaAfter_skipNulls hzero (by norm_num) hnever, emaAfter_skipNulls hzero (by norm_num) hnever,
        alignedRowOf]

/-- **A helper's column at a row that has a level** is the same with and without the null
rows. -/
theorem helperColumn_nonNull (hzero : ZeroAdd V)
    (h : Uninterrupted (table.map RawRow.level))
    (hlevels : levelCte s P = (table.map RawRow.level).filterMap (fun _ level => level))
    (safeLogInputs : Bool) {x : V} (hx : (table.map RawRow.level).get? t = some (some x))
    (suffix : FeatureSuffix) :
    (helperColumn s P table false safeLogInputs suffix).get? t
      = (helperColumn s P table true safeLogInputs suffix).get? t := by
  have htrue : seriesEmaSource s P table true = table.map RawRow.level := rfl
  have haligned : emaAlignedCte (sourceCte s P) (seriesEmaSource s P table false)
      = emaAlignedCte (sourceCte s P) (seriesEmaSource s P table true) := by
    rw [seriesEmaSource_false hlevels, htrue, emaAlignedCte_nonNull hzero h hlevels]
  have hmacd : (macdFeaturesCte (macdRelativeCte (macdBaseCte
        (seriesEmaSource s P table false)))).get? t
      = (macdFeaturesCte (macdRelativeCte (macdBaseCte
        (seriesEmaSource s P table true)))).get? t := by
    have hnever := h.neverReset t
    rw [history_of_get? hx] at hnever
    rw [seriesEmaSource_false hlevels, htrue, macdFeaturesCte_eq_macdAfter,
      macdFeaturesCte_eq_macdAfter, get?_along, get?_along, earlier_nonNull,
      get?_map _ _ t, get?_filterMap, hx]
    exact congrArg some (macdAfter_skipNulls hzero hnever)
  fun_cases helperColumn s P table false safeLogInputs suffix <;>
    simp [helperColumn, helperColumn.emaFeature, helperColumn.stochastic, haligned, hmacd]

/-- **A cell of the series** is the same with and without the null rows. -/
theorem featureCell_nonNull (hzero : ZeroAdd V) (h : Uninterrupted (table.map RawRow.level))
    (hlevels : levelCte s P = (table.map RawRow.level).filterMap (fun _ level => level))
    (safeLogInputs : Bool) (suffix : FeatureSuffix) :
    featureCell s P table false safeLogInputs t suffix
      = featureCell s P table true safeLogInputs t suffix := by
  rw [featureCell_eq, featureCell_eq]
  cases hbase : (seriesBase s P safeLogInputs).get? t with
  | none => rw [Option.bind_none, Option.bind_none]
  | some base =>
    obtain ⟨x, hx⟩ : ∃ x, (table.map RawRow.level).get? t = some (some x) := by
      have hsome : ((levelCte s P).get? t).isSome = true := by
        rw [← isSome_seriesBase s P safeLogInputs, hbase]
        rfl
      rw [hlevels, get?_filterMap] at hsome
      obtain ⟨x, hx⟩ := Option.isSome_iff_exists.mp hsome
      obtain ⟨level, hlevel, rfl⟩ := Option.bind_eq_some_iff.mp hx
      exact ⟨x, hlevel⟩
    rw [Option.bind_some, Option.bind_some,
      helperColumn_nonNull hzero h hlevels safeLogInputs hx suffix]

end Series
