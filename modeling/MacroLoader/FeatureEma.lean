import MacroLoader.FeatureQuery

/-!
# The moving average and its recurrence

The query computes an exponential moving average with a seed counter, a partial
sum and a separate initial row. What it computes has a shorter description in
terms of the run of valid levels that ends at a row (`runAt`): nothing while the
run is shorter than the period, the mean of the run once it is as long as the
period, and a convex combination of the newest level and the average before it
from then on. An invalid level ends the run, so the description needs no word
about resets.

Arithmetic is exact here: the levels are rational numbers, embedded into the
values of the query.
-/

open KeyedTable

/-- Whether a level feeds the recurrence: any number in signed mode, a positive one
otherwise. -/
def isValidLevel (allowNonpositive : Bool) : Option ℚ → Bool
  | none => false
  | some x => allowNonpositive || decide (0 < x)

/-- **The levels since the last reset**, newest first: the longest run of valid
levels that ends at a row. -/
def runAt (allowNonpositive : Bool) (levels : List (Option ℚ)) (i : ℕ) : List ℚ :=
  ((levels.take (i + 1)).reverse.takeWhile (isValidLevel allowNonpositive)).filterMap id

/-- A nullable number as a value of the query. -/
def exactCell (level : Option ℚ) : Option ExactDouble := level.map ExactDouble.rat

/-- The average of a run that is at least as long as the period, newest level first:
the mean of the first `period` levels, then the recurrence. -/
def emaOfRun (period : ℕ) : List ℚ → ℚ
  | [] => 0
  | x :: rest =>
    if rest.length < period then (x + rest.sum) / period
    else 2 / ((period : ℚ) + 1) * x + (1 - 2 / ((period : ℚ) + 1)) * emaOfRun period rest

section Runs

variable {allowNonpositive : Bool} {levels : List (Option ℚ)} {i : ℕ} {level : Option ℚ} {x : ℚ}

theorem emaValid_exactCell (level : Option ℚ) :
    emaValid allowNonpositive (exactCell level) = isValidLevel allowNonpositive level := by
  cases allowNonpositive <;> cases level <;> rfl

theorem emaInvalid_exactCell (level : Option ℚ) :
    emaInvalid allowNonpositive (exactCell level) = !isValidLevel allowNonpositive level := by
  cases allowNonpositive <;> cases level <;> rfl

/-- **A run grows by one valid level, and an invalid one ends it.** -/
theorem runAt_succ (h : levels[i + 1]? = some level) :
    runAt allowNonpositive levels (i + 1)
      = if isValidLevel allowNonpositive level then
          level.toList ++ runAt allowNonpositive levels i
        else [] := by
  rw [runAt, List.take_add_one, h, Option.toList_some, List.reverse_append, List.reverse_singleton,
    List.singleton_append, List.takeWhile_cons]
  split_ifs
  · cases level <;> rfl
  · rfl

theorem runAt_zero (h : levels[0]? = some level) :
    runAt allowNonpositive levels 0
      = if isValidLevel allowNonpositive level then level.toList else [] := by
  rw [runAt, List.take_add_one, List.take_zero, h, Option.toList_some, List.nil_append,
    List.reverse_singleton, List.takeWhile_cons]
  split_ifs
  · cases level <;> rfl
  · rfl

/-- A valid level is a number. -/
theorem exists_of_isValidLevel (h : isValidLevel allowNonpositive level = true) :
    ∃ x, level = some x := by
  cases level with
  | none => cases h
  | some x => exact ⟨x, rfl⟩

/-- **A run is as long as a period when the last rows are valid**, as many as the
period. -/
theorem le_length_runAt_iff (hi : i < levels.length) (n : ℕ) :
    n ≤ (runAt allowNonpositive levels i).length
      ↔ n ≤ i + 1 ∧ ∀ j < n, ∃ level, levels[i - j]? = some level
        ∧ isValidLevel allowNonpositive level = true := by
  induction i generalizing n with
  | zero =>
    rw [runAt_zero (List.getElem?_eq_getElem hi)]
    rcases n with _ | _ | n
    · simp
    · split_ifs with hvalid
      · obtain ⟨x, hx⟩ := exists_of_isValidLevel hvalid
        rw [hx] at hvalid ⊢
        simpa [List.getElem?_eq_getElem hi, hx] using hvalid
      · simpa [List.getElem?_eq_getElem hi] using hvalid
    · split_ifs with hvalid
      · obtain ⟨x, hx⟩ := exists_of_isValidLevel hvalid
        simp [hx]
      · simp
  | succ i ih =>
    rw [runAt_succ (List.getElem?_eq_getElem hi)]
    rcases n with _ | n
    · simp
    by_cases hvalid : isValidLevel allowNonpositive levels[i + 1] = true
    · obtain ⟨x, hx⟩ := exists_of_isValidLevel hvalid
      rw [if_pos hvalid, hx, Option.toList_some, List.singleton_append, List.length_cons,
        Nat.add_le_add_iff_right, ih (by omega), Nat.add_le_add_iff_right]
      refine and_congr_right (fun _ => ⟨fun hall j hj => ?_, fun hall j hj => ?_⟩)
      · rcases j with _ | j
        · exact ⟨levels[i + 1], List.getElem?_eq_getElem hi, hvalid⟩
        · rw [Nat.add_sub_add_right]
          exact hall j (by omega)
      · rw [← Nat.add_sub_add_right i 1 j]
        exact hall (j + 1) (by omega)
    · rw [if_neg hvalid]
      refine ⟨fun h => absurd h (by simp), fun ⟨_, hall⟩ => ?_⟩
      obtain ⟨level, hlevel, hlevelValid⟩ := hall 0 (by omega)
      rw [Nat.sub_zero, List.getElem?_eq_getElem hi] at hlevel
      cases hlevel
      exact absurd hlevelValid hvalid

end Runs

/-! ## The recurrence follows the run -/

/-- **What the state of the recurrence says of a run**: while it is shorter than the
period, its length and its sum; afterwards, its average. -/
structure Follows (period : ℕ) (run : List ℚ) (st : EmaState ExactDouble) : Prop where
  seeding : run.length < period →
    st.ema = none ∧ st.seedCount = run.length ∧ st.seedSum = some (.rat run.sum)
  running : period ≤ run.length → st.ema = some (.rat (emaOfRun period run))

section Recurrence

variable {period : ℕ} {allowNonpositive : Bool} {run : List ℚ} {st : EmaState ExactDouble}

theorem follows_init (hperiod : 2 ≤ period) (level : Option ℚ) :
    Follows period (if isValidLevel allowNonpositive level then level.toList else [])
      (emaInit allowNonpositive (exactCell level)) := by
  unfold emaInit
  rw [emaValid_exactCell]
  by_cases hvalid : isValidLevel allowNonpositive level = true
  · obtain ⟨x, rfl⟩ := exists_of_isValidLevel hvalid
    rw [if_pos hvalid, if_pos hvalid, if_pos hvalid, Option.toList_some]
    refine ⟨fun _ => ⟨rfl, rfl, ?_⟩, fun hlong => ?_⟩
    · rw [List.sum_singleton]
      rfl
    · rw [List.length_singleton] at hlong
      omega
  · rw [if_neg hvalid, if_neg hvalid, if_neg hvalid]
    refine ⟨fun _ => ⟨rfl, rfl, rfl⟩, fun hlong => ?_⟩
    rw [List.length_nil] at hlong
    omega

theorem follows_step (hperiod : 2 ≤ period) (h : Follows period run st) (level : Option ℚ) :
    Follows period (if isValidLevel allowNonpositive level then level.toList ++ run else [])
      (emaStep period allowNonpositive st (exactCell level)) := by
  unfold emaStep
  rw [emaValid_exactCell, emaInvalid_exactCell]
  by_cases hvalid : isValidLevel allowNonpositive level = true
  · obtain ⟨x, rfl⟩ := exists_of_isValidLevel hvalid
    rw [if_pos hvalid, Option.toList_some, List.singleton_append]
    by_cases hlong : period ≤ run.length
    · -- the average of the run so far is carried on
      have hema := h.running hlong
      refine ⟨fun hshort => ?_, fun _ => ?_⟩
      · rw [List.length_cons] at hshort
        omega
      · simp only [hvalid, hema, Bool.not_true, Bool.false_eq_true, if_false, Option.isSome_some,
          if_true]
        rw [emaOfRun, if_neg (not_lt.mpr hlong)]
        show some (ExactDouble.rat (2 / ((period : ℚ) + 1) * x
          + (1 - 2 / ((period : ℚ) + 1)) * emaOfRun period run)) = _
        rfl
    · obtain ⟨hema, hcount, hsum⟩ := h.seeding (not_le.mp hlong)
      have hadd : Sql.add st.seedSum (exactCell (some x)) = some (.rat (x + run.sum)) := by
        rw [hsum, add_comm]
        rfl
      simp only [hvalid, hema, hcount, hadd, Bool.not_true, Bool.false_eq_true, if_false,
        Option.isSome_none, Option.isNone_none, Bool.and_self, if_true]
      refine ⟨fun hshort => ?_, fun hfull => ?_⟩
      · rw [List.length_cons] at hshort
        exact ⟨if_neg (not_le.mpr hshort), rfl, by rw [List.sum_cons]⟩
      · rw [List.length_cons] at hfull
        rw [if_pos hfull, emaOfRun, if_pos (not_le.mp hlong)]
        rfl
  · rw [Bool.not_eq_true] at hvalid
    simp only [hvalid, Bool.not_false, Bool.false_eq_true, if_false, if_true, Bool.false_and]
    refine ⟨fun _ => ⟨rfl, rfl, rfl⟩, fun hlong => ?_⟩
    rw [List.length_nil] at hlong
    omega

/-- **At every row the recurrence has followed the run that ends there.** -/
theorem follows_stateAt (hperiod : 2 ≤ period) {levels : List (Option ℚ)} {i : ℕ}
    (hi : i < levels.length) :
    ∃ st, stateAt (emaInit allowNonpositive) (emaStep period allowNonpositive)
        (levels.map exactCell) i = some st
      ∧ Follows period (runAt allowNonpositive levels i) st := by
  induction i with
  | zero =>
    refine ⟨emaInit allowNonpositive (exactCell levels[0]), ?_, ?_⟩
    · rw [stateAt, List.getElem?_map, List.getElem?_eq_getElem hi]
      rfl
    · rw [runAt_zero (List.getElem?_eq_getElem hi)]
      exact follows_init hperiod _
  | succ i ih =>
    obtain ⟨st, hst, hfollows⟩ := ih (by omega)
    refine ⟨emaStep period allowNonpositive st (exactCell levels[i + 1]), ?_, ?_⟩
    · rw [stateAt, hst, List.getElem?_map, List.getElem?_eq_getElem hi]
      rfl
    · rw [runAt_succ (List.getElem?_eq_getElem hi)]
      exact follows_step hperiod hfollows _

end Recurrence

/-! ## Bounds -/

/-- **The average of a run is between any bounds of the run.** -/
theorem emaOfRun_mem_Icc {period : ℕ} (hperiod : 2 ≤ period) {lo hi : ℚ} {run : List ℚ}
    (hrun : period ≤ run.length) (hbounds : ∀ x ∈ run, lo ≤ x ∧ x ≤ hi) :
    lo ≤ emaOfRun period run ∧ emaOfRun period run ≤ hi := by
  have hpos : (0 : ℚ) < period := by exact_mod_cast (by omega : 0 < period)
  induction run with
  | nil => rw [List.length_nil] at hrun; omega
  | cons x rest ih =>
    rw [List.length_cons] at hrun
    rw [emaOfRun]
    split_ifs with hshort
    · -- the mean of exactly `period` levels
      have hlength : ((x :: rest).length : ℚ) = period := by
        rw [List.length_cons]
        exact_mod_cast (by omega : rest.length + 1 = period)
      have hlo := List.card_nsmul_le_sum (x :: rest) lo (fun y hy => (hbounds y hy).1)
      have hhi := List.sum_le_card_nsmul (x :: rest) hi (fun y hy => (hbounds y hy).2)
      rw [nsmul_eq_mul, hlength, List.sum_cons] at hlo hhi
      rw [le_div_iff₀ hpos, div_le_iff₀ hpos]
      exact ⟨by linarith, by linarith⟩
    · obtain ⟨hlo, hhi⟩ := ih (by omega) (fun y hy => hbounds y (List.mem_cons_of_mem _ hy))
      obtain ⟨hxlo, hxhi⟩ := hbounds x List.mem_cons_self
      -- a convex combination, since the weight of the newest level is at most one
      have hα : 0 ≤ 2 / ((period : ℚ) + 1) := by positivity
      have hα' : 0 ≤ 1 - 2 / ((period : ℚ) + 1) := by
        rw [sub_nonneg, div_le_one (by positivity)]
        have : (2 : ℚ) ≤ period := by exact_mod_cast hperiod
        linarith
      constructor <;> nlinarith only [hα, hα', hlo, hhi, hxlo, hxhi,
        mul_le_mul_of_nonneg_left hxlo hα, mul_le_mul_of_nonneg_left hlo hα',
        mul_le_mul_of_nonneg_left hxhi hα, mul_le_mul_of_nonneg_left hhi hα']

/-- A list that has a member has a least and a greatest one. -/
theorem exists_bounds {run : List ℚ} (h : run ≠ []) :
    ∃ lo ∈ run, ∃ hi ∈ run, ∀ x ∈ run, lo ≤ x ∧ x ≤ hi := by
  have hne : run.toFinset.Nonempty := List.toFinset_nonempty_iff run |>.mpr h
  obtain ⟨lo, hlo, hmin⟩ := run.toFinset.exists_min_image id hne
  obtain ⟨hi, hhi, hmax⟩ := run.toFinset.exists_max_image id hne
  exact ⟨lo, List.mem_toFinset.mp hlo, hi, List.mem_toFinset.mp hhi, fun x hx =>
    ⟨hmin x (List.mem_toFinset.mpr hx), hmax x (List.mem_toFinset.mpr hx)⟩⟩

/-- **The moving average is its recurrence.** In the moving average of any relation
of levels, over any period of at least two rows: every row has an average or null;
there is an average exactly where the last `period` rows are all valid, and none
where the level is invalid; a run of exactly `period` valid levels has its mean; a
longer one has the combination of its newest level with the average at the row
before; and every average is between the least and the greatest level of the run. -/
theorem emaStateCte_recurrence (levels : Relation (Option ℚ)) (period : ℕ) (hperiod : 2 ≤ period)
    (allowNonpositive : Bool) :
    (emaStateCte period allowNonpositive (levels.map exactCell)).keys = levels.keys
      ∧ ∀ i level, levels.values[i]? = some level →
        ∃ ema, (emaStateCte period allowNonpositive (levels.map exactCell)).values[i]?
            = some (exactCell ema)
          ∧ (ema.isSome ↔ period ≤ i + 1 ∧ ∀ j < period, ∃ level,
            levels.values[i - j]? = some level ∧ isValidLevel allowNonpositive level = true)
          ∧ (isValidLevel allowNonpositive level = false → ema = none
            ∧ runAt allowNonpositive levels.values i = [])
          ∧ ((runAt allowNonpositive levels.values i).length = period →
            ema = some ((runAt allowNonpositive levels.values i).sum / period))
          ∧ (period < (runAt allowNonpositive levels.values i).length →
            ∃ x previous, level = some x
              ∧ (emaStateCte period allowNonpositive (levels.map exactCell)).values[i - 1]?
                = some (exactCell (some previous))
              ∧ ema = some (2 / ((period : ℚ) + 1) * x
                + (1 - 2 / ((period : ℚ) + 1)) * previous))
          ∧ ∀ e ∈ ema, ∃ lo ∈ runAt allowNonpositive levels.values i,
            ∃ hi ∈ runAt allowNonpositive levels.values i,
              (∀ x ∈ runAt allowNonpositive levels.values i, lo ≤ x ∧ x ≤ hi)
                ∧ lo ≤ e ∧ e ≤ hi := by
  -- what the query has at a row
  have hvalue : ∀ i < levels.values.length,
      (emaStateCte period allowNonpositive (levels.map exactCell)).values[i]?
        = some (exactCell (if period ≤ (runAt allowNonpositive levels.values i).length
            then some (emaOfRun period (runAt allowNonpositive levels.values i)) else none)) := by
    intro i hi
    obtain ⟨st, hst, hfollows⟩ := @follows_stateAt period allowNonpositive hperiod levels.values i hi
    rw [emaStateCte, values_map, List.getElem?_map, getElem?_values_recursive, values_map, hst,
      Option.map_some]
    split_ifs with hlong
    · rw [hfollows.running hlong]
      rfl
    · rw [(hfollows.seeding (not_le.mp hlong)).1]
      rfl
  refine ⟨by rw [emaStateCte, keys_map, keys_recursive, keys_map], fun i level hlevel => ?_⟩
  have hi : i < levels.values.length := (List.getElem?_eq_some_iff.mp hlevel).1
  refine ⟨_, hvalue i hi, ?_, fun hinvalid => ?_, fun hlength => ?_, fun hlength => ?_,
    fun e he => ?_⟩
  · rw [← le_length_runAt_iff hi]
    split_ifs with hlong <;> simp [hlong]
  · have hrun : runAt allowNonpositive levels.values i = [] := by
      cases i with
      | zero => rw [runAt_zero hlevel, hinvalid]; rfl
      | succ i => rw [runAt_succ hlevel, hinvalid]; rfl
    rw [hrun]
    exact ⟨if_neg (by rw [List.length_nil]; omega), rfl⟩
  · rw [if_pos hlength.ge]
    cases hrun : runAt allowNonpositive levels.values i with
    | nil => rw [hrun, List.length_nil] at hlength; omega
    | cons x rest =>
      rw [hrun, List.length_cons] at hlength
      rw [emaOfRun, if_pos (by omega), List.sum_cons]
  · -- a run longer than the period has a row before
    rw [if_pos hlength.le]
    cases i with
    | zero =>
      rw [runAt_zero hlevel] at hlength
      split_ifs at hlength
      · cases level <;> simp at hlength
        omega
      · simp at hlength
    | succ i =>
      rw [runAt_succ hlevel] at hlength ⊢
      split_ifs at hlength ⊢ with hvalid
      · obtain ⟨x, rfl⟩ := exists_of_isValidLevel hvalid
        rw [Option.toList_some, List.singleton_append, List.length_cons] at hlength
        have hprevious := hvalue i (by omega)
        rw [if_pos (by omega)] at hprevious
        refine ⟨x, _, rfl, hprevious, ?_⟩
        rw [Option.toList_some, List.singleton_append, emaOfRun, if_neg (by omega)]
      · simp at hlength
  · split_ifs at he with hlong
    · cases he
      have hne : runAt allowNonpositive levels.values i ≠ [] := by
        intro hnil
        rw [hnil, List.length_nil] at hlong
        omega
      obtain ⟨lo, hlo, hi', hhi, hbounds⟩ := exists_bounds hne
      exact ⟨lo, hlo, hi', hhi, hbounds, emaOfRun_mem_Icc hperiod hlong hbounds⟩
    · cases he

/-- Two rows, for an example. -/
def twoLevels : Relation (Option ℚ) := ⟨[(0, some 1), (1, some 3)], by decide⟩

theorem emaStateCte_recurrence_two :
    ∃ ema, (emaStateCte 2 false (twoLevels.map exactCell)).values[1]? = some (exactCell ema)
      ∧ ema = some 2 := by
  obtain ⟨ema, hvalue, -, -, hmean, -⟩ :=
    (emaStateCte_recurrence twoLevels 2 le_rfl false).2 1 (some 3) rfl
  have hrun : runAt false twoLevels.values 1 = [3, 1] := by decide +kernel
  rw [hrun] at hmean
  exact ⟨ema, hvalue, (hmean rfl).trans (by norm_num)⟩
