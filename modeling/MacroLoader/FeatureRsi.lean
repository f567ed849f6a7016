import MacroLoader.FeatureCells

/-!
# Wilder's index and its recurrence

The query computes the averages of gains and losses with a counter, two partial
sums and two parallel chains of cases, and guards the index by the row number.
The reference below has none of these. A change is valid if both of its levels
are positive; an average is one of the changes since the last invalid one
(`changeRun`): nothing while they are fewer than the period, their mean once
they are as many, and the smoothed average from then on (`wilderAverage`).

Levels are listed newest first, as everywhere where a history is read.
-/

open KeyedTable

/-! ## The reference -/

/-- The gain and the loss between the two newest levels, if both are positive. -/
def validChange : List ℚ → Option (ℚ × ℚ)
  | x :: y :: _ => if 0 < x ∧ 0 < y then some (max (x - y) 0, max (y - x) 0) else none
  | _ => none

/-- A valid change makes a run longer, an invalid one ends it. -/
def extendRun (run : List (ℚ × ℚ)) : Option (ℚ × ℚ) → List (ℚ × ℚ)
  | some c => c :: run
  | none => []

/-- **The changes since the last invalid one**, newest first. -/
def changeRun : List ℚ → List (ℚ × ℚ)
  | [] => []
  | x :: rest => extendRun (changeRun rest) (validChange (x :: rest))

/-- **The average of a run**: the mean of the first `n` values, smoothed with each
one after them. -/
def wilderAverage (n : ℕ) : List ℚ → Option ℚ
  | [] => none
  | c :: rest =>
    if rest.length + 1 < n then none
    else if rest.length + 1 = n then some ((c + rest.sum) / n)
    else (wilderAverage n rest).map (fun previous => (((n : ℚ) - 1) * previous + c) / n)

/-- The index of two averages. -/
def rsiReference : Option ℚ → Option ℚ → Option ℚ
  | some gain, some loss =>
    if gain = 0 ∧ loss = 0 then none
    else if loss = 0 then some 100
    else some (100 - 100 / (1 + gain / loss))
  | _, _ => none

theorem wilderAverage_of_lt {n : ℕ} {c : ℚ} {rest : List ℚ} (h : rest.length + 1 < n) :
    wilderAverage n (c :: rest) = none := if_pos h

theorem wilderAverage_of_eq {n : ℕ} {c : ℚ} {rest : List ℚ} (h : rest.length + 1 = n) :
    wilderAverage n (c :: rest) = some ((c + rest.sum) / n) := by
  rw [wilderAverage, if_neg (by omega), if_pos h]

theorem wilderAverage_of_le {n : ℕ} {c : ℚ} {rest : List ℚ} (h : n ≤ rest.length) :
    wilderAverage n (c :: rest)
      = (wilderAverage n rest).map (fun previous => (((n : ℚ) - 1) * previous + c) / n) := by
  rw [wilderAverage, if_neg (by omega), if_neg (by omega)]

/-- An average exists once the run is as long as the period. -/
theorem isSome_wilderAverage {n : ℕ} (hn : 1 ≤ n) (run : List ℚ) :
    (wilderAverage n run).isSome = true ↔ n ≤ run.length := by
  induction run with
  | nil => simp [wilderAverage]; omega
  | cons c rest ih =>
    rw [wilderAverage, List.length_cons]
    split_ifs with hshort hfull
    · simp; omega
    · simp; omega
    · rw [Option.isSome_map, ih]
      omega

/-- Averages of what is not negative are not negative. -/
theorem wilderAverage_nonneg {n : ℕ} (hn : 1 ≤ n) {run : List ℚ} (hrun : ∀ x ∈ run, 0 ≤ x) :
    ∀ v ∈ wilderAverage n run, 0 ≤ v := by
  induction run with
  | nil => intro v hv; cases hv
  | cons c rest ih =>
    intro v hv
    have hc := hrun c List.mem_cons_self
    have hrest : ∀ x ∈ rest, 0 ≤ x := fun x hx => hrun x (List.mem_cons_of_mem _ hx)
    have hpred : (0 : ℚ) ≤ (n : ℚ) - 1 := by
      rw [sub_nonneg]
      exact_mod_cast hn
    rw [wilderAverage] at hv
    split_ifs at hv with hshort hfull
    · cases hv
    · cases hv
      exact div_nonneg (add_nonneg hc (List.sum_nonneg hrest)) n.cast_nonneg
    · obtain ⟨previous, hprevious, rfl⟩ := Option.map_eq_some_iff.mp hv
      have := ih hrest previous hprevious
      positivity

/-- **The index is a percentage.** -/
theorem rsiReference_mem_Icc {gain loss : Option ℚ} (hgain : ∀ g ∈ gain, 0 ≤ g)
    (hloss : ∀ l ∈ loss, 0 ≤ l) : ∀ v ∈ rsiReference gain loss, 0 ≤ v ∧ v ≤ 100 := by
  intro v hv
  unfold rsiReference at hv
  split at hv
  · next g l =>
    have hg := hgain g rfl
    have hl := hloss l rfl
    split_ifs at hv with hflat hzero
    · cases hv
    · cases hv
      norm_num
    · cases hv
      have hpos : 0 < l := lt_of_le_of_ne hl (Ne.symm hzero)
      have hratio : 0 ≤ g / l := by positivity
      have hquot : 100 / (1 + g / l) ≤ 100 := div_le_self (by norm_num) (by linarith)
      have hquot' : 0 ≤ 100 / (1 + g / l) := by positivity
      constructor <;> linarith
  · cases hv

/-! ## The changes of exact levels -/

/-- The change at a level, of a sequence of exact levels. -/
def exactChange (safeLogInputs : Bool) (x : ℚ) (rest : List ℚ) : ChangeRow ExactDouble :=
  changeRowOf safeLogInputs (sourceRowOf (.rat x) (rest.map .rat))
    (alongHistory sourceRowOf (rest.map .rat))

/-- The gain and the loss of a row are those of a valid change. -/
theorem gain_loss_exactChange (safeLogInputs : Bool) (x : ℚ) (rest : List ℚ) :
    (exactChange safeLogInputs x rest).gain = exactCell ((validChange (x :: rest)).map Prod.fst)
      ∧ (exactChange safeLogInputs x rest).loss
        = exactCell ((validChange (x :: rest)).map Prod.snd) := by
  cases rest with
  | nil =>
    have hnull : ∀ v : Option ExactDouble,
        Sql.caseWhen (Sql.gt (some (ExactDouble.rat x)) (Sql.lit 0)
          && Sql.gt (none : Option ExactDouble) (Sql.lit 0)) v = none := fun v => by
      rw [show Sql.gt (none : Option ExactDouble) (Sql.lit 0) = false from rfl, Bool.and_false]
      rfl
    exact ⟨hnull _, hnull _⟩
  | cons y rest =>
    have hcase : ∀ a : ℚ, Sql.caseWhen (Sql.gt (some (ExactDouble.rat x)) (Sql.lit 0)
          && Sql.gt (some (ExactDouble.rat y)) (Sql.lit 0)) (some (ExactDouble.rat a))
        = if 0 < x ∧ 0 < y then some (ExactDouble.rat a) else none := fun a => by
      rw [lit_exact, gt_exact, gt_exact, ← Bool.decide_and, Sql.caseWhen]
      simp only [decide_eq_true_eq]
    have hgain := hcase (max (x - y) 0)
    have hloss := hcase (max (y - x) 0)
    rw [← greatest_exact] at hgain hloss
    refine ⟨hgain.trans ?_, hloss.trans ?_⟩
    · rw [validChange, greatest_exact]
      split_ifs <;> rfl
    · rw [validChange, greatest_exact]
      split_ifs <;> rfl

/-! ## The recurrence follows the run -/

/-- **What the state says of a run of changes**: while it is shorter than the period,
its length and its two sums; afterwards, its two averages. -/
structure RsiFollows (n : ℕ) (run : List (ℚ × ℚ)) (st : RsiState ExactDouble) : Prop where
  avgGain : st.avgGain = exactCell (wilderAverage n (run.map Prod.fst))
  avgLoss : st.avgLoss = exactCell (wilderAverage n (run.map Prod.snd))
  seeding : run.length < n → st.validCount = run.length
    ∧ st.gainSum = some (.rat (run.map Prod.fst).sum)
    ∧ st.lossSum = some (.rat (run.map Prod.snd).sum)

section Recurrence

variable {n : ℕ} {run : List (ℚ × ℚ)} {st : RsiState ExactDouble} {r : ChangeRow ExactDouble}

theorem RsiFollows.nil (hcount : st.validCount = 0) (hgain : st.avgGain = none)
    (hloss : st.avgLoss = none) (hgainSum : st.gainSum = some (.rat 0))
    (hlossSum : st.lossSum = some (.rat 0)) : RsiFollows n [] st :=
  ⟨hgain, hloss, fun _ => ⟨hcount, hgainSum, hlossSum⟩⟩

/-- One average of the next state, which is seeded, smoothed or not there yet. -/
theorem rsiAverage_exact (hn : 1 ≤ n) {values : List ℚ} {sum : Option ExactDouble} {count : ℕ}
    (hseed : values.length < n → count = values.length ∧ sum = some (.rat values.sum)) (x : ℚ) :
    rsiAverage n false count (exactCell (wilderAverage n values)) sum (some (.rat x))
      = exactCell (wilderAverage n (x :: values)) := by
  rw [rsiAverage]
  by_cases hlong : n ≤ values.length
  · obtain ⟨previous, hprevious⟩ :=
      Option.isSome_iff_exists.mp ((isSome_wilderAverage hn values).mpr hlong)
    rw [wilderAverage_of_le hlong, hprevious]
    rfl
  · obtain ⟨rfl, rfl⟩ := hseed (not_le.mp hlong)
    have hnone : wilderAverage n values = none := by
      rw [← Option.not_isSome_iff_eq_none, isSome_wilderAverage hn]
      exact hlong
    rw [hnone]
    by_cases hfull : n ≤ values.length + 1
    · rw [wilderAverage_of_eq (by omega)]
      simp only [exactCell_none, Option.isNone_none, decide_eq_true hfull, lit_exact, add_exact,
        div_exact, Bool.and_self, if_true, if_false, Bool.false_eq_true, exactCell_some]
      rw [add_comm]
    · rw [wilderAverage_of_lt (by omega)]
      simp [hfull]

/-- An invalid change clears the state, a valid one makes the run longer. -/
theorem RsiFollows.step (hn : 1 ≤ n) (h : RsiFollows n run st) {change : Option (ℚ × ℚ)}
    (hgain : r.gain = exactCell (change.map Prod.fst))
    (hloss : r.loss = exactCell (change.map Prod.snd)) :
    RsiFollows n (extendRun run change) (rsiStep n st r) := by
  cases change with
  | none =>
    have hinvalid : (r.gain.isNone || r.loss.isNone) = true := by rw [hgain]; rfl
    refine .nil ?_ ?_ ?_ ?_ ?_ <;> simp [rsiStep, rsiSum, rsiAverage, hinvalid, lit_exact]
  | some c =>
    obtain ⟨gain, loss⟩ := c
    have hvalid : (r.gain.isNone || r.loss.isNone) = false := by rw [hgain, hloss]; rfl
    have hgain' : r.gain = some (.rat gain) := hgain
    have hloss' : r.loss = some (.rat loss) := hloss
    refine ⟨?_, ?_, fun hshort => ?_⟩
    · show rsiAverage n (r.gain.isNone || r.loss.isNone) st.validCount st.avgGain st.gainSum r.gain
        = _
      rw [hvalid, h.avgGain, hgain']
      refine rsiAverage_exact hn (fun hshort => ?_) gain
      rw [List.length_map] at hshort ⊢
      exact ⟨(h.seeding hshort).1, (h.seeding hshort).2.1⟩
    · show rsiAverage n (r.gain.isNone || r.loss.isNone) st.validCount st.avgLoss st.lossSum r.loss
        = _
      rw [hvalid, h.avgLoss, hloss']
      refine rsiAverage_exact hn (fun hshort => ?_) loss
      rw [List.length_map] at hshort ⊢
      exact ⟨(h.seeding hshort).1, (h.seeding hshort).2.2⟩
    · rw [extendRun, List.length_cons] at hshort
      obtain ⟨hcount, hgainSum, hlossSum⟩ := h.seeding (by omega)
      have hnone : ∀ values : List ℚ, values.length = run.length →
          exactCell (wilderAverage n values) = none := fun values hlength => by
        have hshort' : ¬ (wilderAverage n values).isSome = true := by
          rw [isSome_wilderAverage hn]
          omega
        rw [Option.not_isSome_iff_eq_none.mp hshort']
        rfl
      have hgainNone := h.avgGain.trans (hnone _ (List.length_map _))
      have hlossNone := h.avgLoss.trans (hnone _ (List.length_map _))
      simp only [rsiStep, rsiSum, hgainNone, hlossNone, hcount, hgainSum, hlossSum, hgain', hloss',
        Option.isNone_none, if_true, add_exact, extendRun,
        List.length_cons, List.map_cons, List.sum_cons]
      exact ⟨Nat.min_eq_left (by omega), by rw [add_comm]; rfl, by rw [add_comm]; rfl⟩

/-- **At every level the recurrence has followed the run that ends there.** -/
theorem rsiFollows_stateAfter (hn : 1 ≤ n) (safeLogInputs : Bool) (x : ℚ) (rest : List ℚ) :
    RsiFollows n (changeRun (x :: rest))
      (stateAfter rsiInit (rsiStep n) (exactChange safeLogInputs x rest)
        (alongHistory (exactChange safeLogInputs) rest)) := by
  induction rest generalizing x with
  | nil =>
    obtain ⟨hgain, hloss⟩ := gain_loss_exactChange safeLogInputs x []
    refine RsiFollows.nil ?_ rfl rfl ?_ ?_
    · show (if _ then 0 else 1) = 0
      rw [hgain]
      rfl
    · show (exactChange safeLogInputs x []).gain.or (Sql.lit 0) = _
      rw [hgain]
      rfl
    · show (exactChange safeLogInputs x []).loss.or (Sql.lit 0) = _
      rw [hloss]
      rfl
  | cons y rest ih =>
    obtain ⟨hgain, hloss⟩ := gain_loss_exactChange safeLogInputs x (y :: rest)
    exact (ih y).step hn hgain hloss

end Recurrence

/-! ## The index -/

/-- The changes of a series with exact levels. -/
theorem seriesChanges_exact {s : Series} {projection : Relation (WideRow ExactDouble)}
    {levels : Relation ℚ} (h : levelCte s projection = levels.map ExactDouble.rat)
    (safeLogInputs : Bool) :
    seriesChanges s projection safeLogInputs = levels.along (exactChange safeLogInputs) := by
  rw [seriesChanges, changesCte_eq_along, sourceCte_eq_along, h, along_along, along_map]
  rfl

/-- A run ends at the last invalid change, so it is shorter than the history. -/
theorem length_changeRun_lt (x : ℚ) (rest : List ℚ) :
    (changeRun (x :: rest)).length < (x :: rest).length := by
  induction rest generalizing x with
  | nil => simp [changeRun, validChange, extendRun]
  | cons y rest ih =>
    rw [changeRun]
    cases validChange (x :: y :: rest) with
    | none => exact Nat.succ_pos _
    | some c => exact Nat.succ_lt_succ (ih y)

/-- Gains and losses are not negative. -/
theorem changeRun_nonneg (l : List ℚ) : ∀ c ∈ changeRun l, 0 ≤ c.1 ∧ 0 ≤ c.2 := by
  induction l with
  | nil => intro c hc; cases hc
  | cons x rest ih =>
    intro c hc
    rw [changeRun] at hc
    cases hchange : validChange (x :: rest) with
    | none => rw [hchange] at hc; cases hc
    | some c' =>
      rw [hchange, extendRun, List.mem_cons] at hc
      rcases hc with rfl | hc
      · cases rest with
        | nil => cases hchange
        | cons y rest =>
          rw [validChange] at hchange
          split_ifs at hchange
          cases hchange
          exact ⟨le_max_right _ _, le_max_right _ _⟩
      · exact ih c hc

/-- The index of the query, once the guard on the row number is passed. -/
theorem rsiValue_exact {n observationNumber : ℕ} {gain loss : Option ℚ}
    (hgain : gain.isSome = true → n + 1 ≤ observationNumber) :
    rsiValue n observationNumber (exactCell gain) (exactCell loss)
      = exactCell (rsiReference gain loss) := by
  rw [rsiValue]
  cases gain with
  | none =>
    show (if observationNumber < n + 1 then none else none) = (none : Option ExactDouble)
    exact ite_self _
  | some g =>
    rw [if_neg (not_lt.mpr (hgain rfl))]
    cases loss with
    | none => rfl
    | some l =>
      simp only [exactCell_some, Option.isNone_some, Bool.or_self, Bool.false_eq_true, if_false,
        lit_exact, eq_exact, ← Bool.decide_and, decide_eq_true_eq, rsiReference]
      split_ifs <;> rfl

/-- **Wilder's index is its reference.** At every level, over any period: the two
averages are those of the changes since the last invalid one; the index is the
one of these averages, since the guard on the row number is passed wherever there
is an average; and it is a percentage. -/
theorem rsi_recurrence {s : Series} {projection : Relation (WideRow ExactDouble)}
    {levels : Relation ℚ} (hlevels : levelCte s projection = levels.map ExactDouble.rat)
    (safeLogInputs : Bool) {n : ℕ} (hn : 1 ≤ n) {t : Timestamp} {x : ℚ}
    (hx : levels.get? t = some x) :
    let gain := wilderAverage n ((changeRun (levels.history t)).map Prod.fst)
    let loss := wilderAverage n ((changeRun (levels.history t)).map Prod.snd)
    (∃ st, (rsiStateCte n (seriesChanges s projection safeLogInputs)).get? t = some st
      ∧ st.avgGain = exactCell gain ∧ st.avgLoss = exactCell loss)
    ∧ (∃ row, (rsiValuesCte (seriesChanges s projection safeLogInputs)).get? t = some row
      ∧ row.rsiValue n = exactCell (rsiReference gain loss)
      ∧ (gain.isSome = true → n + 1 ≤ row.observationNumber))
    ∧ ∀ v ∈ rsiReference gain loss, 0 ≤ v ∧ v ≤ 100 := by
  intro gain loss
  have hhistory := history_of_get? hx
  have hrow : (seriesChanges s projection safeLogInputs).get? t
      = some (exactChange safeLogInputs x (levels.earlier t)) := by
    rw [seriesChanges_exact hlevels, get?_along, hx]
    rfl
  have hfollows := rsiFollows_stateAfter hn safeLogInputs x (levels.earlier t)
  rw [← hhistory] at hfollows
  have hstate : (rsiStateCte n (seriesChanges s projection safeLogInputs)).get? t
      = some (stateAfter rsiInit (rsiStep n) (exactChange safeLogInputs x (levels.earlier t))
        (alongHistory (exactChange safeLogInputs) (levels.earlier t))) := by
    rw [rsiStateCte, recursive_eq_along, get?_along, hrow, seriesChanges_exact hlevels,
      earlier_along hx]
    rfl
  -- an average needs as many changes as the period, and the first level has none
  have hguard : gain.isSome = true →
      n + 1 ≤ (exactChange safeLogInputs x (levels.earlier t)).observationNumber := fun hsome => by
    have hrun := (isSome_wilderAverage hn _).mp hsome
    rw [List.length_map, hhistory] at hrun
    have hlt := length_changeRun_lt x (levels.earlier t)
    show n + 1 ≤ (ExactDouble.rat x :: (levels.earlier t).map ExactDouble.rat).length
    rw [List.length_cons, List.length_map]
    rw [List.length_cons] at hlt
    omega
  obtain ⟨row, hvalues, hchange, hvalue⟩ : ∃ row,
      (rsiValuesCte (seriesChanges s projection safeLogInputs)).get? t = some row
      ∧ row.toChangeRow = exactChange safeLogInputs x (levels.earlier t)
      ∧ row.rsiValue n = rsiValue n row.observationNumber
        (((rsiStateCte n (seriesChanges s projection safeLogInputs)).get? t).bind RsiState.avgGain)
        (((rsiStateCte n (seriesChanges s projection safeLogInputs)).get? t).bind
          RsiState.avgLoss) := by
    rw [rsiValuesCte, get?_map, get?_leftJoinFamily, hrow]
    exact ⟨_, rfl, rfl, rfl⟩
  rw [← hchange] at hguard
  refine ⟨⟨_, hstate, hfollows.avgGain, hfollows.avgLoss⟩, ⟨row, hvalues, ?_, hguard⟩, ?_⟩
  · rw [hvalue, hstate, Option.bind_some, Option.bind_some, hfollows.avgGain, hfollows.avgLoss]
    exact rsiValue_exact hguard
  · have hpositive := changeRun_nonneg (levels.history t)
    refine rsiReference_mem_Icc (wilderAverage_nonneg hn (fun g hg => ?_))
      (wilderAverage_nonneg hn (fun l hl => ?_))
    · obtain ⟨c, hc, rfl⟩ := List.mem_map.mp hg
      exact (hpositive c hc).1
    · obtain ⟨c, hc, rfl⟩ := List.mem_map.mp hl
      exact (hpositive c hc).2

/-- Three rising levels. -/
def risingLevels : Relation ℚ := ⟨[(0, 1), (1, 2), (2, 4)], by decide⟩

theorem rsi_recurrence_rising :
    ∃ row, (rsiValuesCte (seriesChanges .vix (levelProjection .vix risingLevels) true)).get? 2
        = some row
      ∧ row.rsiValue 2 = some (.rat 100) := by
  obtain ⟨-, ⟨row, hrow, hvalue, -⟩, -⟩ := rsi_recurrence
    (levelCte_levelProjection .vix risingLevels) true (show 1 ≤ 2 by norm_num)
    (show risingLevels.get? 2 = some 4 from rfl)
  refine ⟨row, hrow, hvalue.trans ?_⟩
  decide +kernel
