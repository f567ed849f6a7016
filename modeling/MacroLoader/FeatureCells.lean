import MacroLoader.FeatureEma
import MacroLoader.RowHistory

/-!
# What the query has under a key

The relations of the query are windows over the levels of a series or over its
bars, so what one of them has at a row is a function of the rows up to it, newest
first. The functions for the first relations of the chain are given here, with
the cell that is published in the end: a column comes from a helper relation,
and only rows with a level have any (`featureCell`).

Queries over exact numbers are evaluated by the lemmas of the first section.
-/

open KeyedTable

/-! ## Queries over exact numbers -/

section Exact

variable {a b : ℚ}

@[simp] theorem exactCell_some (a : ℚ) : exactCell (some a) = some (.rat a) := rfl
@[simp] theorem exactCell_none : exactCell none = none := rfl
theorem lit_exact (a : ℚ) : (Sql.lit a : Option ExactDouble) = some (.rat a) := rfl

@[simp] theorem add_exact : Sql.add (some (.rat a)) (some (.rat b))
    = (some (.rat (a + b)) : Option ExactDouble) := rfl
@[simp] theorem sub_exact : Sql.sub (some (.rat a)) (some (.rat b))
    = (some (.rat (a - b)) : Option ExactDouble) := rfl
@[simp] theorem mul_exact : Sql.mul (some (.rat a)) (some (.rat b))
    = (some (.rat (a * b)) : Option ExactDouble) := rfl
@[simp] theorem div_exact : Sql.div (some (.rat a)) (some (.rat b))
    = (some (.rat (a / b)) : Option ExactDouble) := rfl

@[simp] theorem gt_exact : Sql.gt (some (ExactDouble.rat a)) (some (.rat b)) = decide (b < a) := rfl
@[simp] theorem le_exact : Sql.le (some (ExactDouble.rat a)) (some (.rat b)) = decide (a ≤ b) := by
  show (!decide (b < a)) = decide (a ≤ b)
  rw [← decide_not, decide_eq_decide, not_lt]
@[simp] theorem finite_exact : Sql.finite (some (ExactDouble.rat a)) = true := rfl

theorem eq_exact : Sql.eq (some (ExactDouble.rat a)) (some (.rat b)) = decide (a = b) := by
  rw [Sql.eq, le_exact, le_exact, ← Bool.decide_and, decide_eq_decide]
  exact le_antisymm_iff.symm

theorem greatest_exact : Sql.greatest (some (ExactDouble.rat a)) (some (.rat b))
    = some (.rat (max a b)) := by
  show (if decide (a < b) then some (ExactDouble.rat b) else some (.rat a)) = _
  simp only [decide_eq_true_eq]
  split_ifs with h
  · rw [max_eq_right h.le]
  · rw [max_eq_left (not_lt.mp h)]

theorem finite_iff_rat {x : ExactDouble} : Sql.finite (some x) = true ↔ ∃ q, x = .rat q := by
  cases x with
  | rat q => exact ⟨fun _ => ⟨q, rfl⟩, fun _ => rfl⟩
  | negInfinity => exact ⟨fun h => (nomatch h), fun ⟨_, h⟩ => (nomatch h)⟩
  | infinity => exact ⟨fun h => (nomatch h), fun ⟨_, h⟩ => (nomatch h)⟩
  | nan => exact ⟨fun h => (nomatch h), fun ⟨_, h⟩ => (nomatch h)⟩

theorem total_exact (l : List ℚ) : ExactDouble.total (l.map .rat) = .rat l.sum := by
  have hfold : ∀ acc : ℚ, (l.map ExactDouble.rat).foldl (ExactDouble.lift₂ (· + ·)) (.rat acc)
      = .rat (acc + l.sum) := by
    induction l with
    | nil => exact fun acc => congrArg ExactDouble.rat (add_zero acc).symm
    | cons a rest ih =>
      intro acc
      rw [List.map_cons, List.foldl_cons, List.sum_cons, ← add_assoc]
      exact ih (acc + a)
  rw [ExactDouble.total, hfold, zero_add]

theorem avg_exact {l : List ℚ} (hl : l ≠ []) :
    SqlDouble.avg (l.map ExactDouble.rat) = some (.rat (l.sum / l.length)) := by
  have hempty : (l.map ExactDouble.rat).isEmpty = false := by
    rw [List.isEmpty_map, List.isEmpty_eq_false_iff]
    exact hl
  show (if (l.map ExactDouble.rat).isEmpty then none else some (ExactDouble.mean _)) = _
  rw [hempty, ExactDouble.mean, total_exact, List.length_map]
  rfl

end Exact

/-! ## The rows of the query -/

section Rows

variable {V : Type} [SqlDouble V]

/-- The row of the source relation after some levels. -/
def sourceRowOf (x : V) (rest : List V) : SourceRow V where
  level := x
  lag k := (x :: rest)[k]?
  observationNumber := (x :: rest).length

omit [SqlDouble V] in
theorem sourceCte_eq_along (s : Series) (projection : Relation (WideRow V)) :
    sourceCte s projection = (levelCte s projection).along sourceRowOf := by
  refine window_eq_along (fun l i v h => ?_) _
  rw [sourceRowOf, ← rowNumber_eq h]
  congr 1
  funext k
  rw [lag_eq h, Option.bind_fun_some]

/-- The row of the changes after some rows of the source. -/
def changeRowOf (safeLogInputs : Bool) (r : SourceRow V) (rest : List (SourceRow V)) :
    ChangeRow V :=
  let level := some r.level
  let adjacentPositive := Sql.gt level (Sql.lit 0) && Sql.gt (r.lag 1) (Sql.lit 0)
  { toSourceRow := r
    delta := fun k => Sql.sub level (r.lag k)
    change := r.change
    changeLag := fun k => (r :: rest)[k]?.bind SourceRow.change
    gain := Sql.caseWhen adjacentPositive (Sql.greatest (Sql.sub level (r.lag 1)) (Sql.lit 0))
    loss := Sql.caseWhen adjacentPositive (Sql.greatest (Sql.sub (r.lag 1) level) (Sql.lit 0))
    logReturn := fun w =>
      Sql.caseWhen (Sql.gt level (Sql.lit 0) && Sql.gt (r.lag w) (Sql.lit 0))
        (Sql.ln safeLogInputs (Sql.div level (r.lag w))) }

theorem changesCte_eq_along (safeLogInputs : Bool) (source : Relation (SourceRow V)) :
    changesCte safeLogInputs source = source.along (changeRowOf safeLogInputs) := by
  refine window_eq_along (fun l i v h => ?_) _
  have hlag : (fun k => KeyedTable.lag SourceRow.change k l i)
      = fun k => (v :: (l.take i).reverse)[k]?.bind SourceRow.change :=
    funext (fun k => lag_eq h _ k)
  rw [changeRowOf, ← hlag]

/-- **A trailing window** holds the newest rows of the history. -/
theorem trailing_rank {R : Type} {relation : Relation R} {t : Timestamp} {r : R}
    (h : relation.get? t = some r) {w : ℕ} (hw : 0 < w) :
    trailing w relation.values (relation.rank t) = ((relation.history t).take w).reverse := by
  rw [trailing, frame_eq (getElem?_rank h), reverse_take_rank_earlier h, history_of_get? h,
    Nat.sub_add_cancel hw]

/-- A window is full when there are rows enough. -/
theorem length_take_beq {R : Type} (l : List R) (w : ℕ) :
    ((l.take w).length == w) = decide (w ≤ l.length) := by
  rw [List.length_take, Bool.eq_iff_iff, beq_iff_eq, decide_eq_true_eq, min_eq_left_iff]

end Rows

/-! ## Published cells -/

section Published

variable {V : Type} [SqlDouble V] (s : Series) (projection : Relation (WideRow V))
  (table : KeyedTable Timestamp (RawRow V s.nativeShape)) (preserveRawNulls safeLogInputs : Bool)

/-- **A cell of a series**, null at a timestamp where it has no row. -/
def featureCell (t : Timestamp) (suffix : FeatureSuffix) : Option (Cell V) :=
  ((featuresCte s projection table preserveRawNulls safeLogInputs).get? t).bind
    (fun columns => columns suffix)

/-- A cell is what a helper or the base has in the row of the base. -/
theorem featureCell_eq (t : Timestamp) (suffix : FeatureSuffix) :
    featureCell s projection table preserveRawNulls safeLogInputs t suffix
      = ((seriesBase s projection safeLogInputs).get? t).bind (fun base =>
          ((helperColumn s projection table preserveRawNulls safeLogInputs suffix).get? t).join.or
            (numberCell (base.column suffix))) := by
  rw [featureCell, featuresCte, get?_map, get?_leftJoinFamily]
  cases (seriesBase s projection safeLogInputs).get? t <;> rfl

/-- The base has a row wherever there is a level. -/
theorem isSome_seriesBase (t : Timestamp) :
    ((seriesBase s projection safeLogInputs).get? t).isSome
      = ((levelCte s projection).get? t).isSome := by
  simp only [seriesBase, featureBaseCte, get?_window, Option.isSome_map, rsiValuesCte, get?_map,
    get?_leftJoinFamily, seriesChanges, changesCte, sourceCte]

/-- **A helper's column is published at the rows that have a level.** -/
theorem featureCell_helper {suffix : FeatureSuffix}
    (hbase : ∀ (rows : List (RsiRow V)) i r, baseColumn rows i r suffix = none) (t : Timestamp) :
    featureCell s projection table preserveRawNulls safeLogInputs t suffix
      = if ((levelCte s projection).get? t).isSome then
          ((helperColumn s projection table preserveRawNulls safeLogInputs suffix).get? t).join
        else none := by
  rw [featureCell_eq, ← isSome_seriesBase]
  cases hrow : (seriesBase s projection safeLogInputs).get? t with
  | none => rfl
  | some base =>
    have hcolumn : base.column suffix = none := by
      rw [seriesBase, featureBaseCte, get?_window] at hrow
      obtain ⟨r, -, rfl⟩ := Option.map_eq_some_iff.mp hrow
      exact hbase _ _ _
    rw [Option.bind_some, Option.isSome_some, if_pos rfl, hcolumn]
    exact Option.or_none

end Published

/-- A projection that shows some levels of a series. -/
def levelProjection (s : Series) (levels : Relation ℚ) : Relation (WideRow ExactDouble) :=
  levels.map (fun x c => if c = .level s then some (.rat x) else none)

theorem levelCte_levelProjection (s : Series) (levels : Relation ℚ) :
    levelCte s (levelProjection s levels) = levels.map ExactDouble.rat := by
  ext t : 1
  rw [levelCte, levelProjection, get?_filterMap, get?_map, get?_map]
  cases levels.get? t with
  | none => rfl
  | some x => exact if_pos rfl

/-- Tables in which only one series has rows, with some levels. -/
def levelTables (s : Series) (levels : Relation (Option ℚ)) : RawTables ExactDouble :=
  fun s' => if s' = s then
      levels.map (fun x => RawRow.ofCells s'.nativeShape (exactCell x) (fun _ => exactCell x))
    else .empty

theorem levelTables_level (s : Series) (levels : Relation (Option ℚ)) :
    (levelTables s levels s).map RawRow.level = levels.map exactCell := by
  ext t : 1
  rw [levelTables, if_pos rfl, get?_map, get?_map, get?_map]
  cases levels.get? t with
  | none => rfl
  | some x => simp [RawRow.level_ofCells]
