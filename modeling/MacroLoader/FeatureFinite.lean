import MacroLoader.FeatureIsolation
import MacroLoader.FeatureCells

/-!
# Finite values

Where an operation on finite doubles has no finite result, because it overflows, divides
by zero or takes a logarithm that does not exist, the server raises an error. So a query
that succeeds computes finite values from finite ones (`ServerArithmetic`), with one
exception: the last quotient of a correlation is not checked, and tiny deviations make it
infinite. The relations of the query keep to it one by one, and in the end every cell of a
wide view that is no autocorrelation is of the type its name calls for: a Donchian flag is
a boolean, and every other cell a finite number. This is what the JSON types of a wide row
are about, because a number that is not finite is written as a string.
-/

open KeyedTable

variable {V : Type} [SqlDouble V]

/-! ## The server -/

/-- A finite number. -/
def FiniteNumber (x : V) : Prop := Sql.finite (some x) = true

/-- A positive finite number. -/
def PositiveNumber (x : V) : Prop := FiniteNumber x ∧ Sql.gt (some x) (Sql.lit 0) = true

/-- **The arithmetic of the server** in a query that succeeds. With finite operands an
operation has a finite result, and a positive one where it is that of an operation on
positive numbers; otherwise – an overflow, an underflow, a division by zero – it raises an
error, and what it returns here is never asked for. Whole numbers are ordered as such,
adding to zero changes no positive value, and the logarithm of infinity or NaN is as
infinite as its argument. There is no law for a correlation. -/
structure ServerArithmetic (V : Type) [SqlDouble V] : Prop where
  lit : ∀ q : ℚ, FiniteNumber (SqlDouble.ofRat q : V)
  lit_pos : ∀ q : ℚ, 0 < q → PositiveNumber (SqlDouble.ofRat q : V)
  lit_lt : ∀ m n : ℕ, m < n → n ≤ 2 ^ 53 → Sql.gt (Sql.lit n : Option V) (Sql.lit m) = true
  zero_add : ∀ x : V, Sql.gt (some x) (Sql.lit 0) = true → SqlDouble.add (SqlDouble.ofRat 0) x = x
  add : ∀ a b : V, FiniteNumber a → FiniteNumber b → FiniteNumber (SqlDouble.add a b)
  sub : ∀ a b : V, FiniteNumber a → FiniteNumber b → FiniteNumber (SqlDouble.sub a b)
  mul : ∀ a b : V, FiniteNumber a → FiniteNumber b → FiniteNumber (SqlDouble.mul a b)
  div : ∀ a b : V, FiniteNumber a → FiniteNumber b → FiniteNumber (SqlDouble.div a b)
  add_pos : ∀ a b : V, PositiveNumber a → PositiveNumber b → PositiveNumber (SqlDouble.add a b)
  mul_pos : ∀ a b : V, PositiveNumber a → PositiveNumber b → PositiveNumber (SqlDouble.mul a b)
  div_pos : ∀ a b : V, PositiveNumber a → PositiveNumber b → PositiveNumber (SqlDouble.div a b)
  sub_pos : ∀ a b : V, PositiveNumber a → PositiveNumber b → Sql.gt (some a) (some b) = true →
    PositiveNumber (SqlDouble.sub a b)
  div_lt_one : ∀ a b : V, PositiveNumber a → PositiveNumber b → Sql.gt (some b) (some a) = true →
    Sql.gt (Sql.lit 1) (some (SqlDouble.div a b)) = true
  ln : ∀ a : V, PositiveNumber a → FiniteNumber (SqlDouble.ln a)
  finite_of_ln : ∀ a : V, Sql.gt (some a) (Sql.lit 0) = true → FiniteNumber (SqlDouble.ln a) →
    FiniteNumber a
  exp : ∀ a : V, FiniteNumber a → FiniteNumber (SqlDouble.exp a)
  sum : ∀ l : List V, (∀ x ∈ l, FiniteNumber x) → ∀ v, SqlDouble.sum l = some v → FiniteNumber v
  avg : ∀ l : List V, (∀ x ∈ l, FiniteNumber x) → ∀ v, SqlDouble.avg l = some v → FiniteNumber v
  stddevPop : ∀ l : List V, (∀ x ∈ l, FiniteNumber x) →
    ∀ v, SqlDouble.stddevPop l = some v → FiniteNumber v
  stddevSamp : ∀ l : List V, (∀ x ∈ l, FiniteNumber x) →
    ∀ v, SqlDouble.stddevSamp l = some v → FiniteNumber v

/-- A correlation of finite values is finite. No server is taken to promise it. -/
def CorrelationsFinite (V : Type) [SqlDouble V] : Prop :=
  ∀ l : List (V × V), (∀ p ∈ l, FiniteNumber p.1 ∧ FiniteNumber p.2) →
    ∀ v, SqlDouble.corr l = some v → FiniteNumber v

/-! ## The real numbers -/

section Reals

/-- The mean of some numbers. -/
noncomputable def realMean (l : List ℝ) : ℝ := l.sum / l.length

/-- The sum of the products of the deviations from the means. -/
noncomputable def realCodeviation (l : List (ℝ × ℝ)) : ℝ :=
  (l.map (fun p => (p.1 - realMean (l.map Prod.fst)) * (p.2 - realMean (l.map Prod.snd)))).sum

/-- The standard deviation with a given number of degrees of freedom. -/
noncomputable def realDeviation (freedom : ℝ) (l : List ℝ) : ℝ :=
  Real.sqrt (realCodeviation (l.map (fun x => (x, x))) / freedom)

open Classical in
/-- **Values that are computed with as real numbers**, with the two infinities. -/
noncomputable instance : SqlDouble EReal where
  ofRat q := ((q : ℝ) : EReal)
  add x y := x + y
  sub x y := x - y
  mul x y := x * y
  div x y := x / y
  lt x y := decide (x < y)
  infinity := ⊤
  negInfinity := ⊥
  ln x := if x = ⊤ then ⊤ else (Real.log x.toReal : ℝ)
  exp x := (Real.exp x.toReal : ℝ)
  sum l := if l.isEmpty then none else some ((l.map EReal.toReal).sum : ℝ)
  avg l := if l.isEmpty then none else some (realMean (l.map EReal.toReal) : ℝ)
  stddevPop l := if l.isEmpty then none else some (realDeviation l.length (l.map EReal.toReal) : ℝ)
  stddevSamp l :=
    if l.length < 2 then none else some (realDeviation (l.length - 1) (l.map EReal.toReal) : ℝ)
  corr l :=
    let pairs := l.map (fun p => (p.1.toReal, p.2.toReal))
    let deviations := realCodeviation (pairs.map (fun p => (p.1, p.1)))
      * realCodeviation (pairs.map (fun p => (p.2, p.2)))
    if deviations = 0 then none else some (realCodeviation pairs / Real.sqrt deviations : ℝ)

theorem finiteNumber_coe (x : ℝ) : FiniteNumber (x : EReal) :=
  Bool.and_eq_true_iff.mpr
    ⟨decide_eq_true (EReal.bot_lt_coe x), decide_eq_true (EReal.coe_lt_top x)⟩

theorem exists_of_finiteNumber {x : EReal} (h : FiniteNumber x) : ∃ r : ℝ, x = r := by
  obtain ⟨hbot, htop⟩ := Bool.and_eq_true_iff.mp h
  exact ⟨x.toReal, (EReal.coe_toReal (of_decide_eq_true htop).ne
    (of_decide_eq_true hbot).ne').symm⟩

theorem gt_coe (x y : ℝ) : Sql.gt (some (x : EReal)) (some (y : EReal)) = true ↔ y < x :=
  decide_eq_true_iff.trans EReal.coe_lt_coe_iff

theorem positiveNumber_coe {x : ℝ} (h : 0 < x) : PositiveNumber (x : EReal) := by
  refine ⟨finiteNumber_coe x, ?_⟩
  show Sql.gt (some (x : EReal)) (some (((0 : ℚ) : ℝ) : EReal)) = true
  rw [gt_coe, Rat.cast_zero]
  exact h

theorem exists_of_positiveNumber {x : EReal} (h : PositiveNumber x) :
    ∃ r : ℝ, x = r ∧ 0 < r := by
  obtain ⟨r, rfl⟩ := exists_of_finiteNumber h.1
  have hpos : Sql.gt (some (r : EReal)) (some (((0 : ℚ) : ℝ) : EReal)) = true := h.2
  rw [gt_coe, Rat.cast_zero] at hpos
  exact ⟨r, rfl, hpos⟩

/-- An operation that is one on the real numbers has real results. -/
theorem finiteNumber_lift₂ {f : EReal → EReal → EReal} {g : ℝ → ℝ → ℝ}
    (hf : ∀ a b : ℝ, f a b = g a b) {a b : EReal} (ha : FiniteNumber a) (hb : FiniteNumber b) :
    FiniteNumber (f a b) := by
  obtain ⟨x, rfl⟩ := exists_of_finiteNumber ha
  obtain ⟨y, rfl⟩ := exists_of_finiteNumber hb
  rw [hf]
  exact finiteNumber_coe _

/-- One with positive results on positive numbers has them. -/
theorem positiveNumber_lift₂ {f : EReal → EReal → EReal} {g : ℝ → ℝ → ℝ}
    (hf : ∀ a b : ℝ, f a b = g a b) (hg : ∀ a b : ℝ, 0 < a → 0 < b → 0 < g a b) {a b : EReal}
    (ha : PositiveNumber a) (hb : PositiveNumber b) : PositiveNumber (f a b) := by
  obtain ⟨x, rfl, hx⟩ := exists_of_positiveNumber ha
  obtain ⟨y, rfl, hy⟩ := exists_of_positiveNumber hb
  rw [hf]
  exact positiveNumber_coe (hg x y hx hy)

theorem finiteNumber_of_ite {c : Prop} [Decidable c] {x : ℝ} {v : EReal}
    (h : (if c then none else some (x : EReal)) = some v) : FiniteNumber v := by
  split_ifs at h
  obtain rfl := Option.some.inj h
  exact finiteNumber_coe x

/-- **The real numbers satisfy the laws of the arithmetic.** -/
theorem serverArithmetic_real : ServerArithmetic EReal where
  lit q := finiteNumber_coe q
  lit_pos q hq := positiveNumber_coe (Rat.cast_pos.mpr hq)
  lit_lt m n hlt _ := (gt_coe _ _).mpr (by exact_mod_cast hlt)
  zero_add x _ := by
    show (((0 : ℚ) : ℝ) : EReal) + x = x
    rw [Rat.cast_zero, EReal.coe_zero, zero_add]
  add _ _ := finiteNumber_lift₂ (fun a b => (EReal.coe_add a b).symm)
  sub _ _ := finiteNumber_lift₂ (fun a b => (EReal.coe_sub a b).symm)
  mul _ _ := finiteNumber_lift₂ (fun a b => (EReal.coe_mul a b).symm)
  div _ _ := finiteNumber_lift₂ (fun a b => (EReal.coe_div a b).symm)
  add_pos _ _ := positiveNumber_lift₂ (fun a b => (EReal.coe_add a b).symm)
    (fun _ _ => add_pos)
  mul_pos _ _ := positiveNumber_lift₂ (fun a b => (EReal.coe_mul a b).symm) (fun _ _ => mul_pos)
  div_pos _ _ := positiveNumber_lift₂ (fun a b => (EReal.coe_div a b).symm) (fun _ _ => div_pos)
  sub_pos a b ha hb hlt := by
    obtain ⟨x, rfl, -⟩ := exists_of_positiveNumber ha
    obtain ⟨y, rfl, -⟩ := exists_of_positiveNumber hb
    show PositiveNumber ((x : EReal) - y)
    rw [← EReal.coe_sub]
    exact positiveNumber_coe (sub_pos.mpr ((gt_coe _ _).mp hlt))
  div_lt_one a b ha hb hlt := by
    obtain ⟨x, rfl, -⟩ := exists_of_positiveNumber ha
    obtain ⟨y, rfl, hy⟩ := exists_of_positiveNumber hb
    show Sql.gt (some (((1 : ℚ) : ℝ) : EReal)) (some ((x : EReal) / y)) = true
    rw [← EReal.coe_div, gt_coe, Rat.cast_one]
    exact (div_lt_one hy).mpr ((gt_coe _ _).mp hlt)
  ln a ha := by
    obtain ⟨x, rfl, -⟩ := exists_of_positiveNumber ha
    show FiniteNumber (if (x : EReal) = ⊤ then (⊤ : EReal) else (Real.log (x : EReal).toReal : ℝ))
    rw [if_neg (EReal.coe_ne_top x)]
    exact finiteNumber_coe _
  finite_of_ln a hpos hln := by
    have hbot : (⊥ : EReal) < a := lt_of_le_of_lt bot_le (of_decide_eq_true hpos)
    by_cases htop : a = ⊤
    · -- infinity is its own logarithm
      obtain ⟨r, hr⟩ := exists_of_finiteNumber hln
      have hln : (if a = ⊤ then (⊤ : EReal) else (Real.log a.toReal : ℝ)) = r := hr
      rw [if_pos htop] at hln
      exact absurd hln.symm (EReal.coe_ne_top r)
    · exact Bool.and_eq_true_iff.mpr
        ⟨decide_eq_true hbot, decide_eq_true (lt_top_iff_ne_top.mpr htop)⟩
  exp _ _ := finiteNumber_coe _
  sum _ _ _ := finiteNumber_of_ite
  avg _ _ _ := finiteNumber_of_ite
  stddevPop _ _ _ := finiteNumber_of_ite
  stddevSamp _ _ _ := finiteNumber_of_ite

theorem correlationsFinite_real : CorrelationsFinite EReal := fun _ _ _ => finiteNumber_of_ite

end Reals

/-! ## Expressions -/

/-- A value that is null or a finite number. -/
def NullOrFinite (a : Option V) : Prop := ∀ x, a = some x → FiniteNumber x

namespace NullOrFinite

variable {a b : Option V}

theorem null : NullOrFinite (none : Option V) := fun _ h => nomatch h

theorem of_number {x : V} (h : FiniteNumber x) : NullOrFinite (some x) := fun y hy => by
  obtain rfl := Option.some.inj hy
  exact h

theorem caseWhen (c : Bool) (h : NullOrFinite a) : NullOrFinite (Sql.caseWhen c a) := by
  cases c with
  | false => exact null
  | true => exact h

/-- What is tested to be finite is. -/
theorem caseWhen_finite (a : Option V) : NullOrFinite (Sql.caseWhen (Sql.finite a) a) := by
  intro x hx
  rw [Sql.caseWhen] at hx
  split_ifs at hx with hfinite
  rwa [hx] at hfinite

theorem caseWhen_and_finite (c : Bool) (a : Option V) :
    NullOrFinite (Sql.caseWhen (c && Sql.finite a) a) := by
  cases c with
  | false => exact null
  | true => exact caseWhen_finite a

theorem nullif (h : NullOrFinite a) : NullOrFinite (Sql.nullif a b) := by
  rw [Sql.nullif]
  split_ifs
  · exact null
  · exact h

theorem greatest (ha : NullOrFinite a) (hb : NullOrFinite b) : NullOrFinite (Sql.greatest a b) := by
  cases a with
  | none => exact hb
  | some x =>
    cases b with
    | none => exact ha
    | some y =>
      rw [Sql.greatest]
      split_ifs
      · exact hb
      · exact ha

theorem or (ha : NullOrFinite a) (hb : NullOrFinite b) : NullOrFinite (a.or b) := by
  cases a with
  | none => exact hb
  | some x => exact ha

theorem map₂ {f : V → V → V} (hf : ∀ x y, FiniteNumber x → FiniteNumber y → FiniteNumber (f x y))
    (ha : NullOrFinite a) (hb : NullOrFinite b) : NullOrFinite (Option.map₂ f a b) := by
  intro z hz
  obtain ⟨x, y, hx, hy, rfl⟩ := Option.map₂_eq_some_iff.mp hz
  exact hf x y (ha x hx) (hb y hy)

variable (h : ServerArithmetic V)
include h

theorem lit (q : ℚ) : NullOrFinite (Sql.lit q : Option V) := of_number (h.lit q)

theorem add (ha : NullOrFinite a) (hb : NullOrFinite b) : NullOrFinite (Sql.add a b) :=
  map₂ h.add ha hb

theorem sub (ha : NullOrFinite a) (hb : NullOrFinite b) : NullOrFinite (Sql.sub a b) :=
  map₂ h.sub ha hb

theorem mul (ha : NullOrFinite a) (hb : NullOrFinite b) : NullOrFinite (Sql.mul a b) :=
  map₂ h.mul ha hb

theorem div (ha : NullOrFinite a) (hb : NullOrFinite b) : NullOrFinite (Sql.div a b) :=
  map₂ h.div ha hb

/-- A logarithm with the guard. -/
theorem ln (ha : NullOrFinite a) : NullOrFinite (Sql.ln true a) := by
  intro y hy
  obtain ⟨x, hx, rfl⟩ := Option.map_eq_some_iff.mp hy
  rw [if_pos rfl, Sql.caseWhen] at hx
  split_ifs at hx with hpositive
  rw [hx] at hpositive
  exact h.ln x ⟨ha x hx, hpositive⟩

theorem exp (ha : NullOrFinite a) : NullOrFinite (a.map SqlDouble.exp) := by
  intro y hy
  obtain ⟨x, hx, rfl⟩ := Option.map_eq_some_iff.mp hy
  exact h.exp x (ha x hx)

section Aggregates

variable {R : Type} {col : R → Option V} {rows : List R}

omit h in
/-- The values an aggregate sees are finite. -/
theorem of_mem_nonNull (hcol : ∀ r ∈ rows, NullOrFinite (col r)) :
    ∀ x ∈ Sql.nonNull col rows, FiniteNumber x := by
  intro x hx
  obtain ⟨r, hr, hcell⟩ := List.mem_filterMap.mp hx
  exact hcol r hr x hcell

theorem sum (hcol : ∀ r ∈ rows, NullOrFinite (col r)) : NullOrFinite (Sql.sum col rows) :=
  h.sum _ (of_mem_nonNull hcol)

theorem avg (hcol : ∀ r ∈ rows, NullOrFinite (col r)) : NullOrFinite (Sql.avg col rows) :=
  h.avg _ (of_mem_nonNull hcol)

theorem stddevPop (hcol : ∀ r ∈ rows, NullOrFinite (col r)) :
    NullOrFinite (Sql.stddevPop col rows) := h.stddevPop _ (of_mem_nonNull hcol)

theorem stddevSamp (hcol : ∀ r ∈ rows, NullOrFinite (col r)) :
    NullOrFinite (Sql.stddevSamp col rows) := h.stddevSamp _ (of_mem_nonNull hcol)

omit h in
theorem corr (hcorr : CorrelationsFinite V) {col' : R → Option V}
    (hcol : ∀ r ∈ rows, NullOrFinite (col r)) (hcol' : ∀ r ∈ rows, NullOrFinite (col' r)) :
    NullOrFinite (Sql.corr col col' rows) := by
  refine hcorr _ (fun p hp => ?_)
  obtain ⟨r, hr, hpair⟩ := List.mem_filterMap.mp hp
  obtain ⟨x, y, hx, hy, rfl⟩ := Option.map₂_eq_some_iff.mp hpair
  exact ⟨hcol r hr x hx, hcol' r hr y hy⟩

omit h in
/-- The greatest value of a column is one of its values. -/
theorem max (hcol : ∀ r ∈ rows, NullOrFinite (col r)) : NullOrFinite (Sql.max col rows) := by
  have hfold : ∀ (l : List V) (acc : Option V), (∀ x ∈ l, FiniteNumber x) → NullOrFinite acc →
      NullOrFinite (l.foldl (fun acc x => Sql.greatest acc (some x)) acc) := by
    intro l
    induction l with
    | nil => exact fun acc _ hacc => hacc
    | cons x rest ih =>
      intro acc hl hacc
      exact ih _ (fun y hy => hl y (List.mem_cons_of_mem _ hy))
        (hacc.greatest (of_number (hl x List.mem_cons_self)))
  exact hfold _ _ (of_mem_nonNull hcol) null

omit h in
/-- What a lag returns is in the column. -/
theorem lag (hcol : ∀ r ∈ rows, NullOrFinite (col r)) (k i : ℕ) :
    NullOrFinite (KeyedTable.lag col k rows i) := by
  intro x hx
  obtain ⟨r, hr, hcell⟩ := exists_of_lag hx
  exact hcol r hr x hcell

end Aggregates

end NullOrFinite

/-! ## The relations of a series -/

/-- Whether a feature is an autocorrelation. -/
def FeatureSuffix.isAutocorr : FeatureSuffix → Bool
  | .paired .momentumAutocorr _ _ => true
  | .paired .returnAutocorr _ _ => true
  | _ => false

def Feature.isAutocorr : Feature → Bool
  | .own _ suffix => suffix.isAutocorr
  | .cross _ => false

section Relations

/-- A projection with finite cells. -/
def FiniteProjection (P : Relation (WideRow V)) : Prop :=
  P.Every (fun row => ∀ c, NullOrFinite (row c))

structure SourceRow.AllFinite (r : SourceRow V) : Prop where
  level : FiniteNumber r.level
  lag : ∀ k, NullOrFinite (r.lag k)

structure ChangeRow.AllFinite (r : ChangeRow V) : Prop
    extends toSource : r.toSourceRow.AllFinite where
  delta : ∀ k, NullOrFinite (r.delta k)
  change : NullOrFinite r.change
  changeLag : ∀ k, NullOrFinite (r.changeLag k)
  gain : NullOrFinite r.gain
  loss : NullOrFinite r.loss
  logReturn : ∀ w, NullOrFinite (r.logReturn w)

structure RsiState.AllFinite (st : RsiState V) : Prop where
  gainSum : NullOrFinite st.gainSum
  lossSum : NullOrFinite st.lossSum
  avgGain : NullOrFinite st.avgGain
  avgLoss : NullOrFinite st.avgLoss

structure RsiRow.AllFinite (r : RsiRow V) : Prop
    extends toChange : r.toChangeRow.AllFinite where
  rsiValue : ∀ p, NullOrFinite (r.rsiValue p)

variable {s : Series} {P : Relation (WideRow V)}

theorem every_levelCte (hP : FiniteProjection P) : (levelCte s P).Every FiniteNumber :=
  hP.filterMap (fun _ _ x hrow hx => hrow _ x hx)

theorem every_sourceCte (hP : FiniteProjection P) : (sourceCte s P).Every SourceRow.AllFinite :=
  (every_levelCte hP).window (fun _ _ _ hrows hlevel =>
    { level := hlevel
      lag := fun k => NullOrFinite.lag (fun r hr => NullOrFinite.of_number (hrows r hr)) k _ })

variable (h : ServerArithmetic V)
include h

theorem SourceRow.AllFinite.change {r : SourceRow V} (hr : r.AllFinite) : NullOrFinite r.change :=
  .sub h (.of_number hr.level) (hr.lag 1)

theorem every_changesCte {source : Relation (SourceRow V)}
    (hsource : source.Every SourceRow.AllFinite) :
    (changesCte true source).Every ChangeRow.AllFinite :=
  hsource.window (fun _ _ _ hrows hr =>
    { hr with
      delta := fun k => .sub h (.of_number hr.level) (hr.lag k)
      change := hr.change h
      changeLag := fun k => NullOrFinite.lag (fun r hr => (hrows r hr).change h) k _
      gain := .caseWhen _ (.greatest (.sub h (.of_number hr.level) (hr.lag 1)) (.lit h 0))
      loss := .caseWhen _ (.greatest (.sub h (hr.lag 1) (.of_number hr.level)) (.lit h 0))
      logReturn := fun w => .caseWhen _ (.ln h (.div h (.of_number hr.level) (hr.lag w))) })

theorem nullOrFinite_rsiSum {invalid : Bool} {avg sum value : Option V} (hsum : NullOrFinite sum)
    (hvalue : NullOrFinite value) : NullOrFinite (rsiSum invalid avg sum value) := by
  rw [rsiSum]
  split_ifs
  · exact .lit h 0
  · exact .add h hsum hvalue
  · exact .lit h 0

theorem nullOrFinite_rsiAverage {period : ℕ} {invalid : Bool} {validCount : ℕ}
    {avg sum value : Option V} (havg : NullOrFinite avg) (hsum : NullOrFinite sum)
    (hvalue : NullOrFinite value) :
    NullOrFinite (rsiAverage period invalid validCount avg sum value) := by
  rw [rsiAverage]
  split_ifs
  · exact .null
  · exact .div h (.add h hsum hvalue) (.lit h _)
  · exact .div h (.add h (.mul h (.lit h _) havg) hvalue) (.lit h _)
  · exact .null

/-- **The recurrence of the index** keeps its sums and averages finite. -/
theorem every_rsiStateCte {changes : Relation (ChangeRow V)}
    (hchanges : changes.Every ChangeRow.AllFinite) (period : ℕ) :
    (rsiStateCte period changes).Every RsiState.AllFinite :=
  hchanges.recursive
    (fun _ hr =>
      { gainSum := hr.gain.or (.lit h 0)
        lossSum := hr.loss.or (.lit h 0)
        avgGain := .null
        avgLoss := .null })
    (fun _ _ hst hr =>
      { gainSum := nullOrFinite_rsiSum h hst.gainSum hr.gain
        lossSum := nullOrFinite_rsiSum h hst.lossSum hr.loss
        avgGain := nullOrFinite_rsiAverage h hst.avgGain hst.gainSum hr.gain
        avgLoss := nullOrFinite_rsiAverage h hst.avgLoss hst.lossSum hr.loss })

theorem nullOrFinite_rsiValue {period observationNumber : ℕ} {gain loss : Option V}
    (hgain : NullOrFinite gain) (hloss : NullOrFinite loss) :
    NullOrFinite (rsiValue period observationNumber gain loss) := by
  rw [rsiValue]
  split_ifs
  · exact .null
  · exact .null
  · exact .null
  · exact .lit h _
  · exact .sub h (.lit h _) (.div h (.lit h _) (.add h (.lit h _) (.div h hgain hloss)))

theorem every_rsiValuesCte {changes : Relation (ChangeRow V)}
    (hchanges : changes.Every ChangeRow.AllFinite) :
    (rsiValuesCte changes).Every RsiRow.AllFinite :=
  (hchanges.leftJoinFamily (every_rsiStateCte h hchanges)).map (fun r hr =>
    { hr.1 with
      rsiValue := fun period => by
        refine nullOrFinite_rsiValue h (fun x hx => ?_) (fun x hx => ?_)
        · obtain ⟨st, hst, hx⟩ := Option.bind_eq_some_iff.mp hx
          exact (hr.2 period st hst).avgGain x hx
        · obtain ⟨st, hst, hx⟩ := Option.bind_eq_some_iff.mp hx
          exact (hr.2 period st hst).avgLoss x hx })

/-- **The expressions of the base** are finite where the columns are. -/
theorem nullOrFinite_baseColumn {rows : List (RsiRow V)} (hrows : ∀ r ∈ rows, r.AllFinite) (i : ℕ)
    {r : RsiRow V} (hr : r.AllFinite) {suffix : FeatureSuffix}
    (hcorr : suffix.isAutocorr = true → CorrelationsFinite V) :
    NullOrFinite (baseColumn rows i r suffix) := by
  have hone := NullOrFinite.lit h 1
  have hlevel : NullOrFinite r.levelCell := .of_number hr.level
  have hwindow : ∀ {n : ℕ} {x : RsiRow V}, x ∈ trailing n rows i → x.AllFinite :=
    fun hx => hrows _ (mem_of_mem_frame hx)
  have hlevels : ∀ n, ∀ x ∈ trailing n rows i, NullOrFinite x.levelCell :=
    fun n x hx => .of_number (hwindow hx).level
  have hreturns : ∀ n, ∀ x ∈ trailing n rows i, NullOrFinite (x.logReturn 1) :=
    fun n x hx => (hwindow hx).logReturn 1
  fun_cases baseColumn rows i r suffix with
  | case1 w => exact hr.logReturn w
  | case2 k => exact hr.delta k
  | case3 w deviation =>
    exact .caseWhen _ (.div h (.sub h hlevel (.avg h (hlevels 60))) (.stddevPop h (hlevels 60)))
  | case4 k n w correlation =>
    refine .caseWhen _ ?_
    split_ifs
    · exact .null
    · exact .greatest (.corr (hcorr rfl) (fun x hx => (hwindow hx).change)
        (fun x hx => (hwindow hx).changeLag k)) (.lit h 0)
  | case5 n w => exact .caseWhen _ (.sub h (.exp h (.sum h (hreturns n))) hone)
  | case6 n w => exact .caseWhen _ (.avg h (hreturns n))
  | case7 n w => exact .caseWhen _ (.stddevSamp h (hreturns n))
  | case8 short long =>
    exact .caseWhen _ (.div h (.avg h (hlevels short)) (.nullif (.avg h (hlevels long))))
  | case9 p => exact hr.rsiValue p
  | case10 rsi15 => exact .caseWhen _ (.div h (hr.rsiValue 5) (.nullif (hr.rsiValue _)))
  | case11 w => exact .caseWhen _ (.sub h (.div h hlevel (hr.lag w)) hone)
  | case12 =>
    exact .caseWhen _ (.sub h (.sub h (.div h hlevel (hr.lag 4)) hone)
      (.sub h (.div h hlevel (hr.lag 8)) hone))
  | case13 n w =>
    exact .caseWhen _ (.sub h (.div h hlevel (.nullif (.max (hlevels n)))) hone)
  | case14 => exact .null

/-- The base rows of a series. -/
theorem every_seriesBase (hP : FiniteProjection P) {suffix : FeatureSuffix}
    (hcorr : suffix.isAutocorr = true → CorrelationsFinite V) :
    (seriesBase s P true).Every (fun r => NullOrFinite (r.column suffix)) :=
  (every_rsiValuesCte h (every_changesCte h (every_sourceCte hP))).window
    (fun _ i _ hrows hr => nullOrFinite_baseColumn h hrows i hr hcorr)

/-! ## The helper relations -/

theorem every_rsi5HistoryCte {observations : Relation (Option V)}
    (hobservations : observations.Every NullOrFinite) :
    (rsi5HistoryCte observations).Every (fun r => NullOrFinite r.1 ∧ NullOrFinite r.2) :=
  hobservations.window (fun _ i _ hrows hrsi =>
    ⟨.caseWhen _ (.div h (.sub h hrsi (.lag hrows 3 i)) (.lit h 3)),
      .caseWhen _ (.sub h hrsi (.lag hrows 1 i))⟩)

theorem every_zscoreCte {valid : Relation V} (hvalid : valid.Every FiniteNumber) (window : ℕ) :
    (zscoreCte window valid).Every NullOrFinite :=
  hvalid.window (fun rows i _ hrows hvalue => by
    have hwindow : ∀ x ∈ trailing window rows i, NullOrFinite (some x) :=
      fun x hx => .of_number (hrows x (mem_of_mem_frame hx))
    exact .caseWhen _ (.div h (.sub h (.of_number hvalue) (.avg h hwindow)) (.stddevSamp h hwindow)))

omit h in
theorem every_returnAutocorrCte (hcorr : CorrelationsFinite V) {pairs : Relation (V × V)}
    (hpairs : pairs.Every (fun p => FiniteNumber p.1 ∧ FiniteNumber p.2)) (window : ℕ) :
    (returnAutocorrCte window pairs).Every NullOrFinite :=
  hpairs.window (fun _ _ _ hrows _ =>
    .caseWhen _ (.corr hcorr (fun x hx => .of_number (hrows x (mem_of_mem_frame hx)).1)
      (fun x hx => .of_number (hrows x (mem_of_mem_frame hx)).2)))

/-- **The recurrence of the average** keeps its sum and the average finite. -/
theorem every_emaStateCte {input : Relation (Option V)} (hinput : input.Every NullOrFinite)
    (period : ℕ) (allowNonpositive : Bool) :
    (emaStateCte period allowNonpositive input).Every NullOrFinite := by
  refine Every.map (P := fun st : EmaState V => NullOrFinite st.seedSum ∧ NullOrFinite st.ema)
    (hinput.recursive (fun level hlevel => ⟨?_, .null⟩) (fun st level hst hlevel => ⟨?_, ?_⟩))
    (fun _ hst => hst.2)
  · show NullOrFinite (if emaValid allowNonpositive level then level else Sql.lit 0)
    split_ifs
    · exact hlevel
    · exact .lit h 0
  · show NullOrFinite (if _ then Sql.add st.seedSum level else Sql.lit 0)
    split_ifs
    · exact .add h hst.1 hlevel
    · exact .lit h 0
  · have halpha : NullOrFinite (Sql.div (Sql.lit 2) (Sql.lit ((period : ℚ) + 1)) : Option V) :=
      .div h (.lit h _) (.lit h _)
    simp only [emaStep]
    split_ifs
    · exact .null
    · exact .add h (.mul h halpha hlevel) (.mul h (.sub h (.lit h 1) halpha) hst.2)
    · exact .div h (.add h hst.1 hlevel) (.lit h _)
    · exact .null

theorem every_macdInputCte {emaSource : Relation (Option V)}
    (hsource : emaSource.Every NullOrFinite) : (macdInputCte emaSource).Every NullOrFinite :=
  ((hsource.leftJoin (every_emaStateCte h hsource 12 false)).leftJoin
    (every_emaStateCte h hsource 26 false)).map (fun _ hr =>
      .caseWhen _ (.sub h
        (fun x hx => hr.1.2 _ (Option.join_eq_some_iff.mp hx) x rfl)
        (fun x hx => hr.2 _ (Option.join_eq_some_iff.mp hx) x rfl)))

structure MacdRow.AllFinite (r : MacdRow V) : Prop where
  level : NullOrFinite r.level
  macdLine : NullOrFinite r.macdLine
  macdSignal : NullOrFinite r.macdSignal

theorem every_macdBaseCte {emaSource : Relation (Option V)}
    (hsource : emaSource.Every NullOrFinite) :
    (macdBaseCte emaSource).Every MacdRow.AllFinite :=
  have hinput := every_macdInputCte h hsource
  ((hsource.innerJoin hinput).leftJoin
    (every_emaStateCte h hinput macdSignalEmaPeriod true)).map (fun _ hr =>
      { level := hr.1.1
        macdLine := hr.1.2
        macdSignal := fun x hx => hr.2 _ (Option.join_eq_some_iff.mp hx) x rfl })

theorem every_macdFeaturesCte {emaSource : Relation (Option V)}
    (hsource : emaSource.Every NullOrFinite) :
    (macdFeaturesCte (macdRelativeCte (macdBaseCte emaSource))).Every
      (fun features => ∀ feature, NullOrFinite (features feature)) := by
  have hrelative : (macdRelativeCte (macdBaseCte emaSource)).Every
      (fun r => NullOrFinite r.1 ∧ NullOrFinite r.2) :=
    (every_macdBaseCte h hsource).map (fun _ hr =>
      ⟨.caseWhen _ (.div h hr.macdLine hr.level),
        .caseWhen _ (.div h (.sub h hr.macdLine hr.macdSignal) hr.level)⟩)
  refine hrelative.window (fun rows i r hrows hr feature => ?_)
  have hlag : NullOrFinite (KeyedTable.lag Prod.snd 3 rows i) :=
    .lag (fun x hx => (hrows x hx).2) 3 i
  split
  · exact hr.1
  · exact hr.2
  · exact .caseWhen _ (.sub h hr.2 hlag)
  · exact .null

structure EmaAlignedRow.AllFinite (r : EmaAlignedRow V) : Prop where
  level : FiniteNumber r.level
  ema5 : NullOrFinite r.ema5
  ema9 : NullOrFinite r.ema9
  ema21 : NullOrFinite r.ema21

theorem every_emaAlignedCte {source : Relation (SourceRow V)} {emaSource : Relation (Option V)}
    (hrows : source.Every SourceRow.AllFinite) (hsource : emaSource.Every NullOrFinite) :
    (emaAlignedCte source emaSource).Every EmaAlignedRow.AllFinite :=
  (((hrows.leftJoin (every_emaStateCte h hsource 5 false)).leftJoin
    (every_emaStateCte h hsource 9 false)).leftJoin (every_emaStateCte h hsource 21 false)).map
      (fun _ hr =>
        { level := hr.1.1.1.level
          ema5 := fun x hx => hr.1.1.2 _ (Option.join_eq_some_iff.mp hx) x rfl
          ema9 := fun x hx => hr.1.2 _ (Option.join_eq_some_iff.mp hx) x rfl
          ema21 := fun x hx => hr.2 _ (Option.join_eq_some_iff.mp hx) x rfl })

theorem every_emaFeaturesCte {aligned : Relation (EmaAlignedRow V)}
    (haligned : aligned.Every EmaAlignedRow.AllFinite) :
    (emaFeaturesCte aligned).Every (fun features => ∀ feature, NullOrFinite (features feature)) := by
  refine haligned.window (fun rows i r hrows hr feature => ?_)
  have hlevel : NullOrFinite (some r.level) := .of_number hr.level
  have hlag : NullOrFinite (KeyedTable.lag EmaAlignedRow.ema9 3 rows i) :=
    .lag (fun x hx => (hrows x hx).ema9) 3 i
  have hdistance : ∀ ema : Option V, NullOrFinite ema → NullOrFinite
      (Sql.caseWhen (Sql.gt (some r.level) (Sql.lit 0) && ema.isSome)
        (Sql.sub (Sql.div (some r.level) (Sql.nullif ema (Sql.lit 0))) (Sql.lit 1))) :=
    fun ema hema => .caseWhen _ (.sub h (.div h hlevel (.nullif hema)) (.lit h 1))
  split
  · exact hdistance _ hr.ema5
  · exact hdistance _ hr.ema9
  · exact hdistance _ hr.ema21
  · exact .caseWhen _ (.div h (.sub h hr.ema5 hr.ema21) (.nullif hlevel))
  · exact .caseWhen _ (.div h (.sub h hr.ema9 hlag) (.mul h (.lit h 3) hlevel))
  · refine .caseWhen _ ?_
    rw [emaCross]
    split_ifs
    · exact .lit h _
    · exact .lit h _
    · exact .lit h _
  · exact .null

/-! ## The cells -/

omit h in
/-- **A cell is null or of the type its name calls for.** -/
def WellTyped (feature : Feature) (c : Option (Cell V)) : Prop :=
  ∀ cell, c = some cell → (cell.longValue feature).isSome = true

omit h in
theorem wellTyped_numberCell {feature : Feature} (hfeature : feature.isBoolean = false)
    {a : Option V} (ha : NullOrFinite a) : WellTyped feature (numberCell a) := by
  intro cell hcell
  obtain ⟨x, hx, rfl⟩ := Option.map_eq_some_iff.mp hcell
  show Option.isSome (if _ then none else Sql.caseWhen (Sql.finite (some x)) (some x)) = true
  rw [hfeature, if_neg Bool.false_ne_true, Sql.caseWhen,
    if_pos (show Sql.finite (some x) = true from ha x hx)]
  rfl

omit h in
theorem wellTyped_greaterCell {feature : Feature} (hfeature : feature.isBoolean = true)
    (a b : Option V) : WellTyped feature (greaterCell a b) := by
  intro cell hcell
  obtain ⟨x, y, -, -, rfl⟩ := Option.map₂_eq_some_iff.mp hcell
  show Option.isSome (if _ then Sql.lit _ else none) = true
  rw [hfeature, if_pos rfl]
  rfl

omit h in
theorem WellTyped.caseWhen {feature : Feature} {a : Option (Cell V)} (ha : WellTyped feature a)
    (c : Bool) : WellTyped feature (Sql.caseWhen c a) := by
  cases c with
  | false => exact fun _ hcell => nomatch hcell
  | true => exact ha

omit h in
/-- The cells of the oscillator: all but two of them are tested to be finite. -/
theorem every_stochasticFeaturesCte {bars : Relation (OhlcBar V)} (feature : SingleFeature) :
    (stochasticFeaturesCte (stochasticHistoryCte (stochasticRawCte (ohlcWindowsCte bars)))).Every
      (fun features => WellTyped (.own s (.single feature)) (features feature)) := by
  have hraw : (stochasticRawCte (ohlcWindowsCte bars)).Every
      (fun r => NullOrFinite r.stochK5 ∧ NullOrFinite r.stochK14) := by
    refine Every.map (P := fun _ => True) (fun _ _ _ => trivial) (fun r _ => ?_)
    exact ⟨.caseWhen _ (.caseWhen_finite _), .caseWhen _ (.caseWhen_finite _)⟩
  have hhistory : (stochasticHistoryCte (stochasticRawCte (ohlcWindowsCte bars))).Every
      (fun r => NullOrFinite r.stochK5 ∧ NullOrFinite r.stochK14) :=
    hraw.window (fun _ _ _ _ hr => hr)
  refine hhistory.map (fun r hr => ?_)
  cases feature with
  | stochK5 => exact wellTyped_numberCell rfl hr.1
  | stochK14 => exact wellTyped_numberCell rfl hr.2
  | stochD53 => exact wellTyped_numberCell rfl (.caseWhen_and_finite _ _)
  | stochD143 => exact wellTyped_numberCell rfl (.caseWhen_and_finite _ _)
  | stochKdSpread5 => exact wellTyped_numberCell rfl (.caseWhen_and_finite _ _)
  | stochKSlope3 => exact wellTyped_numberCell rfl (.caseWhen _ (.caseWhen_finite _))
  | donchianBreakoutUp => exact (wellTyped_greaterCell rfl _ _).caseWhen _
  | donchianBreakoutDown => exact (wellTyped_greaterCell rfl _ _).caseWhen _
  | _ => exact fun _ hcell => nomatch hcell

variable {table : KeyedTable Timestamp (RawRow V s.nativeShape)} {preserveRawNulls : Bool}

omit h in
theorem every_seriesEmaSource (hP : FiniteProjection P)
    (htable : (table.map RawRow.level).Every NullOrFinite) :
    (seriesEmaSource s P table preserveRawNulls).Every NullOrFinite := by
  rw [seriesEmaSource, emaSourceCte]
  split_ifs
  · exact htable
  · exact (every_sourceCte hP).map (fun r hr => .of_number hr.level)

/-- **A helper's column** is of the type its name calls for. -/
theorem every_helperColumn (hP : FiniteProjection P)
    (htable : (table.map RawRow.level).Every NullOrFinite) {suffix : FeatureSuffix}
    (hcorr : suffix.isAutocorr = true → CorrelationsFinite V) :
    (helperColumn s P table preserveRawNulls true suffix).Every (WellTyped (.own s suffix)) := by
  have hbase : ∀ suffix : FeatureSuffix, suffix.isAutocorr = false →
      (seriesBase s P true).Every (fun r => NullOrFinite (r.column suffix)) :=
    fun suffix hnot => every_seriesBase h hP
      (fun his => absurd (hnot.symm.trans his) Bool.false_ne_true)
  have hchanges := every_changesCte h (every_sourceCte (s := s) hP)
  have hsource : (seriesEmaSource s P table preserveRawNulls).Every NullOrFinite :=
    every_seriesEmaSource hP htable
  have hmacd := every_macdFeaturesCte h hsource
  have hema := every_emaFeaturesCte h
    (every_emaAlignedCte h (every_sourceCte (s := s) hP) hsource)
  have hrsi := every_rsi5HistoryCte h
    ((hbase (.rsi 5) rfl).map (f := fun r => r.column (FeatureSuffix.rsi 5)) (fun _ hr => hr))
  have hfinite : ∀ metric : Relation (Option V), (finiteCte metric).Every FiniteNumber :=
    fun metric => Every.filterMap (P := fun _ => True) (fun _ _ _ => trivial)
      (fun _ v x _ hx => NullOrFinite.caseWhen_finite v x hx)
  have hrolling : ∀ valid : Relation V, (rollingCte valid).Every NullOrFinite :=
    fun valid => Every.window (P := fun _ => True) (fun _ _ _ => trivial)
      (fun _ _ _ _ _ => .caseWhen_and_finite _ _)
  have hlevels : (levelValidCte (sourceCte s P)).Every FiniteNumber :=
    (every_sourceCte hP).filterMap (fun _ r x hr hx =>
      NullOrFinite.caseWhen _ (.of_number hr.level) x hx)
  have hvolatility : (volatilityValidCte (seriesBase s P true)).Every FiniteNumber :=
    (hbase (.volatility 8) rfl).filterMap (fun _ r x hr hx => hr x hx)
  have hpairs : ∀ k, (validReturnPairsCte k (seriesChanges s P true)).Every
      (fun p => FiniteNumber p.1 ∧ FiniteNumber p.2) := by
    intro k
    refine Every.filterMap (P := fun p => NullOrFinite p.1 ∧ NullOrFinite p.2)
      (hchanges.window (fun rows i r hrows hr =>
        ⟨hr.logReturn 1, .lag (fun x hx => (hrows x hx).logReturn 1) k i⟩)) (fun _ p q hp hq => ?_)
    obtain ⟨x, y, hx, hy, rfl⟩ := Option.map₂_eq_some_iff.mp hq
    exact ⟨hp.1 x hx, hp.2 y hy⟩
  fun_cases helperColumn s P table preserveRawNulls true suffix
  -- the metrics of the bars
  · exact (hfinite _).map (fun _ hr => wellTyped_numberCell rfl (.of_number hr))
  · exact (hrolling _).map (fun _ hr => wellTyped_numberCell rfl hr)
  · exact (hfinite _).map (fun _ hr => wellTyped_numberCell rfl (.of_number hr))
  · exact (hrolling _).map (fun _ hr => wellTyped_numberCell rfl hr)
  · exact (hfinite _).map (fun _ hr => wellTyped_numberCell rfl (.of_number hr))
  · exact (hrolling _).map (fun _ hr => wellTyped_numberCell rfl hr)
  -- the index over five rows
  · exact hrsi.map (fun _ hr => wellTyped_numberCell rfl hr.1)
  · exact hrsi.map (fun _ hr => wellTyped_numberCell rfl hr.2)
  -- the statistics
  · exact (every_zscoreCte h hlevels _).map (fun _ hr => wellTyped_numberCell rfl hr)
  · exact (every_zscoreCte h hvolatility _).map (fun _ hr => wellTyped_numberCell rfl hr)
  · exact (every_returnAutocorrCte (hcorr rfl) (hpairs _) _).map (fun _ hr => wellTyped_numberCell rfl hr)
  -- the line and the histogram
  · exact hmacd.map (fun _ hr => wellTyped_numberCell rfl (hr _))
  · exact hmacd.map (fun _ hr => wellTyped_numberCell rfl (hr _))
  · exact hmacd.map (fun _ hr => wellTyped_numberCell rfl (hr _))
  -- the oscillator
  · exact (every_stochasticFeaturesCte _).map (fun _ hr => hr)
  · exact (every_stochasticFeaturesCte _).map (fun _ hr => hr)
  · exact (every_stochasticFeaturesCte _).map (fun _ hr => hr)
  · exact (every_stochasticFeaturesCte _).map (fun _ hr => hr)
  · exact (every_stochasticFeaturesCte _).map (fun _ hr => hr)
  · exact (every_stochasticFeaturesCte _).map (fun _ hr => hr)
  · exact (every_stochasticFeaturesCte _).map (fun _ hr => hr)
  · exact (every_stochasticFeaturesCte _).map (fun _ hr => hr)
  -- the averages
  · exact hema.map (fun _ hr => wellTyped_numberCell rfl (hr _))
  · exact hema.map (fun _ hr => wellTyped_numberCell rfl (hr _))
  · exact hema.map (fun _ hr => wellTyped_numberCell rfl (hr _))
  · exact hema.map (fun _ hr => wellTyped_numberCell rfl (hr _))
  · exact hema.map (fun _ hr => wellTyped_numberCell rfl (hr _))
  · exact hema.map (fun _ hr => wellTyped_numberCell rfl (hr _))
  · intro t a hrow
    cases hrow

/-- **A cell of the series** is of the type its name calls for. -/
theorem wellTyped_featureCell (hP : FiniteProjection P)
    (htable : (table.map RawRow.level).Every NullOrFinite) (t : Timestamp)
    {suffix : FeatureSuffix} (hcorr : suffix.isAutocorr = true → CorrelationsFinite V) :
    WellTyped (.own s suffix) (featureCell s P table preserveRawNulls true t suffix) := by
  intro cell hcell
  rw [featureCell_eq] at hcell
  obtain ⟨base, hbase, hcell⟩ := Option.bind_eq_some_iff.mp hcell
  rcases Option.or_eq_some_iff.mp hcell with hhelper | ⟨-, hcolumn⟩
  · exact every_helperColumn h hP htable hcorr t _ (Option.join_eq_some_iff.mp hhelper) cell rfl
  · have hnull := every_seriesBase h hP hcorr t base hbase
    by_cases hboolean : (Feature.own s suffix).isBoolean = true
    · -- the base has no column under the name of a flag
      have hnone : base.column suffix = none := by
        rw [seriesBase, featureBaseCte, get?_window] at hbase
        obtain ⟨r, -, rfl⟩ := Option.map_eq_some_iff.mp hbase
        unfold Feature.isBoolean at hboolean
        split at hboolean
        · rename_i hname
          obtain ⟨-, rfl⟩ := Feature.own.inj hname
          rfl
        · rename_i hname
          obtain ⟨-, rfl⟩ := Feature.own.inj hname
          rfl
        · cases hboolean
      rw [hnone] at hcolumn
      cases hcolumn
    · exact wellTyped_numberCell (by rwa [Bool.not_eq_true] at hboolean) hnull cell hcolumn

end Relations

/-! ## The wide views -/

section Views

/-- **Tables that hold finite values**, or null ones, as the synchronization writes them: it
takes no others from a frame, and has no digest for a row with another one. -/
def FiniteTables (D : RawTables V) : Prop := ∀ t c, NullOrFinite (D.cell t c)

variable {D : RawTables V}

/-- It is enough that every row of a table does. -/
theorem finiteTables_of_rows (h : ∀ s t row, (D s).get? t = some row →
    NullOrFinite row.level ∧ ∀ f, NullOrFinite (row.field f)) : FiniteTables D := by
  intro t c x hx
  cases c with
  | level s =>
    obtain ⟨row, hrow, hlevel⟩ := Option.bind_eq_some_iff.mp hx
    exact (h s t row hrow).1 x hlevel
  | bar s _ f =>
    obtain ⟨row, hrow, hfield⟩ := Option.bind_eq_some_iff.mp hx
    exact (h s t row hrow).2 f x hfield

omit [SqlDouble V] in
/-- A table shows in a projection what it holds, or nothing. -/
theorem cell_of_joinedAt {tables : List Series} {t : Timestamp} {r : JoinedRow V}
    (hr : joinedAt D tables t = some r) (c : GoldColumn) :
    r.toWide c = D.cell t c ∨ r.toWide c = none := by
  rw [joinedAt] at hr
  split_ifs at hr
  · obtain rfl := Option.some.inj hr
    cases c with
    | level s =>
      by_cases hs : s ∈ tables
      · exact .inl (by simp only [JoinedRow.toWide, if_pos hs, RawTables.cell])
      · exact .inr (by simp only [JoinedRow.toWide, if_neg hs, Option.bind_none])
    | bar s _ f =>
      by_cases hs : s ∈ tables
      · exact .inl (by simp only [JoinedRow.toWide, if_pos hs, RawTables.cell])
      · exact .inr (by simp only [JoinedRow.toWide, if_neg hs, Option.bind_none])

theorem FiniteTables.projection (hD : FiniteTables D) (tables : List Series) :
    FiniteProjection (rawFeatureProjection tables D) := by
  intro t row hrow c x hx
  rw [get?_rawFeatureProjection] at hrow
  obtain ⟨r, hr, rfl⟩ := Option.map_eq_some_iff.mp hrow
  rcases cell_of_joinedAt hr c with hcell | hcell
  · exact hD t c x (hcell.symm.trans hx)
  · rw [hcell] at hx
    cases hx

theorem FiniteTables.levels (hD : FiniteTables D) (s : Series) :
    ((D s).map RawRow.level).Every NullOrFinite := by
  intro t level hlevel x hx
  rw [get?_map] at hlevel
  refine hD t (.level s) x ?_
  obtain ⟨row, hrow, rfl⟩ := Option.map_eq_some_iff.mp hlevel
  show ((D s).get? t).bind RawRow.level = some x
  rw [hrow, Option.bind_some, hx]

theorem FiniteProjection.wideCell {P : Relation (WideRow V)} (hP : FiniteProjection P)
    (t : Timestamp) (c : GoldColumn) : NullOrFinite (wideCell P t c) := by
  intro x hx
  obtain ⟨row, hrow, hx⟩ := Option.bind_eq_some_iff.mp hx
  exact hP t row hrow c x hx

/-- The expressions over several series. -/
theorem nullOrFinite_crossExpression (h : ServerArithmetic V) {raw : WideRow V}
    (hraw : ∀ c, NullOrFinite (raw c)) (c : CrossFeature) :
    NullOrFinite (crossExpression true raw c) := by
  cases c with
  | vix9dVixRatio => exact .caseWhen _ (.div h (hraw _) (hraw _))
  | vixVix3mRatio => exact .caseWhen _ (.div h (hraw _) (hraw _))
  | vix9dVix3mLogRatio => exact .caseWhen _ (.ln h (.div h (hraw _) (hraw _)))
  | vix3mMinusVix => exact .sub h (hraw _) (hraw _)
  | vix6mMinusVix => exact .sub h (hraw _) (hraw _)
  | vix1yMinusVix => exact .sub h (hraw _) (hraw _)
  | us10yMinusUs2y => exact .sub h (hraw _) (hraw _)

/-- **The cells of a wide view** are of the types their names call for, if the tables hold
finite values: those that are no autocorrelations, and all of them where a correlation of
finite values is finite. -/
theorem wellTyped_viewCell (h : ServerArithmetic V) (hD : FiniteTables D) (tables : List Series)
    (preserveRawNulls : Bool) (t : Timestamp) {name : Feature}
    (hcorr : name.isAutocorr = true → CorrelationsFinite V) :
    WellTyped name (viewCell (macroFeaturesView (rawFeatureProjection tables D) D preserveRawNulls
      true) t name) := by
  have hP := hD.projection tables
  cases name with
  | own s suffix =>
    by_cases hlog : suffix = .single .logLevel
    · subst hlog
      rw [viewCell_logLevel]
      exact wellTyped_numberCell rfl (.caseWhen _ (.ln h (hP.wideCell t _)))
    · rw [viewCell_own true t s hlog]
      exact wellTyped_featureCell h hP (hD.levels s) t hcorr
  | cross c =>
    rw [viewCell_cross]
    exact wellTyped_numberCell rfl (nullOrFinite_crossExpression h (hP.wideCell t) c)

end Views
