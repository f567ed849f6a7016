import MacroLoader.FeatureMacd

/-!
# The metrics of the bars

Three metrics are published of a bar: its range, its return and the gap since the
close before it, each a difference over a positive denominator, and each with the
mean of the last five. They are defined on any sequence of bars: an operand that is
missing or not finite leaves a metric out, and a metric that is left out counts for
no mean.

The query computes all of them like that. But it publishes what it has computed at
the rows that have a level, and the level of a bar is its close. A range and a return
have the close as an operand. A gap has not, so that a gap into a bar without a close
is computed, and counted in the means, and not published (`bar_metrics_iff`).

The operations of the server either have a finite result of finite operands or raise
an error, so that nothing is published (`FiniteArithmetic`).
-/

open KeyedTable

variable {V : Type} [SqlDouble V]

/-! ## What is documented -/

/-- A bar, with fields that may be missing. -/
abbrev Bar (V : Type) := OhlcField → Option V

/-- The three metrics. -/
inductive BarFamily
  | highLowRange | intradayReturn | overnightGap
  deriving DecidableEq

/-- The suffix of a metric over some observations. -/
def BarFamily.suffix (observations : ℕ) : BarFamily → FeatureSuffix
  | highLowRange => .windowed .highLowRange observations
  | intradayReturn => .windowed .intradayReturn observations
  | overnightGap => .windowed .overnightGap observations

/-- `(a - b) / d`, where the operands are finite and the denominator is positive. -/
def documentedRatio (a b d : Option V) : Option V :=
  if Sql.finite a && Sql.finite b && Sql.finite d && Sql.gt d (Sql.lit 0) then
    Sql.div (Sql.sub a b) d
  else none

/-- The most recent finite close of some bars, newest first. -/
def lastFiniteClose (bars : List (Bar V)) : Option V :=
  (bars.filterMap (fun bar => Sql.caseWhen (Sql.finite (bar .close)) (bar .close))).head?

/-- **The metrics of a bar**, given the earlier ones. -/
def documentedMetric : BarFamily → Bar V → List (Bar V) → Option V
  | .highLowRange, bar, _ => documentedRatio (bar .high) (bar .low) (bar .close)
  | .intradayReturn, bar, _ => documentedRatio (bar .close) (bar .open_) (bar .open_)
  | .overnightGap, bar, rest =>
    documentedRatio (bar .open_) (lastFiniteClose rest) (lastFiniteClose rest)

/-- **The mean of the last five values** of a metric, up to a bar that has one. -/
def documentedMean (family : BarFamily) (bar : Bar V) (rest : List (Bar V)) : Option V :=
  let values := (alongHistory (documentedMetric family) (bar :: rest)).filterMap id
  if (documentedMetric family bar rest).isSome && decide (5 ≤ values.length) then
    SqlDouble.avg (values.take 5).reverse
  else none

/-- The bars of a series. -/
def seriesBars {s : Series} (table : KeyedTable Timestamp (RawRow V s.nativeShape)) :
    Relation (Bar V) := table.map (fun row => row.field)

/-- **The metrics are published as documented**: at every timestamp a metric is what it
is of the bar, and nothing where there is none. -/
def BarMetricsAsDocumented (s : Series) (tables : List Series) (D : RawTables V)
    (safeLogInputs : Bool) : Prop :=
  ∀ (t : Timestamp) (family : BarFamily),
    let published := fun observations => featureCell s (rawFeatureProjection tables D) (D s) true
      safeLogInputs t (family.suffix observations)
    let bars := seriesBars (D s)
    published 1
        = (bars.get? t).bind (fun bar => numberCell (documentedMetric family bar (bars.earlier t)))
      ∧ published 5
        = (bars.get? t).bind (fun bar => numberCell (documentedMean family bar (bars.earlier t)))

/-- **There is a gap into a bar**: it has a finite open, and the finite close before it
is positive. -/
def GapInto (bar : Bar V) (rest : List (Bar V)) : Prop :=
  Sql.finite (bar .open_) = true ∧ Sql.gt (lastFiniteClose rest) (Sql.lit 0) = true

/-- **The arithmetic of the server**: with finite operands an operation has a finite
result, or it raises an error and there is no result at all. -/
structure FiniteArithmetic (V : Type) [SqlDouble V] : Prop where
  sub : ∀ a b : V, Sql.finite (some a) = true → Sql.finite (some b) = true →
    Sql.finite (some (SqlDouble.sub a b)) = true
  div : ∀ a b : V, Sql.finite (some a) = true → Sql.finite (some b) = true →
    Sql.gt (some b) (Sql.lit 0) = true → Sql.finite (some (SqlDouble.div a b)) = true
  avg : ∀ l : List V, l ≠ [] → (∀ x ∈ l, Sql.finite (some x) = true) →
    Sql.finite (SqlDouble.avg l) = true

/-! ## Bars in the projection -/

omit [SqlDouble V] in
/-- A selection that reads the bars of a series reads them off its table. -/
theorem filterMap_seriesBars {W : Type} {s : Series} {tables : List Series} (hs : s ∈ tables)
    (hshape : s.nativeShape = .ohlc) (D : RawTables V) {g : Bar V → Option W}
    (hnull : g (fun _ => none) = none) :
    (rawFeatureProjection tables D).filterMap (fun _ row => g (fun f => barCell s f row))
      = (seriesBars (D s)).filterMap (fun _ => g) := by
  ext t : 1
  have hcell : ∀ f, ((rawFeatureProjection tables D).get? t).bind (barCell s f)
      = ((D s).get? t).bind (fun row => row.field f) := by
    intro f
    have hbar := wideCell_rawFeatureProjection (D := D) hs t (c := .bar s hshape f) rfl
    have hbarCell : barCell (V := V) s f = fun row => row (.bar s hshape f) := by
      funext row
      rw [barCell, dif_pos hshape]
    rw [hbarCell]
    exact hbar
  rw [get?_filterMap, get?_filterMap, seriesBars, get?_map]
  have hfields : ∀ b : Bar V, (∀ f, b f = none) → g b = none := fun b hb => by
    rw [show b = fun _ => none from funext hb, hnull]
  cases hwide : (rawFeatureProjection tables D).get? t with
  | none =>
    cases hraw : (D s).get? t with
    | none => rfl
    | some row =>
      rw [hwide, hraw] at hcell
      exact (hfields row.field (fun f => (hcell f).symm)).symm
  | some wide =>
    cases hraw : (D s).get? t with
    | none =>
      rw [hwide, hraw] at hcell
      exact hfields _ hcell
    | some row =>
      rw [hwide, hraw] at hcell
      exact congrArg g (funext hcell)

/-! ## The valid metrics -/

theorem finite_documentedRatio (h : FiniteArithmetic V) {a b d : Option V} {x : V}
    (hx : documentedRatio a b d = some x) : Sql.finite (some x) = true := by
  unfold documentedRatio at hx
  split_ifs at hx with hfinite
  simp only [Bool.and_eq_true] at hfinite
  obtain ⟨⟨⟨ha, hb⟩, hd⟩, hpositive⟩ := hfinite
  cases a with
  | none => cases ha
  | some a =>
    cases b with
    | none => cases hb
    | some b =>
      cases d with
      | none => cases hd
      | some d =>
        obtain rfl := Option.some.inj hx
        exact h.div _ _ (h.sub a b ha hb) hd hpositive

/-- The finite close that is looked up is finite. -/
theorem finite_lastFiniteClose {bars : List (Bar V)} {c : V} (h : lastFiniteClose bars = some c) :
    Sql.finite (some c) = true := by
  obtain ⟨bar, -, hbar⟩ := List.mem_filterMap.mp (List.mem_of_mem_head? h)
  unfold Sql.caseWhen at hbar
  split_ifs at hbar with hfinite
  rwa [hbar] at hfinite

theorem finite_documentedMetric (h : FiniteArithmetic V) {family : BarFamily} {bar : Bar V}
    {rest : List (Bar V)} {x : V} (hx : documentedMetric family bar rest = some x) :
    Sql.finite (some x) = true := by
  cases family <;> exact finite_documentedRatio h hx

/-- The relation of the valid metrics of a family, in the query. -/
def validMetricCte (s : Series) (projection : Relation (WideRow V)) : BarFamily → Relation V
  | .highLowRange => finiteCte (barMetricCte s .highLowRange projection)
  | .intradayReturn => finiteCte (barMetricCte s .intradayReturn projection)
  | .overnightGap => finiteCte (overnightValidCte (overnightSourceCte s projection))

/-- A value that is finite anyway passes the check that it is. -/
theorem caseWhen_finite {x : Option V} (h : ∀ v, x = some v → Sql.finite (some v) = true) :
    Sql.caseWhen (Sql.finite x) x = x := by
  cases x with
  | none => rfl
  | some v => rw [Sql.caseWhen, if_pos (h v rfl)]

section Valid

variable {s : Series} {tables : List Series} {D : RawTables V}

/-- A metric of one bar alone. -/
theorem validMetric_of_bar (h : FiniteArithmetic V) (hs : s ∈ tables)
    (hshape : s.nativeShape = .ohlc) {metric : BarMetric} {family : BarFamily}
    (hmetric : ∀ row : WideRow V,
      barMetric s metric row = documentedMetric family (fun f => barCell s f row) [])
    (hrest : ∀ (bar : Bar V) rest, documentedMetric family bar rest = documentedMetric family bar [])
    (hnull : documentedMetric family (fun _ => none : Bar V) [] = none) :
    finiteCte (barMetricCte s metric (rawFeatureProjection tables D))
      = ((seriesBars (D s)).along (documentedMetric family)).filterMap (fun _ m => m) := by
  have hselect : finiteCte (barMetricCte s metric (rawFeatureProjection tables D))
      = (rawFeatureProjection tables D).filterMap
        (fun _ row => documentedMetric family (fun f => barCell s f row) []) := by
    ext t : 1
    rw [finiteCte, barMetricCte, get?_filterMap, get?_map, get?_filterMap, Option.bind_map]
    refine congrArg (Option.bind _) (funext (fun row => ?_))
    show Sql.caseWhen (Sql.finite (barMetric s metric row)) (barMetric s metric row) = _
    rw [hmetric, caseWhen_finite (fun v hv => finite_documentedMetric h hv)]
  rw [hselect, filterMap_seriesBars hs hshape D (g := fun bar => documentedMetric family bar []) hnull]
  ext t : 1
  rw [get?_filterMap, get?_filterMap, get?_along, Option.bind_map]
  exact congrArg (Option.bind _) (funext (fun bar => (hrest bar _).symm))

/-- The finite values of a field. -/
theorem finiteFieldCte_eq (hs : s ∈ tables) (hshape : s.nativeShape = .ohlc) (f : OhlcField) :
    finiteFieldCte s f (rawFeatureProjection tables D)
      = (seriesBars (D s)).filterMap (fun _ bar => Sql.caseWhen (Sql.finite (bar f)) (bar f)) :=
  filterMap_seriesBars hs hshape D (g := fun bar => Sql.caseWhen (Sql.finite (bar f)) (bar f)) rfl

/-- A gap, step by step as in the query. -/
theorem gapCell_eq (h : FiniteArithmetic V) (open_ : Option V) {previous : Option V}
    (hprevious : ∀ c, previous = some c → Sql.finite (some c) = true) :
    (((Sql.caseWhen (Sql.finite open_) open_).map (fun x => (x, previous))).bind (fun r =>
        Sql.caseWhen (Sql.gt r.2 (Sql.lit 0) && Sql.finite (some r.1))
          (some (Sql.div (Sql.sub (some r.1) r.2) r.2)))).bind
      (fun value => Sql.caseWhen (Sql.finite value) value)
      = documentedRatio open_ previous previous := by
  have hratio : Sql.caseWhen (Sql.finite (documentedRatio open_ previous previous))
      (documentedRatio open_ previous previous) = documentedRatio open_ previous previous :=
    caseWhen_finite (fun v hv => finite_documentedRatio h hv)
  rw [← hratio]
  cases hopen : Sql.finite open_ with
  | false =>
    rw [documentedRatio, hopen]
    rfl
  | true =>
    cases open_ with
    | none => cases hopen
    | some x =>
      cases previous with
      | none =>
        rw [documentedRatio, hopen]
        rfl
      | some c =>
        rw [documentedRatio, hopen, hprevious c rfl, Sql.caseWhen, if_pos rfl, Option.map_some,
          Option.bind_some, hopen]
        cases Sql.gt (some c) (Sql.lit 0) <;> rfl

/-- **The valid metrics of the query** are those of the bars. -/
theorem validMetricCte_eq (h : FiniteArithmetic V) (hs : s ∈ tables)
    (hshape : s.nativeShape = .ohlc) (family : BarFamily) :
    validMetricCte s (rawFeatureProjection tables D) family
      = ((seriesBars (D s)).along (documentedMetric family)).filterMap (fun _ m => m) := by
  cases family with
  | highLowRange =>
    exact validMetric_of_bar h hs hshape (fun _ => rfl) (fun _ _ => rfl) rfl
  | intradayReturn =>
    refine validMetric_of_bar h hs hshape (fun row => ?_) (fun _ _ => rfl) rfl
    rw [barMetric, documentedMetric, documentedRatio, Sql.caseWhen]
    simp only [Bool.and_self_right]
  | overnightGap =>
    ext t : 1
    have hsource : (overnightSourceCte s (rawFeatureProjection tables D)).get? t
        = ((seriesBars (D s)).get? t).bind (fun bar =>
          (Sql.caseWhen (Sql.finite (bar .open_)) (bar .open_)).map (fun x =>
            (x, lastFiniteClose ((seriesBars (D s)).earlier t)))) := by
      rw [overnightSourceCte, finiteFieldCte_eq hs hshape, finiteFieldCte_eq hs hshape,
        lateralJoin, get?_filterMap, get?_filterMap, lastBefore_eq, earlier_filterMap]
      cases (seriesBars (D s)).get? t with
      | none => rfl
      | some bar =>
        rw [Option.bind_some, Option.bind_some, Option.map_eq_bind]
        rfl
    rw [validMetricCte, finiteCte, overnightValidCte, get?_filterMap, get?_filterMap, hsource,
      get?_filterMap, get?_along]
    cases (seriesBars (D s)).get? t with
    | none => rfl
    | some bar =>
      rw [Option.bind_some]
      exact gapCell_eq h _ (fun c hc => finite_lastFiniteClose hc)

end Valid

/-! ## What is published -/

section Published

variable {s : Series} {tables : List Series} {D : RawTables V} {t : Timestamp} {family : BarFamily}

/-- **The mean of the query** is the documented one, at the rows that have a metric. -/
theorem rollingCte_get? (h : FiniteArithmetic V) {valid : Relation V} {bars : Relation (Bar V)}
    (hvalid : valid = (bars.along (documentedMetric family)).filterMap (fun _ m => m))
    {bar : Bar V} (hbar : bars.get? t = some bar) {x : V}
    (hx : documentedMetric family bar (bars.earlier t) = some x) :
    (rollingCte valid).get? t = some (documentedMean family bar (bars.earlier t)) := by
  have hrow : valid.get? t = some x := by
    rw [hvalid, get?_filterMap, get?_along, hbar]
    exact hx
  -- the valid metrics up to the row are the ones that are documented
  have hhistory : valid.history t
      = (alongHistory (documentedMetric family) (bar :: bars.earlier t)).filterMap id := by
    rw [hvalid, history_filterMap, history_along, history_of_get? hbar]
    rfl
  have hfinite : ∀ v ∈ valid.history t, Sql.finite (some v) = true := by
    intro v hv
    rw [hhistory] at hv
    obtain ⟨m, hm, rfl⟩ := List.mem_filterMap.mp hv
    obtain ⟨i, hi⟩ := List.getElem?_of_mem hm
    rw [getElem?_alongHistory_eq] at hi
    obtain ⟨b, -, hb⟩ := Option.map_eq_some_iff.mp hi
    exact finite_documentedMetric h hb
  rw [rollingCte, get?_window, hrow, Option.map_some]
  dsimp only
  rw [trailing_rank hrow (by norm_num), Sql.avg, Sql.nonNull, List.filterMap_some, documentedMean,
    hx, ← hhistory, Option.isSome_some, Bool.true_and, List.length_reverse, length_take_beq]
  cases hlong : decide (5 ≤ (valid.history t).length) with
  | false => rfl
  | true =>
    have hmean : Sql.finite (SqlDouble.avg ((valid.history t).take 5).reverse) = true := by
      refine h.avg _ ?_ (fun v hv => hfinite v (List.mem_of_mem_take (List.mem_reverse.mp hv)))
      rw [Ne, List.reverse_eq_nil_iff, List.take_eq_nil_iff]
      rintro (hfive | hnil)
      · cases hfive
      · rw [hnil] at hlong
        cases hlong
    rw [hmean]
    rfl

/-- The level of a bar is its close. -/
theorem levelCte_seriesBars (hs : s ∈ tables) (hshape : s.nativeShape = .ohlc) :
    (levelCte s (rawFeatureProjection tables D)).get? t
      = ((seriesBars (D s)).get? t).bind (fun bar => bar .close) := by
  have hclose : ∀ {shape : NativeShape}, shape = .ohlc → ∀ row : RawRow V shape,
      row.level = row.field .close := by
    rintro shape rfl row
    cases row
    rfl
  rw [levelCte_rawFeatureProjection hs, get?_filterMap, seriesBars, get?_map, Option.bind_map]
  exact congrArg (Option.bind _) (funext (hclose hshape))

/-- **What is published of the metrics**: they are what is documented, at the bars that
have a close. -/
theorem featureCell_metric (h : FiniteArithmetic V) (hs : s ∈ tables)
    (hshape : s.nativeShape = .ohlc) (safeLogInputs : Bool) (family : BarFamily) {bar : Bar V}
    (hbar : (seriesBars (D s)).get? t = some bar) :
    let published := fun observations => featureCell s (rawFeatureProjection tables D) (D s) true
      safeLogInputs t (family.suffix observations)
    let earlier := (seriesBars (D s)).earlier t
    published 1
        = (if (bar .close).isSome then numberCell (documentedMetric family bar earlier) else none)
      ∧ published 5
        = (if (bar .close).isSome then numberCell (documentedMean family bar earlier) else none) := by
  intro published earlier
  have hvalid := validMetricCte_eq (D := D) h hs hshape family
  have hlevel : ((levelCte s (rawFeatureProjection tables D)).get? t).isSome = (bar .close).isSome := by
    rw [levelCte_seriesBars hs hshape, hbar]
    rfl
  have hone : published 1 = if (bar .close).isSome then
      (((validMetricCte s (rawFeatureProjection tables D) family).map
        (fun v => numberCell (some v))).get? t).join else none := by
    rw [← hlevel]
    cases family <;> exact featureCell_helper _ _ _ _ _ (fun _ _ _ => rfl) t
  have hfive : published 5 = if (bar .close).isSome then
      (((rollingCte (validMetricCte s (rawFeatureProjection tables D) family)).map
        numberCell).get? t).join else none := by
    rw [← hlevel]
    cases family <;> exact featureCell_helper _ _ _ _ _ (fun _ _ _ => rfl) t
  have hmetric : (validMetricCte s (rawFeatureProjection tables D) family).get? t
      = documentedMetric family bar earlier := by
    rw [hvalid, get?_filterMap, get?_along, hbar]
    rfl
  rw [hone, hfive, get?_map, get?_map, hmetric]
  cases hx : documentedMetric family bar earlier with
  | none =>
    -- where there is no metric there is no mean either
    have hmean : documentedMean family bar earlier = none := by
      rw [documentedMean, hx]
      rfl
    rw [rollingCte, get?_window, hmetric, hx, hmean]
    exact ⟨rfl, rfl⟩
  | some x =>
    rw [rollingCte_get? h hvalid hbar hx]
    exact ⟨rfl, rfl⟩

theorem finite_eq_false {x : Option V} (h : x = none) : Sql.finite x = false := by
  rw [h]
  rfl

/-- There is a gap metric exactly if there is a gap. -/
theorem isSome_documentedMetric_gap {bar : Bar V} {rest : List (Bar V)} :
    (documentedMetric .overnightGap bar rest).isSome = true ↔ GapInto bar rest := by
  rw [documentedMetric, documentedRatio, GapInto]
  cases hopen : Sql.finite (bar .open_) with
  | false => simp
  | true =>
    cases hclose : lastFiniteClose rest with
    | none => simp [Sql.gt, Sql.finite]
    | some c =>
      obtain ⟨x, hx⟩ : ∃ x, bar .open_ = some x := Option.isSome_iff_exists.mp (by
        cases hfield : bar .open_ with
        | none => rw [finite_eq_false hfield] at hopen; cases hopen
        | some x => rfl)
      rw [finite_lastFiniteClose hclose, hx]
      cases Sql.gt (some c) (Sql.lit 0) <;> simp [Sql.sub, Sql.div]

/-- A bar without a close has a metric only if there is a gap into it. -/
theorem documentedMetric_eq_none {bar : Bar V} {rest : List (Bar V)} (hclose : bar .close = none)
    (hgap : ¬ GapInto bar rest) : documentedMetric family bar rest = none := by
  cases family with
  | highLowRange =>
    rw [documentedMetric, documentedRatio, finite_eq_false hclose, Bool.and_false]
    rfl
  | intradayReturn =>
    rw [documentedMetric, documentedRatio, finite_eq_false hclose]
    rfl
  | overnightGap =>
    rw [← isSome_documentedMetric_gap, Bool.not_eq_true, Option.isSome_eq_false_iff,
      Option.isNone_iff_eq_none] at hgap
    exact hgap

/-- **The metrics are published as documented exactly if no gap leads into a bar without
a close.** -/
theorem bar_metrics_iff (h : FiniteArithmetic V) (hs : s ∈ tables)
    (hshape : s.nativeShape = .ohlc) (D : RawTables V) (safeLogInputs : Bool) :
    BarMetricsAsDocumented s tables D safeLogInputs
      ↔ ∀ t bar, (seriesBars (D s)).get? t = some bar →
          GapInto bar ((seriesBars (D s)).earlier t) → (bar .close).isSome = true := by
  constructor
  · intro hdocumented t bar hbar hgap
    have hpublished := (hdocumented t .overnightGap).1
    have hmetric := (featureCell_metric h hs hshape safeLogInputs .overnightGap hbar).1
    dsimp only at hpublished hmetric
    rw [hmetric, hbar, Option.bind_some] at hpublished
    obtain ⟨x, hx⟩ := Option.isSome_iff_exists.mp (isSome_documentedMetric_gap.mpr hgap)
    rw [hx] at hpublished
    by_contra hclose
    rw [if_neg hclose] at hpublished
    cases hpublished
  · intro hclosed t family
    dsimp only
    cases hbar : (seriesBars (D s)).get? t with
    | none =>
      have hlevel : (levelCte s (rawFeatureProjection tables D)).get? t = none := by
        rw [levelCte_seriesBars hs hshape, hbar]
        rfl
      have hcell : ∀ observations ∈ [1, 5], featureCell s (rawFeatureProjection tables D) (D s) true
          safeLogInputs t (family.suffix observations) = none := by
        intro observations hobservations
        fin_cases hobservations <;> cases family <;>
          exact (featureCell_helper _ _ _ _ _ (fun _ _ _ => rfl) t).trans
            (by rw [hlevel]; rfl)
      exact ⟨hcell 1 (by simp), hcell 5 (by simp)⟩
    | some bar =>
      obtain ⟨hone, hfive⟩ := featureCell_metric h hs hshape safeLogInputs family hbar
      dsimp only at hone hfive
      rw [hone, hfive, Option.bind_some, Option.bind_some]
      cases hclose : bar .close with
      | some c => exact ⟨rfl, rfl⟩
      | none =>
        have hgap : ¬ GapInto bar ((seriesBars (D s)).earlier t) := by
          intro hgap
          have hsome := hclosed t bar hbar hgap
          rw [hclose] at hsome
          cases hsome
        rw [documentedMean, documentedMetric_eq_none hclose hgap]
        exact ⟨rfl, rfl⟩

end Published

/-! ## A gap into a bar without a close -/

/-- Exact arithmetic is such an arithmetic. -/
theorem finiteArithmetic_exact : FiniteArithmetic ExactDouble where
  sub a b ha hb := by
    obtain ⟨p, rfl⟩ := finite_iff_rat.mp ha
    obtain ⟨q, rfl⟩ := finite_iff_rat.mp hb
    rfl
  div a b ha hb _ := by
    obtain ⟨p, rfl⟩ := finite_iff_rat.mp ha
    obtain ⟨q, rfl⟩ := finite_iff_rat.mp hb
    rfl
  avg l hl h := by
    obtain ⟨values, rfl⟩ : l ∈ Set.range (List.map ExactDouble.rat) := by
      rw [Set.range_list_map]
      exact fun x hx => (finite_iff_rat.mp (h x hx)).imp (fun _ => Eq.symm)
    rw [avg_exact (by simpa using hl)]
    rfl

/-- A bar of numbers. -/
def exactBar (open_ high low close : Option ℚ) : Bar ExactDouble
  | .open_ => exactCell open_
  | .high => exactCell high
  | .low => exactCell low
  | .close => exactCell close

/-- Tables in which every series has the given bars. -/
def barTables (bars : Relation (Bar ExactDouble)) : RawTables ExactDouble :=
  fun s => bars.map (fun bar => RawRow.ofCells s.nativeShape (bar .close) bar)

theorem seriesBars_barTables {s : Series} (hshape : s.nativeShape = .ohlc)
    (bars : Relation (Bar ExactDouble)) : seriesBars (barTables bars s) = bars := by
  ext t : 1
  rw [seriesBars, barTables, get?_map, get?_map, Option.map_map]
  refine (congrFun (congrArg Option.map (funext (fun bar => ?_))) _).trans (congrFun Option.map_id _)
  funext f
  show (RawRow.ofCells s.nativeShape (bar .close) bar).field f = bar f
  rw [RawRow.field_ofCells, if_pos hshape]

/-- Two bars of which the second has an open and a close, if it is complete. -/
def twoBars (close : Option ℚ) : Relation (Bar ExactDouble) :=
  KeyedTable.ofRows
    [(0, exactBar (some 100) (some 110) (some 90) (some 100)),
      (1, exactBar (some 105) (some 110) (some 90) close)]

/-- The gap into a bar without a close is not published. -/
theorem gap_without_close :
    ¬ BarMetricsAsDocumented .vix [.vix] (barTables (twoBars none)) true := by
  intro hdocumented
  have hpublished := (hdocumented 1 .overnightGap).1
  dsimp only at hpublished
  have hbar : (seriesBars (barTables (twoBars none) .vix)).get? 1
      = some (exactBar (some 105) (some 110) (some 90) none) := by
    rw [seriesBars_barTables rfl]
    rfl
  have hcell := (featureCell_metric finiteArithmetic_exact (List.mem_singleton_self Series.vix) rfl
    true .overnightGap hbar).1
  dsimp only at hcell
  rw [hcell, hbar, seriesBars_barTables rfl] at hpublished
  have hgap : documentedMetric .overnightGap (exactBar (some 105) (some 110) (some 90) none)
      ((twoBars none).earlier 1) = some (.rat (1 / 20)) := by decide +kernel
  rw [Option.bind_some, hgap] at hpublished
  exact nomatch hpublished

/-- With the close, everything is. -/
theorem bar_metrics_iff_closed :
    BarMetricsAsDocumented .vix [.vix] (barTables (twoBars (some 103))) true := by
  refine (bar_metrics_iff finiteArithmetic_exact (List.mem_singleton_self _) rfl _ true).mpr
    (fun t bar hbar _ => ?_)
  rw [seriesBars_barTables rfl, twoBars, get?_ofRows_eq_some_iff (by decide)] at hbar
  simp only [List.mem_cons, Prod.mk.injEq, List.not_mem_nil, or_false] at hbar
  rcases hbar with ⟨-, rfl⟩ | ⟨-, rfl⟩ <;> rfl
