import MacroLoader.FeatureIsolation
import MacroLoader.SyncProgress

/-!
# What the digests say about the features

Drift of the raw tables is looked for in the digests of the consumer rows: the
wide rows that have a value. These determine every cell of every table. What
they do not determine is whether a table holds a row whose cells are all null,
for the wide row it projects to is left out, or has the values of other series
in it and is the same with and without the null row.

The recurrences over a raw table do notice such a row: it resets them. So two
states of the tables with the same digests have the same features if they hold
the same all-null rows (`macroFeatures_congr_of_digests`), and a table with one
more null row in it can have other features than the digests vouch for.
-/

open KeyedTable

/-- How the doubles of the database are values of the query, the two zeros being
one number. -/
class OfFloat64 (V : Type) where
  ofFloat : Float64 → V
  ofFloat_negZero : ofFloat .negZero = ofFloat .zero

variable {sha256 : Bytes → Sha256Hex}

/-- The number a double is. -/
def ExactDouble.ofFloat64 (x : Float64) : ExactDouble :=
  if x.isNaN then nan
  else if x.isFinite then
    let exponent := if x.exponent = 0 then 1 else x.exponent.toNat
    let significand : ℚ :=
      if x.exponent = 0 then x.fraction.toNat else 2 ^ 52 + x.fraction.toNat
    rat ((if x.sign then -1 else 1) * significand * 2 ^ exponent / 2 ^ 1075)
  else if x.sign then negInfinity else infinity

instance : OfFloat64 ExactDouble where
  ofFloat := ExactDouble.ofFloat64
  ofFloat_negZero := by decide +kernel

example : ExactDouble.ofFloat64 Float64.one = .rat 1 := by decide +kernel

/-! ## Cells with the same digests -/

section Cells

variable {D D' : RawTables Float64} {t : Timestamp}

/-- An invisible row has no cells. -/
theorem cell_eq_none_of_consumerRows (h : (consumerRows D).get? t = none) (c : GoldColumn) :
    D.cell t c = none := by
  rw [get?_consumerRows] at h
  split_ifs at h with hvisible
  rw [Bool.not_eq_true] at hvisible
  exact congrFun (visible_eq_false_iff.mp hvisible) c

theorem cell_of_consumerRows {row : WideRow Float64} (h : (consumerRows D).get? t = some row) :
    D.cell t = row := by
  rw [get?_consumerRows] at h
  split_ifs at h
  exact Option.some.inj h

/-- **Tables with the same digests have the same cells**, in canonical form. -/
theorem canonicalCell_cell_of_digests {digests : KeyedTable Timestamp Sha256Hex}
    (h : consumerDigests sha256 D = .ok digests) (h' : consumerDigests sha256 D' = .ok digests)
    (hsha : Set.InjOn sha256 (framings (consumerRows D) ∪ framings (consumerRows D')))
    (t : Timestamp) (c : GoldColumn) :
    canonicalCell (D.cell t c) = canonicalCell (D'.cell t c) := by
  have ht := KeyedTable.traverse_eq_ok_iff.mp h t
  have ht' := KeyedTable.traverse_eq_ok_iff.mp h' t
  cases hrow : (consumerRows D).get? t with
  | none =>
    cases hrow' : (consumerRows D').get? t with
    | none => rw [cell_eq_none_of_consumerRows hrow, cell_eq_none_of_consumerRows hrow']
    | some row' =>
      rw [hrow] at ht
      rw [hrow', ← ht] at ht'
      cases ht'
  | some row =>
    cases hrow' : (consumerRows D').get? t with
    | none =>
      rw [hrow'] at ht'
      rw [hrow, ← ht'] at ht
      cases ht
    | some row' =>
      rw [hrow, Option.map_some] at ht
      rw [hrow', Option.map_some, ← ht] at ht'
      obtain ⟨d, -, hd⟩ := Option.map_eq_some_iff.mp ht.symm
      rw [cell_of_consumerRows hrow, cell_of_consumerRows hrow']
      refine canonicalCell_eq_of_digest hsha hrow hrow' (d := d)
        (consumerDigest_eq_ok sha256 hd.symm) (consumerDigest_eq_ok sha256 ?_) c
      exact (Option.some.inj ht').trans hd.symm

/-- A cell with a digest is finite. -/
theorem canonicalCell_isOk_of_digests {digests : KeyedTable Timestamp Sha256Hex}
    (h : consumerDigests sha256 D = .ok digests) (t : Timestamp) (c : GoldColumn) :
    ∃ v, canonicalCell (D.cell t c) = .ok v := by
  cases hrow : (consumerRows D).get? t with
  | none => exact ⟨none, by rw [cell_eq_none_of_consumerRows hrow]; rfl⟩
  | some row =>
    have ht := KeyedTable.traverse_eq_ok_iff.mp h t
    rw [hrow, Option.map_some] at ht
    obtain ⟨d, -, hd⟩ := Option.map_eq_some_iff.mp ht.symm
    rw [cell_of_consumerRows hrow]
    exact canonicalCell_isOk_of_digest (consumerDigest_eq_ok sha256 hd.symm) c

end Cells

/-! ## Values with the same digests -/

section Values

variable {V : Type} [OfFloat64 V]

/-- The tables as the query sees them. -/
def RawTables.toSql (D : RawTables Float64) : RawTables V := D.map OfFloat64.ofFloat

omit [OfFloat64 V] in
theorem RawTables.cell_map (f : Float64 → V) (D : RawTables Float64) (t : Timestamp)
    (c : GoldColumn) : (D.map f).cell t c = (D.cell t c).map f := by
  cases c with
  | level s =>
    simp only [RawTables.cell, RawTables.map, JoinedRow.toWide, get?_map]
    cases (D s).get? t <;> simp
  | bar s _ field =>
    simp only [RawTables.cell, RawTables.map, JoinedRow.toWide, get?_map]
    cases (D s).get? t <;> simp

/-- Doubles with one canonical form are one value. -/
theorem ofFloat_eq_of_canonical {v v' w : Option Float64} (h : canonicalCell v = .ok w)
    (h' : canonicalCell v' = .ok w) :
    v.map (OfFloat64.ofFloat (V := V)) = v'.map OfFloat64.ofFloat := by
  have hvalue : ∀ u : Option Float64, canonicalCell u = .ok w →
      u.map (OfFloat64.ofFloat (V := V)) = w.map OfFloat64.ofFloat := by
    intro u hu
    cases u with
    | none => cases hu; rfl
    | some x =>
      cases hx : canonicalFloat x with
      | error e => rw [canonicalCell, hx] at hu; cases hu
      | ok y =>
        rw [canonicalCell, hx] at hu
        cases hu
        obtain ⟨-, rfl⟩ := canonicalFloat_eq_ok hx
        split_ifs with hzero
        · rcases (Bool.or_eq_true _ _).mp hzero with h | h <;> rw [beq_iff_eq.mp h]
          exact congrArg some OfFloat64.ofFloat_negZero
        · rfl
  rw [hvalue v h, hvalue v' h']

/-- Whether a table holds a row whose cells are all null at a timestamp. -/
def RawTables.holdsNullRow (D : RawTables Float64) (s : Series) (t : Timestamp) : Bool :=
  ((D s).get? t).any RawRow.allNull

variable {D D' : RawTables Float64}

/-- A row that is not all null shows a cell. -/
theorem cell_ne_none_of_not_allNull {s : Series} {t : Timestamp} {row : RawRow Float64 s.nativeShape}
    (hrow : (D s).get? t = some row) (hnull : row.allNull ≠ true) :
    ∃ c : GoldColumn, c.series = s ∧ D.cell t c ≠ none := by
  by_contra hcells
  have hnone : ∀ c : GoldColumn, c.series = s → D.cell t c = none := fun c hc => by
    by_contra hne
    exact hcells ⟨c, hc, hne⟩
  refine hnull (RawRow.allNull_iff.mpr ⟨?_, fun f => ?_⟩)
  · have hlevel := hnone (.level s) rfl
    rwa [RawTables.cell, JoinedRow.toWide, hrow] at hlevel
  · by_cases hshape : s.nativeShape = .ohlc
    · have hfield := hnone (.bar s hshape f) rfl
      rwa [RawTables.cell, JoinedRow.toWide, hrow] at hfield
    · exact RawRow.field_of_ne_ohlc hshape row f

/-- Tables with the same cells and the same all-null rows have rows at the same
timestamps. -/
theorem isSome_row_congr (hcell : ∀ t c, (D.cell t c).isSome = (D'.cell t c).isSome) {s : Series}
    (hnull : ∀ t, D.holdsNullRow s t = D'.holdsNullRow s t) (t : Timestamp) :
    ((D s).get? t).isSome = ((D' s).get? t).isSome := by
  have hone : ∀ E E' : RawTables Float64, (∀ t c, (E.cell t c).isSome = (E'.cell t c).isSome) →
      (∀ t, E.holdsNullRow s t = E'.holdsNullRow s t) →
      ((E s).get? t).isSome → ((E' s).get? t).isSome := by
    intro E E' hcell hnull hsome
    obtain ⟨row, hrow⟩ := Option.isSome_iff_exists.mp hsome
    by_contra hnone
    rw [Option.not_isSome_iff_eq_none] at hnone
    have hnull' := hnull t
    rw [RawTables.holdsNullRow, RawTables.holdsNullRow, hrow, hnone] at hnull'
    obtain ⟨c, rfl, hc⟩ := cell_ne_none_of_not_allNull hrow (by simpa using hnull')
    have hc' := hcell t c
    rw [Option.isSome_iff_ne_none.mpr hc] at hc'
    cases c <;> simp [RawTables.cell, JoinedRow.toWide, GoldColumn.series] at hc' hnone <;>
      simp [hnone] at hc'
  exact Bool.eq_iff_iff.mpr ⟨hone D D' hcell hnull,
    hone D' D (fun t c => (hcell t c).symm) (fun t => (hnull t).symm)⟩

/-- **Tables with the same digests have the same levels**, in every table in which
they have the same all-null rows. -/
theorem levels_congr_of_digests {digests : KeyedTable Timestamp Sha256Hex}
    (h : consumerDigests sha256 D = .ok digests) (h' : consumerDigests sha256 D' = .ok digests)
    (hsha : Set.InjOn sha256 (framings (consumerRows D) ∪ framings (consumerRows D')))
    {s : Series} (hnull : ∀ t, D.holdsNullRow s t = D'.holdsNullRow s t) :
    ((D.toSql : RawTables V) s).map RawRow.level = ((D'.toSql : RawTables V) s).map RawRow.level := by
  have hsame := canonicalCell_cell_of_digests h h' hsha
  have hisSome : ∀ v w : Option Float64, canonicalCell v = .ok w → v.isSome = w.isSome := by
    intro v w hv
    cases v with
    | none => cases hv; rfl
    | some x =>
      cases hx : canonicalFloat x with
      | error e => rw [canonicalCell, hx] at hv; cases hv
      | ok y => rw [canonicalCell, hx] at hv; cases hv; rfl
  have hcell : ∀ t c, (D.cell t c).isSome = (D'.cell t c).isSome := fun t c => by
    obtain ⟨v, hv⟩ := canonicalCell_isOk_of_digests h t c
    rw [hisSome _ _ hv, hisSome _ _ ((hsame t c).symm.trans hv)]
  ext t : 1
  obtain ⟨v, hv⟩ := canonicalCell_isOk_of_digests h t (.level s)
  have hlevel := ofFloat_eq_of_canonical (V := V) hv ((hsame t (.level s)).symm.trans hv)
  have hrow := isSome_row_congr hcell hnull t
  rw [get?_map, get?_map, RawTables.toSql, RawTables.toSql, RawTables.map, RawTables.map, get?_map,
    get?_map]
  rw [RawTables.cell, RawTables.cell, JoinedRow.toWide, JoinedRow.toWide] at hlevel
  cases hr : (D s).get? t with
  | none =>
    rw [hr] at hrow
    have hr' : (D' s).get? t = none := Option.isNone_iff_eq_none.mp (by simpa using hrow.symm)
    rw [hr']
  | some row =>
    rw [hr] at hrow hlevel
    obtain ⟨row', hr'⟩ := Option.isSome_iff_exists.mp hrow.symm
    rw [hr'] at hlevel ⊢
    simpa using hlevel

end Values

/-! ## Features with the same digests -/

/-- Whether a feature is computed by a recurrence over a raw table. -/
def Feature.readsRawTable : Feature → Bool
  | .own _ suffix => suffix.readsRawTable
  | .cross _ => false

/-- No recurrence over a raw table is published of a series whose level may be
negative. -/
theorem not_signed_of_readsRawTable {names : List Feature}
    (hnames : names = featureValuePrimaryNames ∨ names = featureValueExtendedNames)
    {s : Series} {suffix : FeatureSuffix} (hname : Feature.own s suffix ∈ names)
    (hreads : suffix.readsRawTable = true) : s ∉ signedLevelSeries := by
  have hall : ∀ l, l = featureValuePrimaryNames ∨ l = featureValueExtendedNames →
      l.all (fun name => !name.readsRawTable || name.series.all (· ∉ signedLevelSeries)) = true := by
    rintro l (rfl | rfl) <;> decide +kernel
  have hown := List.all_eq_true.mp (hall names hnames) _ hname
  simpa [Feature.readsRawTable, Feature.series, hreads] using hown

section Features

variable {V : Type} [SqlDouble V] [OfFloat64 V] {D D' : RawTables Float64}

/-- **The digests and the all-null rows determine the published features.** -/
theorem macroFeatures_congr_of_digests {digests : KeyedTable Timestamp Sha256Hex}
    (h : consumerDigests sha256 D = .ok digests) (h' : consumerDigests sha256 D' = .ok digests)
    (hsha : Set.InjOn sha256 (framings (consumerRows D) ∪ framings (consumerRows D')))
    (hnull : ∀ s ∉ signedLevelSeries, ∀ t, D.holdsNullRow s t = D'.holdsNullRow s t) :
    macroFeatures (D.toSql : RawTables V) = macroFeatures (D'.toSql : RawTables V) := by
  have hcells : ∀ t c, (D.toSql : RawTables V).cell t c = (D'.toSql : RawTables V).cell t c := by
    intro t c
    obtain ⟨v, hv⟩ := canonicalCell_isOk_of_digests h t c
    rw [RawTables.toSql, RawTables.toSql, RawTables.cell_map, RawTables.cell_map]
    exact ofFloat_eq_of_canonical hv ((canonicalCell_cell_of_digests h h' hsha t c).symm.trans hv)
  have hsame : ∀ (l : List Series), ∀ s ∈ l, SameCells s
      (rawFeatureProjection l (D.toSql : RawTables V)) (rawFeatureProjection l D'.toSql) :=
    fun l s hs => sameCells_of_cell hs hs (fun t c _ => hcells t c)
  have hcross : ∀ t, wideCell (rawFeatureProjection goldSourceSeries (D.toSql : RawTables V)) t
      = wideCell (rawFeatureProjection goldSourceSeries D'.toSql) t := fun t =>
    funext (fun c => hsame _ c.series (mem_goldSourceSeries _) t c rfl)
  have htable : ∀ names, names = featureValuePrimaryNames ∨ names = featureValueExtendedNames →
      ∀ s suffix, Feature.own s suffix ∈ names → suffix.readsRawTable = true →
      ((D.toSql : RawTables V) s).map RawRow.level
        = ((D'.toSql : RawTables V) s).map RawRow.level :=
    fun names hnames s suffix hname hreads => levels_congr_of_digests h h' hsha
      (hnull s (not_signed_of_readsRawTable hnames hname hreads))
  have hprimary : featureValueSelect featureValuePrimaryNames (primaryFeaturesView D.toSql)
      = featureValueSelect featureValuePrimaryNames (primaryFeaturesView (D'.toSql : RawTables V)) := by
    refine featureValueSelect_congr (fun t name hname => ?_)
    cases name with
    | own s suffix =>
      exact viewCell_own_congr true (hsame _ s (mem_goldSourceSeries s)) suffix
        (htable _ (.inl rfl) s suffix hname) t
    | cross c => rw [primaryFeaturesView, primaryFeaturesView, viewCell_cross, viewCell_cross, hcross]
  have hextended : featureValueSelect featureValueExtendedNames (extendedFeaturesView D.toSql)
      = featureValueSelect featureValueExtendedNames
          (extendedFeaturesView (D'.toSql : RawTables V)) := by
    refine featureValueSelect_congr (fun t name hname => ?_)
    cases name with
    | own s suffix =>
      rw [viewCell_extended_own, viewCell_extended_own]
      exact viewCell_own_congr true (hsame _ s (List.mem_singleton_self s)) suffix
        (htable _ (.inr rfl) s suffix hname) t
    | cross c => rw [viewCell_extended_cross, viewCell_extended_cross, hcross]
  rw [macroFeatures, macroFeatures, hprimary, hextended]

/-! ## The features of a frame -/

/-- The tables that store the rows of a frame, and no others. -/
def frameTables (rows : KeyedTable Timestamp (WideRow Float64)) : RawTables Float64 :=
  fun s => rows.filterMap (fun _ row => storedRow s row)

/-- They have no all-null rows. -/
theorem holdsNullRow_frameTables (rows : KeyedTable Timestamp (WideRow Float64)) (s : Series)
    (t : Timestamp) : (frameTables rows).holdsNullRow s t = false := by
  rw [RawTables.holdsNullRow, frameTables, get?_filterMap]
  cases rows.get? t with
  | none => rfl
  | some row =>
    rw [Option.bind_some, storedRow]
    split_ifs with hnull
    · rfl
    · simpa using hnull

/-- They have the digests of the frame. -/
theorem consumerDigests_frameTables
    {source : KeyedTable Timestamp (WideRow Float64 × Sha256Hex)}
    (hsource : ∀ t r, source.get? t = some r → IsSourceRow sha256 t r) :
    consumerDigests sha256 (frameTables (source.map Prod.fst)) = .ok (source.map Prod.snd) := by
  refine KeyedTable.traverse_eq_ok_iff.mpr (fun t => ?_)
  have hrows : ∀ s, (frameTables (source.map Prod.fst) s).get? t
      = (source.get? t).bind (fun r => storedRow s r.1) := fun s => by
    rw [frameTables, get?_filterMap, get?_map]
    cases source.get? t <;> rfl
  rw [get?_map]
  cases hr : source.get? t with
  | none =>
    rw [consumerRows_eq_none (fun s => by rw [hrows, hr, Option.bind_none])]
    rfl
  | some r =>
    have hrow := hsource t r hr
    rw [consumerRows_eq_some (fun s => by rw [hrows, hr, Option.bind_some]) hrow.canonical
      hrow.gold, Option.map_some, consumerDigest, hrow.timestamp]
    exact congrArg some hrow.digest

theorem consumerRows_frameTables {source : KeyedTable Timestamp (WideRow Float64 × Sha256Hex)}
    (hsource : ∀ t r, source.get? t = some r → IsSourceRow sha256 t r) :
    consumerRows (frameTables (source.map Prod.fst)) = source.map Prod.fst := by
  ext t : 1
  have hrows : ∀ s, (frameTables (source.map Prod.fst) s).get? t
      = (source.get? t).bind (fun r => storedRow s r.1) := fun s => by
    rw [frameTables, get?_filterMap, get?_map]
    cases source.get? t <;> rfl
  rw [get?_map]
  cases hr : source.get? t with
  | none => rw [consumerRows_eq_none (fun s => by rw [hrows, hr, Option.bind_none])]; rfl
  | some r =>
    have hrow := hsource t r hr
    rw [consumerRows_eq_some (fun s => by rw [hrows, hr, Option.bind_some]) hrow.canonical
      hrow.gold]
    rfl

/-- **What the digests say about the features.** Two states of the tables with the
same digests have the same features if they hold the same all-null rows of the
series with recurrences. So tables with the digests of a frame and without such
rows have the features of the frame. -/
theorem macroFeatures_of_digests {digests : KeyedTable Timestamp Sha256Hex}
    (h : consumerDigests sha256 D = .ok digests) :
    (∀ D', consumerDigests sha256 D' = .ok digests →
      Set.InjOn sha256 (framings (consumerRows D) ∪ framings (consumerRows D')) →
      (∀ s ∉ signedLevelSeries, ∀ t, D.holdsNullRow s t = D'.holdsNullRow s t) →
      macroFeatures (D.toSql : RawTables V) = macroFeatures (D'.toSql : RawTables V))
    ∧ ∀ source : KeyedTable Timestamp (WideRow Float64 × Sha256Hex),
      (∀ t r, source.get? t = some r → IsSourceRow sha256 t r) →
      source.map Prod.snd = digests →
      Set.InjOn sha256 (framings (consumerRows D) ∪ framings (source.map Prod.fst)) →
      (∀ s ∉ signedLevelSeries, ∀ t, D.holdsNullRow s t = false) →
      macroFeatures (D.toSql : RawTables V)
        = macroFeatures ((frameTables (source.map Prod.fst)).toSql : RawTables V) := by
  refine ⟨fun D' h' hsha hnull => macroFeatures_congr_of_digests h h' hsha hnull, ?_⟩
  rintro source hsource rfl hsha hnull
  refine macroFeatures_congr_of_digests h (consumerDigests_frameTables hsource) ?_
    (fun s hs t => (hnull s hs t).trans (holdsNullRow_frameTables _ s t).symm)
  rwa [consumerRows_frameTables hsource]

end Features

/-! ## An all-null row -/

/-- The tables with one more all-null row. -/
def RawTables.insertNull (D : RawTables Float64) (s : Series) (t : Timestamp) :
    RawTables Float64 :=
  Function.update D s ((D s).insert t (RawRow.null _))

/-- **The consumer does not see an all-null row.** -/
theorem consumerRows_insertNull {D : RawTables Float64} {s : Series} {t : Timestamp}
    (h : (D s).get? t = none) : consumerRows (D.insertNull s t) = consumerRows D := by
  have hcell : ∀ t', (D.insertNull s t).cell t' = D.cell t' := by
    intro t'
    funext c
    have hrow : ∀ (X : Type) (f : RawRow Float64 s.nativeShape → Option X), f (RawRow.null _) = none →
        ((D.insertNull s t s).get? t').bind f = ((D s).get? t').bind f := by
      intro X f hf
      rw [RawTables.insertNull, Function.update_self, get?_insert]
      split_ifs with ht
      · rw [ht, h, Option.bind_some, hf, Option.bind_none]
      · rfl
    by_cases hs : c.series = s
    · subst hs
      cases c with
      | level s => exact hrow _ _ (RawRow.level_null _)
      | bar s _ f => exact hrow _ (fun row => row.field f) (RawRow.field_null _ f)
    · have hother : D.insertNull s t c.series = D c.series := Function.update_of_ne hs _ _
      exact RawTables.cell_congr hother t' rfl
  ext t' : 1
  rw [get?_consumerRows, get?_consumerRows, hcell]

theorem holdsNullRow_insertNull_of_ne {D : RawTables Float64} {s s' : Series} (h : s' ≠ s)
    (t t' : Timestamp) : (D.insertNull s t).holdsNullRow s' t' = D.holdsNullRow s' t' := by
  rw [RawTables.holdsNullRow, RawTables.insertNull, Function.update_of_ne h,
    RawTables.holdsNullRow]

/-- Tables of finite values at readable timestamps have digests. -/
theorem consumerDigests_isOk (sha256 : Bytes → Sha256Hex) {D : RawTables Float64}
    (htime : ∀ s t, ((D s).get? t).isSome → loadDatetime t = .ok t)
    (hfinite : ∀ t c, ∃ v, canonicalCell (D.cell t c) = .ok v) :
    ∃ digests, consumerDigests sha256 D = .ok digests := by
  refine KeyedTable.traverse_isOk (fun t row hrow => ?_)
  have hcell := cell_of_consumerRows hrow
  have htimestamp : loadDatetime t = .ok t := by
    by_contra hbad
    have hnone : ∀ s, (D s).get? t = none := fun s => by
      by_contra hsome
      exact hbad (htime s t (Option.isSome_iff_ne_none.mpr hsome))
    rw [consumerRows_eq_none hnone] at hrow
    cases hrow
  obtain ⟨d, hd⟩ := goldRowSha256_isOk sha256 htimestamp (fun c => hcell ▸ hfinite t c)
  exact ⟨d, by rw [consumerDigest, htimestamp]; exact hd⟩

/-- Tables that hold the index value one of a single series, on some days. -/
def vstoxxOnes (days : List Timestamp) : RawTables Float64 :=
  Function.update (fun _ => .empty) Series.vstoxx
    (KeyedTable.ofRows (days.map (fun t => (t, RawRow.scalar (some Float64.one)))))

theorem get?_vstoxxOnes {days : List Timestamp} (hdays : days.Nodup) {s : Series} {t : Timestamp}
    {row : RawRow Float64 s.nativeShape} (h : (vstoxxOnes days s).get? t = some row) :
    t ∈ days ∧ row.level = some Float64.one ∧ s.nativeShape = .scalar := by
  by_cases hs : s = Series.vstoxx
  · subst hs
    rw [vstoxxOnes, Function.update_self, get?_ofRows (by simpa [Function.comp_def] using hdays)] at h
    obtain ⟨t', ht', heq⟩ := List.mem_map.mp (mem_of_lookupRows h)
    obtain ⟨rfl, rfl⟩ := Prod.mk.inj heq
    exact ⟨ht', rfl, rfl⟩
  · rw [vstoxxOnes, Function.update_of_ne hs] at h
    cases h

theorem consumerDigests_vstoxxOnes (sha256 : Bytes → Sha256Hex) (days : List Timestamp)
    (hdays : days.Nodup) (htime : ∀ t ∈ days, loadDatetime t = .ok t) :
    ∃ digests, consumerDigests sha256 (vstoxxOnes days) = .ok digests := by
  refine consumerDigests_isOk sha256 (fun s t hsome => ?_) (fun t c => ?_)
  · obtain ⟨row, hrow⟩ := Option.isSome_iff_exists.mp hsome
    exact htime t (get?_vstoxxOnes hdays hrow).1
  · cases c with
    | level s =>
      rw [RawTables.cell, JoinedRow.toWide]
      cases hrow : (vstoxxOnes days s).get? t with
      | none => exact ⟨none, rfl⟩
      | some row =>
        rw [Option.bind_some, (get?_vstoxxOnes hdays hrow).2.1]
        exact ⟨some Float64.one, by decide⟩
    | bar s hshape f =>
      rw [RawTables.cell, JoinedRow.toWide]
      cases hrow : (vstoxxOnes days s).get? t with
      | none => exact ⟨none, rfl⟩
      | some row =>
        have hscalar := (get?_vstoxxOnes hdays hrow).2.2
        rw [Option.bind_some, RawRow.field_of_ne_ohlc (by rw [hscalar]; decide)]
        exact ⟨none, rfl⟩

/-- An all-null row in a table without recurrences changes no feature. -/
theorem macroFeatures_of_digests_estr_null :
    macroFeatures ((vstoxxOnes [0]).toSql : RawTables ExactDouble)
      = macroFeatures (((vstoxxOnes [0]).insertNull .estr secondDay).toSql : RawTables ExactDouble) := by
  have hrows := consumerRows_insertNull (D := vstoxxOnes [0]) (s := .estr) (t := secondDay) rfl
  obtain ⟨digests, hdigests⟩ := consumerDigests_vstoxxOnes sampleSha256 [0]
    (by simp) (by simp only [List.forall_mem_singleton]; rfl)
  refine (macroFeatures_of_digests hdigests).1 _ ?_ ?_ (fun s hs t => ?_)
  · rw [consumerDigests, hrows]
    exact hdigests
  · rw [hrows, Set.union_self]
    have hday : ∀ t row, (consumerRows (vstoxxOnes [0])).get? t = some row → t = 0 := by
      intro t row hrow
      by_contra hne
      have hnone : ∀ s, (vstoxxOnes [0] s).get? t = none := fun s => by
        by_contra hsome
        obtain ⟨r, hr⟩ := Option.ne_none_iff_exists'.mp hsome
        exact hne (List.mem_singleton.mp (get?_vstoxxOnes (by simp) hr).1)
      rw [consumerRows_eq_none hnone] at hrow
      cases hrow
    rintro b ⟨t, row, hrow, hb⟩ b' ⟨t', row', hrow', hb'⟩ -
    obtain rfl := hday t row hrow
    obtain rfl := hday t' row' hrow'
    obtain rfl := Option.some.inj (hrow.symm.trans hrow')
    exact Except.ok.inj (hb.symm.trans hb')
  · refine (holdsNullRow_insertNull_of_ne (fun h => hs ?_) _ _).symm
    rw [h]
    decide

/-- Five days, and a null row between the third and the fourth: the digests are
the same, and a moving average of five days is gone. -/
theorem macroFeatures_reset_by_null_row :
    (∀ sha256, ∃ digests, consumerDigests sha256 (vstoxxOnes [1, 2, 3, 5, 6]) = .ok digests
      ∧ consumerDigests sha256 ((vstoxxOnes [1, 2, 3, 5, 6]).insertNull .vstoxx 4) = .ok digests)
    ∧ macroFeatures ((vstoxxOnes [1, 2, 3, 5, 6]).toSql : RawTables ExactDouble)
      ≠ macroFeatures (((vstoxxOnes [1, 2, 3, 5, 6]).insertNull .vstoxx 4).toSql) := by
  constructor
  · intro sha256
    have hrows := consumerRows_insertNull (D := vstoxxOnes [1, 2, 3, 5, 6]) (s := .vstoxx) (t := 4)
      rfl
    obtain ⟨digests, hdigests⟩ := consumerDigests_vstoxxOnes sha256 [1, 2, 3, 5, 6]
      (by decide) (by simp only [List.forall_mem_cons]; exact ⟨rfl, rfl, rfl, rfl, rfl, by simp⟩)
    refine ⟨digests, hdigests, ?_⟩
    rw [consumerDigests, hrows]
    exact hdigests
  · intro heq
    have hlength := congrArg List.length heq
    revert hlength
    decide +kernel
