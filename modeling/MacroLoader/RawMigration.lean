import MacroLoader.RowRoundTrip

/-!
# Splitting the wide raw table

The raw rows were stored in one wide table once, with a level column for every series,
and bar columns that were added later. The migration that retired the wide table copies
each series into a table of its own: the bar of a bar series, the level of any other one.
The level of a bar series is not copied, since the projection takes it from the close. A
wide row with a level and without a bar, as the rows are that were written before the bar
columns existed, loses the level. `wide_reproduced_iff` says that no other value can be
lost.
-/

/-! ## The migration -/

/-- The columns of the wide table that a series is copied from. -/
def sourceColumns (s : Series) : List GoldColumn :=
  if h : s.nativeShape = .ohlc then ohlcFields.map (GoldColumn.bar s h) else [.level s]

/-- `WHERE …`: whether one of the columns that a series is copied from is not null. -/
def hasSourceValue (s : Series) (row : WideRow Float64) : Bool :=
  (sourceColumns s).any (fun c => (row c).isSome)

/-- The rows that are copied into the table of a series. -/
def backfillRows (s : Series) (wide : KeyedTable Timestamp (WideRow Float64)) :
    KeyedTable Timestamp (RawRow Float64 s.nativeShape) :=
  wide.filterMap (fun _ row => if hasSourceValue s row then some (seriesRow s row) else none)

/-- `INSERT INTO … SELECT … ON CONFLICT (timestamp_m1) DO UPDATE`: fill the table of a
series from the wide table. -/
def backfillSeries (s : Series) (wide : KeyedTable Timestamp (WideRow Float64))
    (table : KeyedTable Timestamp (RawRow Float64 s.nativeShape)) :
    KeyedTable Timestamp (RawRow Float64 s.nativeShape) :=
  (backfillRows s wide).rows.foldl (fun table row => table.insert row.1 row.2) table

/-- **`_feature_raw_table_migrations`**: create the tables of the series and fill them. -/
def migrateRawTables (wide : KeyedTable Timestamp (WideRow Float64)) : RawTables Float64 :=
  fun s => backfillSeries s wide .empty

/-- **The projection reproduces the wide table**: each row with a value, column for
column, and no other row with a value. -/
structure ReproducesWide (tables : RawTables Float64)
    (wide : KeyedTable Timestamp (WideRow Float64)) : Prop where
  rows : ∀ t row, wide.get? t = some row → (∃ c, row c ≠ none) →
    (rawFeatureProjection goldSourceSeries tables).get? t = some row
  no_others : ∀ t row, (rawFeatureProjection goldSourceSeries tables).get? t = some row →
    (∃ c, row c ≠ none) → wide.get? t = some row

/-! ## What the tables hold after it -/

theorem hasSourceValue_eq (s : Series) (row : WideRow Float64) :
    hasSourceValue s row = !(seriesRow s row).allNull := by
  unfold hasSourceValue sourceColumns seriesRow
  by_cases hshape : s.nativeShape = .ohlc
  · simp only [dif_pos hshape, List.any_map, barCell]
    rw [hshape]
    simp [ohlcFields, RawRow.ofCells, RawRow.allNull, Bool.or_assoc]
  · have hscalar : s.nativeShape = .scalar := by
      cases hs : s.nativeShape
      · exact absurd hs hshape
      · rfl
    simp only [dif_neg hshape]
    rw [hscalar]
    simp [RawRow.ofCells, RawRow.allNull]

/-- **The migration stores of a wide row what a synchronization would store.** -/
theorem get?_migrateRawTables (wide : KeyedTable Timestamp (WideRow Float64)) (s : Series)
    (t : Timestamp) : (migrateRawTables wide s).get? t = (wide.get? t).bind (storedRow s) := by
  have hselect : ∀ row : WideRow Float64,
      (if hasSourceValue s row then some (seriesRow s row) else none) = storedRow s row := by
    intro row
    rw [hasSourceValue_eq, storedRow]
    cases (seriesRow s row).allNull <;> rfl
  have hkeys : ((backfillRows s wide).rows.map Prod.fst).Nodup := KeyedTable.keys_nodup _
  rw [migrateRawTables, backfillSeries, KeyedTable.get?_foldl_insert hkeys, KeyedTable.get?_empty,
    Option.or_none]
  show (backfillRows s wide).get? t = _
  rw [backfillRows, KeyedTable.get?_filterMap]
  exact congrArg ((wide.get? t).bind ·) (funext hselect)

/-- The projection of the new tables has the wide rows, with the levels of the bars taken
from their closes. -/
theorem get?_projection_migrateRawTables (wide : KeyedTable Timestamp (WideRow Float64))
    (t : Timestamp) :
    (rawFeatureProjection goldSourceSeries (migrateRawTables wide)).get? t
      = (wide.get? t).bind (fun row =>
        if ∃ s ∈ goldSourceSeries, (storedRow s row).isSome then some (derivedRow row)
        else none) := by
  rw [get?_rawFeatureProjection, joinedAt]
  simp only [get?_migrateRawTables]
  cases wide.get? t with
  | none => simp
  | some row =>
    simp only [Option.bind_some, mem_goldSourceSeries, if_true]
    split_ifs
    · rw [Option.map_some, toWide_storedRow_eq_derivedRow]
    · rfl

/-- A row without a stored row has no value in a derived column. -/
theorem derivedRow_eq_none {row : WideRow Float64}
    (h : ¬ ∃ s ∈ goldSourceSeries, (storedRow s row).isSome) (c : GoldColumn) : derivedRow row c = none := by
  have hnone : ∀ s, storedRow s row = none := fun s =>
    Option.not_isSome_iff_eq_none.mp (fun hs => h ⟨s, mem_goldSourceSeries s, hs⟩)
  rw [← toWide_storedRow_eq_derivedRow]
  cases c <;> simp only [JoinedRow.toWide, hnone, Option.bind_none]

/-- The derived row is the row itself where the levels of the bars are their closes. -/
theorem derivedRow_eq_self_iff {row : WideRow Float64} :
    derivedRow row = row
      ↔ ∀ s (hshape : s.nativeShape = .ohlc), row (.level s) = row (.bar s hshape .close) := by
  constructor
  · intro h s hshape
    rw [← congrFun h (.level s), derivedRow, dif_pos hshape]
  · intro h
    funext c
    cases c with
    | level s =>
      rw [derivedRow]
      split_ifs with hshape
      · exact (h s hshape).symm
      · rfl
    | bar s hshape f => rfl

/-! ## What is lost -/

/-- **The migration keeps a wide table exactly if the level of every bar series is its
close**, in every row. -/
theorem wide_reproduced_iff (wide : KeyedTable Timestamp (WideRow Float64)) :
    ReproducesWide (migrateRawTables wide) wide
      ↔ ∀ t row, wide.get? t = some row → ∀ s (hshape : s.nativeShape = .ohlc),
        row (.level s) = row (.bar s hshape .close) := by
  constructor
  · intro h t row hrow s hshape
    by_contra hne
    -- one of the two cells has a value, so that the row is to be reproduced
    have hvalue : ∃ c, row c ≠ none := by
      by_contra hnone
      simp only [not_exists, not_not] at hnone
      exact hne ((hnone _).trans (hnone _).symm)
    have hprojected := h.rows t row hrow hvalue
    rw [get?_projection_migrateRawTables, hrow, Option.bind_some] at hprojected
    split_ifs at hprojected
    exact hne (derivedRow_eq_self_iff.mp (Option.some.inj hprojected) s hshape)
  · intro h
    have hderived : ∀ t row, wide.get? t = some row → derivedRow row = row := fun t row hrow =>
      derivedRow_eq_self_iff.mpr (h t row hrow)
    refine ⟨fun t row hrow hvalue => ?_, fun t row hprojected _ => ?_⟩
    · obtain ⟨c, hc⟩ := hvalue
      have hstored : ∃ s ∈ goldSourceSeries, (storedRow s row).isSome := by
        by_contra hnone
        exact hc (hderived t row hrow ▸ derivedRow_eq_none hnone c)
      rw [get?_projection_migrateRawTables, hrow, Option.bind_some, if_pos hstored,
        hderived t row hrow]
    · rw [get?_projection_migrateRawTables] at hprojected
      obtain ⟨row', hrow', hsome⟩ := Option.bind_eq_some_iff.mp hprojected
      split_ifs at hsome
      obtain rfl := Option.some.inj hsome
      rw [hrow', hderived t row' hrow']

/-- A wide row from before the bar columns, which has the level of a bar series only. -/
def levelOnlyRow (x : Float64) : WideRow Float64 := fun c => if c = .level .vix then some x else none

/-- **Such a row is lost**: the new tables hold nothing of it. -/
theorem levelOnlyRow_lost :
    ¬ ReproducesWide (migrateRawTables (KeyedTable.empty.insert 0 (levelOnlyRow .zero)))
        (KeyedTable.empty.insert 0 (levelOnlyRow .zero))
      ∧ (rawFeatureProjection goldSourceSeries
          (migrateRawTables (KeyedTable.empty.insert 0 (levelOnlyRow .zero)))).get? 0 = none := by
  have hrow : (KeyedTable.empty.insert (0 : Timestamp) (levelOnlyRow .zero)).get? 0
      = some (levelOnlyRow .zero) := by
    rw [KeyedTable.get?_insert, if_pos rfl]
  have hlost : (rawFeatureProjection goldSourceSeries
      (migrateRawTables (KeyedTable.empty.insert 0 (levelOnlyRow .zero)))).get? 0 = none := by
    have hstored : ¬ ∃ s ∈ goldSourceSeries, (storedRow s (levelOnlyRow .zero)).isSome := by
      decide
    rw [get?_projection_migrateRawTables, hrow, Option.bind_some, if_neg hstored]
  refine ⟨fun h => ?_, hlost⟩
  have hkept := h.rows 0 _ hrow ⟨.level .vix, by decide⟩
  rw [hlost] at hkept
  cases hkept
