import MacroLoader.KeyedTable
import MacroLoader.Registry
import MacroLoader.PythonValues

/-!
# The raw tables and their wide projection

PostgreSQL keeps one raw table per series, keyed by the observation
timestamp, in one of two layouts: a bar of four nullable fields, or a single
nullable index value. The layout is a parameter of the row type, so a table
cannot hold a row of the wrong shape.

The wide row of canonical Gold is not stored. It is reassembled by a chain of
full outer joins over the tables, and the level of an OHLC series is the
close of its bar. `get?_rawFeatureProjection` says what that chain computes,
and is what every reader of the projection uses: a timestamp is projected when
some table has a row there, and its cells are those of the tables' own rows.
-/

variable {V : Type}

/-- **A row of a raw table**, in the layout of its series: every cell may be
null, and a row whose cells are all null is still a row. -/
inductive RawRow (V : Type) : NativeShape → Type
  | ohlc (open_ high low close : Option V) : RawRow V .ohlc
  | scalar (indexvalue : Option V) : RawRow V .scalar
  deriving DecidableEq

namespace RawRow

/-- The level a row contributes: the close of a bar, or the index value. -/
def level : {shape : NativeShape} → RawRow V shape → Option V
  | _, ohlc _ _ _ close => close
  | _, scalar indexvalue => indexvalue

/-- A field of the bar, absent from a row that is none. -/
def field : {shape : NativeShape} → RawRow V shape → OhlcField → Option V
  | _, ohlc open_ _ _ _, .open_ => open_
  | _, ohlc _ high _ _, .high => high
  | _, ohlc _ _ low _, .low => low
  | _, ohlc _ _ _ close, .close => close
  | _, scalar _, _ => none

/-- **The all-null row** of a layout, which a table can hold and a projection
does not show. -/
def null : (shape : NativeShape) → RawRow V shape
  | .ohlc => ohlc none none none none
  | .scalar => scalar none

@[simp] theorem level_null (shape : NativeShape) : (null shape : RawRow V shape).level = none := by
  cases shape <;> rfl

@[simp] theorem field_null (shape : NativeShape) (f : OhlcField) :
    (null shape : RawRow V shape).field f = none := by
  cases shape <;> cases f <;> rfl

/-- The row of a layout with a given level and given fields. -/
def ofCells : (shape : NativeShape) → (level : Option V) → (field : OhlcField → Option V) →
    RawRow V shape
  | .ohlc, _, field => ohlc (field .open_) (field .high) (field .low) (field .close)
  | .scalar, level, _ => scalar level

theorem level_ofCells (shape : NativeShape) (level : Option V) (field : OhlcField → Option V) :
    (ofCells shape level field).level = if shape = .ohlc then field .close else level := by
  cases shape <;> rfl

theorem field_ofCells (shape : NativeShape) (level : Option V) (field : OhlcField → Option V)
    (f : OhlcField) :
    (ofCells shape level field).field f = if shape = .ohlc then field f else none := by
  cases shape
  · cases f <;> rfl
  · rfl

/-- Whether every cell is null. -/
def allNull : {shape : NativeShape} → RawRow V shape → Bool
  | _, ohlc open_ high low close => open_.isNone && high.isNone && low.isNone && close.isNone
  | _, scalar indexvalue => indexvalue.isNone

theorem allNull_iff {shape : NativeShape} {row : RawRow V shape} :
    row.allNull = true ↔ row.level = none ∧ ∀ f, row.field f = none := by
  cases row with
  | ohlc o h l c =>
    simp only [allNull, level, Bool.and_eq_true, Option.isNone_iff_eq_none]
    constructor
    · rintro ⟨⟨⟨rfl, rfl⟩, rfl⟩, rfl⟩
      exact ⟨rfl, fun f => by cases f <;> rfl⟩
    · rintro ⟨hc, hf⟩
      exact ⟨⟨⟨hf .open_, hf .high⟩, hf .low⟩, hc⟩
  | scalar v =>
    simp only [allNull, level, Option.isNone_iff_eq_none]
    exact ⟨fun hv => ⟨hv, fun f => rfl⟩, fun h => h.1⟩

/-- A row that is no bar has no bar fields. -/
theorem field_of_ne_ohlc {shape : NativeShape} (hshape : shape ≠ .ohlc) (row : RawRow V shape)
    (f : OhlcField) : row.field f = none := by
  cases row with
  | ohlc o h l c => exact absurd rfl hshape
  | scalar v => rfl

/-- Convert the values of a row. -/
def map {W : Type} (f : V → W) : {shape : NativeShape} → RawRow V shape → RawRow W shape
  | _, ohlc open_ high low close => ohlc (open_.map f) (high.map f) (low.map f) (close.map f)
  | _, scalar indexvalue => scalar (indexvalue.map f)

@[simp] theorem level_map {W : Type} (f : V → W) {shape : NativeShape} (row : RawRow V shape) :
    (row.map f).level = row.level.map f := by
  cases row <;> rfl

@[simp] theorem field_map {W : Type} (f : V → W) {shape : NativeShape} (row : RawRow V shape)
    (field : OhlcField) : (row.map f).field field = (row.field field).map f := by
  cases row <;> cases field <;> rfl

end RawRow

/-- **The raw tables**: one for each series, in the layout of its shape. -/
abbrev RawTables (V : Type) := (s : Series) → KeyedTable Timestamp (RawRow V s.nativeShape)

/-- Convert the values of the tables. -/
def RawTables.map {W : Type} (f : V → W) (D : RawTables V) : RawTables W :=
  fun s => (D s).map (RawRow.map f)

/-- The tables with the rows up to and including an instant. -/
def RawTables.truncate (D : RawTables V) (T : Timestamp) : RawTables V := fun s => (D s).truncate T

/-- The rows the tables hold at one timestamp. -/
abbrev JoinedRow (V : Type) := (s : Series) → Option (RawRow V s.nativeShape)

/-- **A wide row**: one nullable cell for each canonical column. -/
abbrev WideRow (V : Type) := GoldColumn → Option V

/-- A field of a series' bar in a wide row. -/
def barCell (s : Series) (f : OhlcField) (row : WideRow V) : Option V :=
  if h : s.nativeShape = .ohlc then row (.bar s h f) else none

/-- The row that the table of a series stores of a wide row. -/
def seriesRow (s : Series) (row : WideRow V) : RawRow V s.nativeShape :=
  RawRow.ofCells s.nativeShape (row (.level s)) (fun f => barCell s f row)

/-- The cells a joined row projects to. -/
def JoinedRow.toWide (r : JoinedRow V) : WideRow V
  | .level s => (r s).bind RawRow.level
  | .bar s _ f => (r s).bind (fun row => row.field f)

/-- The cell the tables hold for a column at a timestamp. -/
def RawTables.cell (D : RawTables V) (t : Timestamp) : WideRow V :=
  JoinedRow.toWide (fun s => (D s).get? t)

/-- The joined row with the row of one more table. -/
def JoinedRow.with (r : Option (JoinedRow V)) (s : Series)
    (row : Option (RawRow V s.nativeShape)) : JoinedRow V :=
  Function.update (r.getD (fun _ => none)) s row

/-- `FULL OUTER JOIN … USING (timestamp_m1)` with one more table. -/
def joinTable (D : RawTables V) (acc : KeyedTable Timestamp (JoinedRow V)) (s : Series) :
    KeyedTable Timestamp (JoinedRow V) :=
  (acc.fullJoin (D s)).map (fun p => JoinedRow.with p.1 s p.2)

/-- The chain of outer joins over the tables of `rawSeries`. -/
def joinTables (D : RawTables V) : List Series → KeyedTable Timestamp (JoinedRow V)
  | [] => .empty
  | first :: rest =>
    rest.foldl (joinTable D) ((D first).map (fun row => JoinedRow.with none first (some row)))

/-- `_raw_feature_projection`: the wide rows reassembled from the tables of
`rawSeries`. -/
def rawFeatureProjection (rawSeries : List Series) (D : RawTables V) :
    KeyedTable Timestamp (WideRow V) :=
  (joinTables D rawSeries).map JoinedRow.toWide

/-- The joined row of a set of series at a timestamp, if one of them has a row
there. -/
def joinedAt (D : RawTables V) (l : List Series) (t : Timestamp) : Option (JoinedRow V) :=
  if ∃ s ∈ l, ((D s).get? t).isSome then some (fun s => if s ∈ l then (D s).get? t else none)
  else none

theorem get?_joinTable (D : RawTables V) (acc : KeyedTable Timestamp (JoinedRow V))
    (l : List Series) (s : Series) (hacc : ∀ t, acc.get? t = joinedAt D l t) (t : Timestamp) :
    (joinTable D acc s).get? t = joinedAt D (l ++ [s]) t := by
  have hupd : ∀ r : Option (JoinedRow V), (∀ s', r.getD (fun _ => none) s'
        = if s' ∈ l then (D s').get? t else none) →
      JoinedRow.with r s ((D s).get? t)
        = fun s' => if s' ∈ l ++ [s] then (D s').get? t else none := by
    intro r hr
    funext s'
    by_cases hs : s' = s
    · subst hs; simp [JoinedRow.with]
    · simp [JoinedRow.with, hr s', hs]
  rw [joinTable, KeyedTable.get?_map, KeyedTable.get?_fullJoin, hacc, joinedAt, joinedAt]
  by_cases hl : ∃ s' ∈ l, ((D s').get? t).isSome
  · obtain ⟨s', hs', hrow⟩ := hl
    have hex : ∃ s' ∈ l, ((D s').get? t).isSome := ⟨s', hs', hrow⟩
    have hex' : ∃ s' ∈ l ++ [s], ((D s').get? t).isSome :=
      ⟨s', List.mem_append_left _ hs', hrow⟩
    rw [if_pos hex, if_pos hex']
    simp only [Option.isSome_some, Bool.true_or, if_true, Option.map_some]
    rw [hupd _ (fun _ => rfl)]
  · rw [if_neg hl]
    have hnone : ∀ s' ∈ l, (D s').get? t = none := fun s' hs' => by
      simpa using fun h => hl ⟨s', hs', h⟩
    by_cases hs : ((D s).get? t).isSome
    · have hex' : ∃ s' ∈ l ++ [s], ((D s').get? t).isSome :=
        ⟨s, List.mem_append_right _ (List.mem_singleton_self s), hs⟩
      rw [if_pos hex']
      simp only [Option.isSome_none, Bool.false_or, hs, if_true, Option.map_some]
      rw [hupd none (fun s' => by
        by_cases hm : s' ∈ l
        · simp [hm, hnone s' hm]
        · simp [hm])]
    · have hnex : ¬ ∃ s' ∈ l ++ [s], ((D s').get? t).isSome := by
        rintro ⟨s', hs', h⟩
        rcases List.mem_append.mp hs' with hm | hm
        · exact hl ⟨s', hm, h⟩
        · exact hs (List.mem_singleton.mp hm ▸ h)
      rw [if_neg hnex]
      simp [hs]

/-- **What the chain of joins computes**: at a timestamp some table has, the
rows of all of them. -/
theorem get?_joinTables (D : RawTables V) (l : List Series) (t : Timestamp) :
    (joinTables D l).get? t = joinedAt D l t := by
  cases l with
  | nil => simp [joinTables, joinedAt]
  | cons first rest =>
    have hfold : ∀ (rest pre : List Series) (acc : KeyedTable Timestamp (JoinedRow V)),
        (∀ t, acc.get? t = joinedAt D pre t) →
        ∀ t, (rest.foldl (joinTable D) acc).get? t = joinedAt D (pre ++ rest) t := by
      intro rest
      induction rest with
      | nil => intro pre acc hacc t; rw [List.append_nil]; exact hacc t
      | cons s rest ih =>
        intro pre acc hacc t
        rw [List.foldl_cons, ih (pre ++ [s]) _ (get?_joinTable D acc pre s hacc),
          List.append_assoc, List.singleton_append]
    refine hfold rest [first] _ (fun t => ?_) t
    rw [KeyedTable.get?_map, joinedAt]
    cases hrow : (D first).get? t with
    | none => simp [hrow]
    | some row =>
      have hex : ∃ s ∈ [first], ((D s).get? t).isSome := ⟨first, by simp, by simp [hrow]⟩
      rw [if_pos hex, Option.map_some]
      congr 1
      funext s
      by_cases hs : s = first
      · subst hs; simp [JoinedRow.with, hrow]
      · simp [JoinedRow.with, hs]

/-- **What the projection shows at a timestamp.** -/
theorem get?_rawFeatureProjection (D : RawTables V) (l : List Series) (t : Timestamp) :
    (rawFeatureProjection l D).get? t = (joinedAt D l t).map JoinedRow.toWide := by
  rw [rawFeatureProjection, KeyedTable.get?_map, get?_joinTables]

/-- **The projection commutes with the cut.** -/
@[simp] theorem truncate_rawFeatureProjection (D : RawTables V) (l : List Series) (T : Timestamp) :
    (rawFeatureProjection l D).truncate T = rawFeatureProjection l (D.truncate T) := by
  ext t : 1
  rw [KeyedTable.get?_truncate, get?_rawFeatureProjection, get?_rawFeatureProjection, joinedAt,
    joinedAt]
  simp only [RawTables.truncate, KeyedTable.get?_truncate]
  split_ifs <;> simp_all
