import MacroLoader.KeyedRows
import MacroLoader.Silver

/-!
# Monthly Parquet files

Bronze and Silver store a series as one file for each month, and never rewrite
more months than they have to. The frames that are compared and merged on the
way are lists of rows, with the names and types of their columns; what is done
to them – which rows are new, which are revised, which stay – depends on the
rows only through their key and through whether two rows have the same payload. The
columns of Bronze and Silver are fixed, and none has a name that the comparison uses for
columns of its own; what it does to frames of any columns is `diffColumns`, which is
`diffFrames` where no name is reserved.

`IsDiff.table_mergedFrame` says what a merge is: the upsert of one table into another.
-/

/-- **A file format**: values are written as bytes, and what has been written is read
back. -/
structure FileFormat (α : Type) where
  encode : α → Bytes
  decode : Bytes → Except PyError α
  readBack : ∀ a, decode (encode a) = .ok a

/-- Every countable type of values has a format. -/
theorem FileFormat.nonempty (α : Type) [Countable α] : Nonempty (FileFormat α) := by
  obtain ⟨number, hnumber⟩ := Countable.exists_injective_nat α
  classical
  refine ⟨⟨fun a => List.replicate (number a) 0, fun bytes =>
    if h : ∃ a, number a = bytes.length then .ok h.choose else .error (.valueError "not a file"),
    fun a => ?_⟩⟩
  have h : ∃ a', number a' = (List.replicate (number a) (0 : UInt8)).length :=
    ⟨a, List.length_replicate.symm⟩
  rw [dif_pos h, hnumber (h.choose_spec.trans List.length_replicate)]

instance countable_char : Countable Char :=
  Function.Injective.countable (f := Char.toNat) (fun _ _ h => Char.toNat_inj.mp h)

instance countable_string : Countable String :=
  Function.Injective.countable (f := String.toList) (fun _ _ h => String.toList_inj.mp h)

/-- A data frame: the names and types of its columns, and its rows. -/
structure Frame (ρ : Type) where
  schema : List (String × String)
  rows : List ρ

namespace Frame

variable {ρ : Type}

/-- `frame.columns`. -/
def columns (frame : Frame ρ) : List String := frame.schema.map Prod.fst

/-- `frame.is_empty()`. -/
def isEmpty (frame : Frame ρ) : Bool := frame.rows.isEmpty

/-- `frame.head(0)`. -/
def head0 (frame : Frame ρ) : Frame ρ := ⟨frame.schema, []⟩

/-- `pl.DataFrame()`. -/
def noColumns : Frame ρ := ⟨[], []⟩

end Frame

/-- **What the repository knows of the rows of a frame**: the columns that make the
key, the key of a row, and whether two rows have the same payload, that is,
`eq_missing` values in every column outside the key. -/
structure FrameLayout (ρ κ : Type) where
  keyColumns : List String
  keyOf : ρ → κ
  samePayload : ρ → ρ → Bool

/-- `eq_missing` on two columns of doubles: null is null, a NaN is a NaN, and the two
zeros are equal. -/
def Float64.eqMissing : Option Float64 → Option Float64 → Bool
  | none, none => true
  | some a, some b => a == b || a.isNaN && b.isNaN || a.isZero && b.isZero
  | _, _ => false

@[simp] theorem Float64.eqMissing_self (x : Option Float64) : Float64.eqMissing x x = true := by
  cases x <;> simp [Float64.eqMissing]

/-- The text of a list of column names. -/
def pyNames (names : List String) : String :=
  "[" ++ ", ".intercalate (names.map (fun name => "'" ++ name ++ "'")) ++ "]"

/-! ## Reading -/

/-- The year and the month of a date, in the order of the calendar. -/
abbrev Month := ℤ ×ₗ ℤ

/-- The month that a date is in. -/
def monthKey (d : Date) : Month := toLex (monthOf d)

/-- The month files of one series. -/
abbrev MonthFiles := KeyedTable Month Bytes

/-- Observed date bounds in persisted data. -/
structure ObservationBounds where
  minimum : Option Date
  maximum : Option Date
  deriving DecidableEq

section Reading

variable {ρ κ : Type} [LinearOrder κ]

/-- `pl.concat(frames, how="vertical_relaxed")`, of files that have one schema. -/
def concatFrames : List (Frame ρ) → Except PyError (Frame ρ)
  | [] => .ok Frame.noColumns
  | first :: rest => do
    check (∀ frame ∈ rest, frame.schema = first.schema)
      ⟨.other "SchemaError", "type of column does not match"⟩
    return ⟨first.schema, (first :: rest).flatMap Frame.rows⟩

/-- `frame.sort(list(sort_by))` by the columns of the key. -/
def sortByKey (layout : FrameLayout ρ κ) (frame : Frame ρ) : Except PyError (Frame ρ) := do
  let missing := layout.keyColumns.filter (fun column => decide (column ∉ frame.columns))
  check (missing = []) (.valueError ("sort key columns missing: " ++ pyNames missing))
  return ⟨frame.schema, KeyedRows.sortRows layout.keyOf frame.rows⟩

/-- `read_monthly` without a sort key. -/
def readMonths (decode : Bytes → Except PyError (Frame ρ)) (files : MonthFiles) :
    Except PyError (Frame ρ) := do
  let frames ← files.rows.mapM (fun file => decode file.2)
  concatFrames frames

/-- `read_monthly` with the columns of the key for a sort key. -/
def readMonthly (decode : Bytes → Except PyError (Frame ρ)) (layout : FrameLayout ρ κ)
    (files : MonthFiles) : Except PyError (Frame ρ) :=
  if files.rows.isEmpty then .ok Frame.noColumns
  else readMonths decode files >>= sortByKey layout

/-- The dates of a month file, at its bounds. -/
def fileBounds (decode : Bytes → Except PyError (Frame ρ)) (dateOf : ρ → Date)
    (pathOf : Month → String) (file : Month × Bytes) :
    Except PyError (Option Date × Option Date) := do
  let frame ← decode file.2
  check ("observation_date" ∈ frame.columns)
    (.valueError ("date column missing from " ++ pathOf file.1 ++ ": observation_date"))
  let minimum ← loadDate? (frame.rows.map dateOf).min?
  let maximum ← loadDate? (frame.rows.map dateOf).max?
  return (minimum, maximum)

/-- `observation_bounds`. -/
def observationBounds (decode : Bytes → Except PyError (Frame ρ)) (dateOf : ρ → Date)
    (pathOf : Month → String) (files : MonthFiles) : Except PyError ObservationBounds := do
  let bounds ← files.rows.mapM (fileBounds decode dateOf pathOf)
  return ⟨(bounds.filterMap Prod.fst).min?, (bounds.filterMap Prod.snd).max?⟩

end Reading

/-! ## Differences and merges -/

/-- `FrameDiff`: the incoming rows by what they are to the rows that are there. -/
structure FrameDiff (ρ : Type) where
  inserts : Frame ρ
  unchanged : Frame ρ
  revisions : Frame ρ

namespace FrameDiff

variable {ρ : Type}

/-- Inserted and revised rows. -/
def changed (diff : FrameDiff ρ) : Frame ρ :=
  if diff.inserts.isEmpty then diff.revisions
  else if diff.revisions.isEmpty then diff.inserts
  else ⟨diff.inserts.schema, diff.inserts.rows ++ diff.revisions.rows⟩

/-- Whether persistence work is required. -/
def hasChanges (diff : FrameDiff ρ) : Bool := !diff.inserts.isEmpty || !diff.revisions.isEmpty

end FrameDiff

section Merging

variable {ρ κ : Type} [LinearOrder κ] (layout : FrameLayout ρ κ)

/-- `_ensure_compatible`. -/
def ensureCompatible (existing incoming : Frame ρ) : Except PyError Unit :=
  if existing.isEmpty then .ok ()
  else do
    check (existing.columns = incoming.columns)
      (.valueError "existing and incoming columns must match exactly")
    check (existing.schema = incoming.schema)
      (.valueError "existing and incoming dtypes must match exactly")

/-- `_ensure_unique`, of a key that is counted. -/
def ensureUnique (frame : Frame ρ) (label : String) : Except PyError Unit := do
  check (layout.keyColumns ≠ []) (.valueError "natural key must not be empty")
  let missing := layout.keyColumns.filter (fun column => decide (column ∉ frame.columns))
  check (missing = [])
    (.valueError ("natural key columns missing from " ++ label ++ ": " ++ pyNames missing))
  check (frame.rows.map layout.keyOf).Nodup (.valueError ("duplicate natural keys in " ++ label))

/-- The row of a frame that a row joins with on the key. -/
def oldRow (existing : Frame ρ) (row : ρ) : Option ρ :=
  existing.rows.find? (fun old => decide (layout.keyOf old = layout.keyOf row))

/-- The classification of the incoming rows, in their order. -/
def classify (existing incoming : Frame ρ) : FrameDiff ρ where
  inserts := ⟨incoming.schema,
    incoming.rows.filter (fun row => (oldRow layout existing row).isNone)⟩
  unchanged := ⟨incoming.schema,
    incoming.rows.filter (fun row => (oldRow layout existing row).any (layout.samePayload row))⟩
  revisions := ⟨incoming.schema,
    incoming.rows.filter (fun row =>
      (oldRow layout existing row).any (fun old => !layout.samePayload row old))⟩

/-- `diff_frames`, of frames without reserved names. -/
def diffFrames (existing incoming : Frame ρ) : Except PyError (FrameDiff ρ) := do
  ensureUnique layout incoming "incoming"
  ensureUnique layout existing "existing"
  if incoming.isEmpty then .ok ⟨incoming, incoming, incoming⟩
  else do
    ensureCompatible existing incoming
    return if existing.isEmpty then ⟨incoming, incoming.head0, incoming.head0⟩
      else classify layout existing incoming

/-- The rows of a merge, when the incoming rows have been classified. -/
def mergedFrame (existing incoming : Frame ρ) (diff : FrameDiff ρ) : Frame ρ :=
  if !diff.hasChanges then existing
  else if existing.isEmpty then ⟨incoming.schema, KeyedRows.sortRows layout.keyOf incoming.rows⟩
  else
    let retained := existing.rows.filter (fun old =>
      decide (layout.keyOf old ∉ diff.changed.rows.map layout.keyOf))
    ⟨existing.schema, KeyedRows.sortRows layout.keyOf (retained ++ diff.changed.rows)⟩

/-- **`merge_frames`**, of frames without reserved names. -/
def mergeFrames (existing incoming : Frame ρ) : Except PyError (Frame ρ × FrameDiff ρ) := do
  let diff ← diffFrames layout existing incoming
  return (mergedFrame layout existing incoming diff, diff)

end Merging

/-! ## What a merge is -/

section Specs

variable {ρ κ : Type} [LinearOrder κ] {layout : FrameLayout ρ κ}
  {existing incoming merged : Frame ρ} {diff : FrameDiff ρ}

@[simp] theorem Frame.isEmpty_iff {frame : Frame ρ} : frame.isEmpty = true ↔ frame.rows = [] :=
  List.isEmpty_iff

@[simp] theorem FrameDiff.changed_rows (diff : FrameDiff ρ) :
    diff.changed.rows = diff.inserts.rows ++ diff.revisions.rows := by
  unfold FrameDiff.changed
  split_ifs with hi hr
  · rw [Frame.isEmpty_iff.mp hi, List.nil_append]
  · rw [Frame.isEmpty_iff.mp hr, List.append_nil]
  · rfl

theorem FrameDiff.hasChanges_eq_false (diff : FrameDiff ρ) :
    diff.hasChanges = false ↔ diff.changed.rows = [] := by
  rw [changed_rows, List.append_eq_nil_iff, hasChanges, Bool.or_eq_false_iff, Bool.not_eq_false',
    Bool.not_eq_false', Frame.isEmpty_iff, Frame.isEmpty_iff]

theorem ensureUnique_eq_ok {frame : Frame ρ} {label : String}
    (h : ensureUnique layout frame label = .ok ()) :
    (frame.rows.map layout.keyOf).Nodup ∧ ∀ column ∈ layout.keyColumns, column ∈ frame.columns := by
  unfold ensureUnique at h
  simp only [bind_eq_ok, check_eq_ok, exists_const] at h
  refine ⟨h.2.2, fun column hcolumn => ?_⟩
  by_contra hmissing
  have hmem : column ∈ layout.keyColumns.filter (fun column => decide (column ∉ frame.columns)) :=
    List.mem_filter.mpr ⟨hcolumn, decide_eq_true hmissing⟩
  rw [h.2.1] at hmem
  cases hmem

theorem ensureCompatible_eq_ok (h : ensureCompatible existing incoming = .ok ()) :
    existing.rows = [] ∨ existing.schema = incoming.schema := by
  unfold ensureCompatible at h
  split_ifs at h with hempty
  · exact .inl (Frame.isEmpty_iff.mp hempty)
  · simp only [bind_eq_ok, check_eq_ok, exists_const] at h
    exact .inr h.2

/-- The row that a row joins with, where keys are distinct. -/
theorem oldRow_eq_some (h : (existing.rows.map layout.keyOf).Nodup) {row old : ρ} :
    oldRow layout existing row = some old
      ↔ old ∈ existing.rows ∧ layout.keyOf old = layout.keyOf row := by
  unfold oldRow
  constructor
  · intro hold
    exact ⟨List.mem_of_find?_eq_some hold, of_decide_eq_true (List.find?_some hold :)⟩
  · rintro ⟨hold, hkey⟩
    cases hfound : existing.rows.find? (fun o => decide (layout.keyOf o = layout.keyOf row)) with
    | none =>
      have hno := List.find?_eq_none.mp hfound old hold
      exact absurd (decide_eq_true hkey) hno
    | some other =>
      have hother : layout.keyOf other = layout.keyOf row :=
        of_decide_eq_true (List.find?_some hfound :)
      rw [List.inj_on_of_nodup_map h (List.mem_of_find?_eq_some hfound) hold
        (hother.trans hkey.symm)]

/-- **What a difference finds**: the rows that are neither there nor the same as the one
that is there, the latter among the revisions and the others among the inserts. -/
structure IsDiff (layout : FrameLayout ρ κ) (existing incoming : Frame ρ) (diff : FrameDiff ρ) :
    Prop where
  existing_nodup : (existing.rows.map layout.keyOf).Nodup
  incoming_nodup : (incoming.rows.map layout.keyOf).Nodup
  mem_inserts : ∀ r, r ∈ diff.inserts.rows ↔ r ∈ incoming.rows
    ∧ ∀ old ∈ existing.rows, layout.keyOf old ≠ layout.keyOf r
  mem_unchanged : ∀ r, r ∈ diff.unchanged.rows ↔ r ∈ incoming.rows
    ∧ ∃ old ∈ existing.rows, layout.keyOf old = layout.keyOf r ∧ layout.samePayload r old = true
  mem_revisions : ∀ r, r ∈ diff.revisions.rows ↔ r ∈ incoming.rows
    ∧ ∃ old ∈ existing.rows, layout.keyOf old = layout.keyOf r ∧ layout.samePayload r old = false
  changed_nodup : (diff.changed.rows.map layout.keyOf).Nodup
  compatible : existing.rows = [] ∨ incoming.rows = [] ∨ existing.schema = incoming.schema
  columns : ∀ column ∈ layout.keyColumns, column ∈ existing.columns

omit [LinearOrder κ] in
/-- Keys that are distinct are so in a part of the rows. -/
theorem nodup_map_filter {rows : List ρ} (h : (rows.map layout.keyOf).Nodup) (p : ρ → Bool) :
    ((rows.filter p).map layout.keyOf).Nodup :=
  h.sublist (List.filter_sublist.map layout.keyOf)

theorem isDiff_of_ok (h : diffFrames layout existing incoming = .ok diff) :
    IsDiff layout existing incoming diff := by
  unfold diffFrames at h
  simp only [bind_eq_ok] at h
  obtain ⟨⟨⟩, hincoming, ⟨⟩, hexisting, h⟩ := h
  obtain ⟨hnodup, -⟩ := ensureUnique_eq_ok hincoming
  obtain ⟨hnodup', hcolumns⟩ := ensureUnique_eq_ok hexisting
  by_cases hempty : incoming.isEmpty = true
  · -- nothing comes in
    rw [if_pos hempty] at h
    have hrows := Frame.isEmpty_iff.mp hempty
    obtain rfl := Except.ok.inj h
    exact ⟨hnodup', hnodup, by simp [hrows], by simp [hrows], by simp [hrows], by simp [hrows],
      .inr (.inl hrows), hcolumns⟩
  · rw [if_neg hempty] at h
    obtain ⟨⟨⟩, hcompatible, h⟩ := bind_eq_ok.mp h
    have hcompatible := ensureCompatible_eq_ok hcompatible
    split_ifs at h with hnone
    · -- nothing is there
      have hrows := Frame.isEmpty_iff.mp hnone
      obtain rfl := Except.ok.inj h
      refine ⟨hnodup', hnodup, by simp [hrows], by simp [hrows, Frame.head0],
        by simp [hrows, Frame.head0], ?_, .inl hrows, hcolumns⟩
      rw [FrameDiff.changed_rows]
      simpa [Frame.head0] using hnodup
    · obtain rfl := Except.ok.inj h
      refine ⟨hnodup', hnodup, fun r => ?_, fun r => ?_, fun r => ?_, ?_,
        hcompatible.imp id .inr, hcolumns⟩
      · rw [classify, List.mem_filter]
        refine and_congr_right (fun _ => ?_)
        rw [Option.isNone_iff_eq_none, Option.eq_none_iff_forall_ne_some]
        exact ⟨fun hno old hold hkey => hno old ((oldRow_eq_some hnodup').mpr ⟨hold, hkey⟩),
          fun hno old hold => hno old ((oldRow_eq_some hnodup').mp hold).1
            ((oldRow_eq_some hnodup').mp hold).2⟩
      · rw [classify, List.mem_filter]
        simp only [Option.any_eq_true, oldRow_eq_some hnodup', and_assoc]
      · rw [classify, List.mem_filter]
        simp only [Option.any_eq_true, oldRow_eq_some hnodup', and_assoc, Bool.not_eq_true']
      · -- an inserted and a revised row are two rows
        rw [FrameDiff.changed_rows, List.map_append]
        refine List.Nodup.append (nodup_map_filter hnodup _) (nodup_map_filter hnodup _) ?_
        intro k hk hk'
        obtain ⟨r, hr, rfl⟩ := List.mem_map.mp hk
        obtain ⟨r', hr', hkey⟩ := List.mem_map.mp hk'
        rw [classify, List.mem_filter] at hr hr'
        obtain rfl := List.inj_on_of_nodup_map hnodup hr'.1 hr.1 hkey
        obtain ⟨old, hold, -⟩ := (Option.any_eq_true _ _).mp hr'.2
        rw [hold] at hr
        simp at hr

theorem ensureUnique_isOk {frame : Frame ρ} {label : String} (hkey : layout.keyColumns ≠ [])
    (hcolumns : ∀ column ∈ layout.keyColumns, column ∈ frame.columns)
    (hnodup : (frame.rows.map layout.keyOf).Nodup) : ensureUnique layout frame label = .ok () := by
  have hmissing : layout.keyColumns.filter (fun column => decide (column ∉ frame.columns)) = [] :=
    List.filter_eq_nil_iff.mpr (fun column hcolumn => by simpa using hcolumns column hcolumn)
  refine bind_eq_ok.mpr ⟨(), check_eq_ok.mpr hkey, bind_eq_ok.mpr ⟨(), check_eq_ok.mpr hmissing, ?_⟩⟩
  exact check_eq_ok.mpr hnodup

/-- Two frames of one schema with distinct keys can be compared. -/
theorem diffFrames_isOk (hkey : layout.keyColumns ≠ [])
    (hcolumns : ∀ column ∈ layout.keyColumns, column ∈ incoming.columns)
    (hschema : existing.schema = incoming.schema)
    (hexisting : (existing.rows.map layout.keyOf).Nodup)
    (hincoming : (incoming.rows.map layout.keyOf).Nodup) :
    ∃ diff, diffFrames layout existing incoming = .ok diff := by
  have hcolumns' : existing.columns = incoming.columns := by rw [Frame.columns, hschema]; rfl
  have hcompatible : ensureCompatible existing incoming = .ok () := by
    unfold ensureCompatible
    split_ifs
    · rfl
    · exact bind_eq_ok.mpr ⟨(), check_eq_ok.mpr hcolumns', check_eq_ok.mpr hschema⟩
  unfold diffFrames
  rw [ensureUnique_isOk hkey hcolumns hincoming,
    ensureUnique_isOk hkey (hcolumns' ▸ hcolumns) hexisting]
  show ∃ diff, (if incoming.isEmpty = true then _ else _) = Except.ok diff
  by_cases hempty : incoming.isEmpty = true
  · rw [if_pos hempty]
    exact ⟨_, rfl⟩
  · rw [if_neg hempty, hcompatible]
    exact ⟨_, rfl⟩

/-- The changed rows are the new ones that do not count as the row that is there. -/
theorem IsDiff.mem_changed (h : IsDiff layout existing incoming diff) {r : ρ} :
    r ∈ diff.changed.rows ↔ r ∈ incoming.rows
      ∧ ∀ old ∈ existing.rows, layout.keyOf old = layout.keyOf r →
        layout.samePayload r old = false := by
  rw [FrameDiff.changed_rows, List.mem_append, h.mem_inserts, h.mem_revisions, ← and_or_left]
  refine and_congr_right (fun _ => ⟨?_, fun hall => ?_⟩)
  · rintro (hno | ⟨old, hold, hkey, hsame⟩) old' hold' hkey'
    · exact absurd hkey' (hno old' hold')
    · rwa [List.inj_on_of_nodup_map h.existing_nodup hold' hold (hkey'.trans hkey.symm)]
  · by_cases hex : ∃ old ∈ existing.rows, layout.keyOf old = layout.keyOf r
    · obtain ⟨old, hold, hkey⟩ := hex
      exact .inr ⟨old, hold, hkey, hall old hold hkey⟩
    · push Not at hex
      exact .inl hex

/-- **The rows of a merge**: the changed ones, and the old ones of all other keys. -/
theorem IsDiff.mem_mergedFrame (h : IsDiff layout existing incoming diff) {r : ρ} :
    r ∈ (mergedFrame layout existing incoming diff).rows ↔ r ∈ diff.changed.rows
      ∨ r ∈ existing.rows ∧ layout.keyOf r ∉ diff.changed.rows.map layout.keyOf := by
  unfold mergedFrame
  split_ifs with hchanges hempty
  · rw [Bool.not_eq_true', FrameDiff.hasChanges_eq_false] at hchanges
    simp only [hchanges, List.map_nil, List.not_mem_nil, not_false_eq_true, and_true, false_or]
  · have hrows := Frame.isEmpty_iff.mp hempty
    rw [KeyedRows.mem_sortRows, h.mem_changed]
    simp [hrows]
  · rw [KeyedRows.mem_sortRows, List.mem_append, List.mem_filter, decide_eq_true_iff, or_comm]

/-- A merge has one row for each key. -/
theorem IsDiff.nodup_mergedFrame (h : IsDiff layout existing incoming diff) :
    ((mergedFrame layout existing incoming diff).rows.map layout.keyOf).Nodup := by
  unfold mergedFrame
  split_ifs with hchanges hempty
  · exact h.existing_nodup
  · exact KeyedRows.nodup_sortRows h.incoming_nodup
  · refine KeyedRows.nodup_sortRows ?_
    rw [List.map_append]
    refine List.Nodup.append (nodup_map_filter h.existing_nodup _) h.changed_nodup ?_
    intro k hk hk'
    obtain ⟨r, hr, rfl⟩ := List.mem_map.mp hk
    exact of_decide_eq_true (List.mem_filter.mp hr).2 hk'

/-- A merge is in key order if what is there is. -/
theorem IsDiff.sorted_mergedFrame (h : IsDiff layout existing incoming diff)
    (hsorted : KeyedRows.Sorted layout.keyOf existing.rows) :
    KeyedRows.Sorted layout.keyOf (mergedFrame layout existing incoming diff).rows := by
  have hnodup := h.nodup_mergedFrame
  unfold mergedFrame at hnodup ⊢
  split_ifs at hnodup ⊢ with hchanges hempty
  · exact hsorted
  · exact KeyedRows.sorted_sortRows h.incoming_nodup
  · exact KeyedRows.sorted_sortRows
      (((KeyedRows.perm_sortRows _ _).map layout.keyOf).nodup_iff.mp hnodup)

/-- **A merge is an upsert.** -/
theorem IsDiff.table_mergedFrame (h : IsDiff layout existing incoming diff) :
    KeyedRows.table layout.keyOf (mergedFrame layout existing incoming diff).rows
      = (KeyedRows.table layout.keyOf existing.rows).upsert layout.samePayload
        (KeyedRows.table layout.keyOf incoming.rows) := by
  ext k r
  rw [KeyedRows.mem_table h.nodup_mergedFrame, h.mem_mergedFrame, KeyedTable.get?_upsert]
  cases hlook : (KeyedRows.table layout.keyOf existing.rows).get? k with
  | none =>
    have hno := (KeyedRows.get?_table_eq_none h.existing_nodup).mp hlook
    cases hlook' : (KeyedRows.table layout.keyOf incoming.rows).get? k with
    | none =>
      have hno' := (KeyedRows.get?_table_eq_none h.incoming_nodup).mp hlook'
      simp only [KeyedTable.upsertRow, reduceCtorEq, iff_false]
      rintro ⟨hr | hr, hk⟩
      · exact hno' r (h.mem_changed.mp hr).1 hk
      · exact hno r hr.1 hk
    | some new =>
      obtain ⟨hnew, rfl⟩ := (KeyedRows.mem_table h.incoming_nodup).mp hlook'
      simp only [KeyedTable.upsertRow, Option.some.injEq]
      constructor
      · rintro ⟨hr | hr, hk⟩
        · exact List.inj_on_of_nodup_map h.incoming_nodup hnew (h.mem_changed.mp hr).1 hk.symm
        · exact absurd hk (hno r hr.1)
      · rintro rfl
        exact ⟨.inl (h.mem_changed.mpr ⟨hnew, fun old hmem hk => absurd hk (hno old hmem)⟩), rfl⟩
  | some old =>
    obtain ⟨hold, rfl⟩ := (KeyedRows.mem_table h.existing_nodup).mp hlook
    have holds : ∀ r ∈ existing.rows, layout.keyOf r = layout.keyOf old → r = old :=
      fun r hr hk => List.inj_on_of_nodup_map h.existing_nodup hr hold hk
    cases hlook' : (KeyedRows.table layout.keyOf incoming.rows).get? (layout.keyOf old) with
    | none =>
      have hno' := (KeyedRows.get?_table_eq_none h.incoming_nodup).mp hlook'
      have hout : layout.keyOf old ∉ diff.changed.rows.map layout.keyOf := by
        intro hk
        obtain ⟨r, hr, hk⟩ := List.mem_map.mp hk
        exact hno' r (h.mem_changed.mp hr).1 hk
      simp only [KeyedTable.upsertRow, Option.some.injEq]
      constructor
      · rintro ⟨hr | hr, hk⟩
        · exact absurd hk (hno' r (h.mem_changed.mp hr).1)
        · exact (holds r hr.1 hk).symm
      · rintro rfl
        exact ⟨.inr ⟨hold, hout⟩, rfl⟩
    | some new =>
      obtain ⟨hnew, hkey⟩ := (KeyedRows.mem_table h.incoming_nodup).mp hlook'
      have hchanged : new ∈ diff.changed.rows ↔ layout.samePayload new old = false := by
        rw [h.mem_changed]
        exact ⟨fun hc => hc.2 old hold hkey.symm, fun hsame =>
          ⟨hnew, fun old' hold' hk => by rwa [holds old' hold' (hk.trans hkey)]⟩⟩
      have hnews : ∀ r ∈ diff.changed.rows, layout.keyOf r = layout.keyOf old → r = new :=
        fun r hr hk => List.inj_on_of_nodup_map h.incoming_nodup (h.mem_changed.mp hr).1 hnew
          (hk.trans hkey.symm)
      simp only [KeyedTable.upsertRow, Option.some.injEq]
      split_ifs with hsame
      · have hout : layout.keyOf old ∉ diff.changed.rows.map layout.keyOf := by
          intro hk
          obtain ⟨r, hr, hk⟩ := List.mem_map.mp hk
          rw [hnews r hr hk, hchanged, hsame] at hr
          cases hr
        constructor
        · rintro ⟨hr | hr, hk⟩
          · exact absurd (List.mem_map.mpr ⟨r, hr, hk⟩) hout
          · exact (holds r hr.1 hk).symm
        · rintro rfl
          exact ⟨.inr ⟨hold, hout⟩, rfl⟩
      · have hin : new ∈ diff.changed.rows := hchanged.mpr (by simpa using hsame)
        constructor
        · rintro ⟨hr | hr, hk⟩
          · exact (hnews r hr hk).symm
          · exact absurd (List.mem_map.mpr ⟨new, hin, hkey.trans hk.symm⟩) hr.2
        · rintro rfl
          exact ⟨.inl hin, hkey⟩

end Specs

/-! ## What the month files hold -/

section Storage

variable {ρ κ : Type} [LinearOrder κ]

/-- **The month files of a series hold a frame**: every file has the schema of the frame
and the rows of its own month, and there is a file wherever there are rows. -/
structure MonthsHold (decode : Bytes → Except PyError (Frame ρ)) (layout : FrameLayout ρ κ)
    (monthOf : ρ → Month) (files : MonthFiles) (frame : Frame ρ) : Prop where
  sorted : KeyedRows.Sorted layout.keyOf frame.rows
  file : ∀ month bytes, files.get? month = some bytes → ∃ f, decode bytes = .ok f
    ∧ f.schema = frame.schema ∧ (f.rows.map layout.keyOf).Nodup
    ∧ ∀ r, r ∈ f.rows ↔ r ∈ frame.rows ∧ monthOf r = month
  covered : ∀ r ∈ frame.rows, (files.get? (monthOf r)).isSome = true
  columns : files.rows ≠ [] → ∀ column ∈ layout.keyColumns, column ∈ frame.columns

variable {decode : Bytes → Except PyError (Frame ρ)} {layout : FrameLayout ρ κ}
  {monthOf : ρ → Month} {files : MonthFiles} {frame : Frame ρ}

/-- No file holds no rows. -/
theorem MonthsHold.rows_eq_nil (h : MonthsHold decode layout monthOf files frame)
    (hfiles : files.rows = []) : frame.rows = [] := by
  refine List.eq_nil_iff_forall_not_mem.mpr (fun r hr => ?_)
  obtain ⟨bytes, hbytes⟩ := Option.isSome_iff_exists.mp (h.covered r hr)
  have hmem := KeyedTable.mem_rows_iff.mpr hbytes
  rw [hfiles] at hmem
  cases hmem

theorem monthsHold_empty (schema : List (String × String)) :
    MonthsHold decode layout monthOf KeyedTable.empty ⟨schema, []⟩ where
  sorted := List.Pairwise.nil
  file _ _ h := by cases h
  covered _ h := by cases h
  columns h := absurd rfl h

/-- The frames of the files, one for each. -/
theorem MonthsHold.forall₂ (h : MonthsHold decode layout monthOf files frame) :
    ∃ frames, files.rows.mapM (fun file => decode file.2) = .ok frames
      ∧ List.Forall₂ (fun file f => f.schema = frame.schema ∧ (f.rows.map layout.keyOf).Nodup
        ∧ ∀ r, r ∈ f.rows ↔ r ∈ frame.rows ∧ monthOf r = file.1) files.rows frames := by
  exact exists_mapM_eq_ok (fun file hfile =>
    h.file file.1 file.2 (KeyedTable.mem_rows_iff.mp hfile))

/-- **The files together have each row once.** -/
theorem MonthsHold.perm_flatMap {frames : List (Frame ρ)}
    (h : MonthsHold decode layout monthOf files frame)
    (hframes : List.Forall₂ (fun file f => f.schema = frame.schema
      ∧ (f.rows.map layout.keyOf).Nodup
      ∧ ∀ r, r ∈ f.rows ↔ r ∈ frame.rows ∧ monthOf r = file.1) files.rows frames) :
    (frames.flatMap Frame.rows).Perm frame.rows := by
  refine (List.perm_ext_iff_of_nodup ?_ (List.Nodup.of_map _ h.sorted.nodup)).mpr (fun r => ?_)
  · -- two files are of two months, so they have no row in common
    refine List.nodup_flatMap.mpr ⟨fun f hf => ?_, ?_⟩
    · obtain ⟨file, -, -, hnodup, -⟩ := forall₂_exists_left hframes hf
      exact List.Nodup.of_map _ hnodup
    · have hsorted := files.sorted
      clear h
      generalize files.rows = rows at hframes hsorted
      induction hframes with
      | nil => exact List.Pairwise.nil
      | cons hfirst hrest ih =>
        rw [List.pairwise_cons] at hsorted
        refine List.pairwise_cons.mpr ⟨fun f hf => ?_, ih hsorted.2⟩
        obtain ⟨file, hfile, -, -, hrows⟩ := forall₂_exists_left hrest hf
        intro r hr hr'
        have hmonth := ((hfirst.2.2 r).mp hr).2
        rw [((hrows r).mp hr').2] at hmonth
        exact absurd hmonth (ne_of_gt (hsorted.1 file hfile))
  · rw [List.mem_flatMap]
    constructor
    · rintro ⟨f, hf, hr⟩
      obtain ⟨file, -, -, -, hrows⟩ := forall₂_exists_left hframes hf
      exact ((hrows r).mp hr).1
    · intro hr
      obtain ⟨bytes, hbytes⟩ := Option.isSome_iff_exists.mp (h.covered r hr)
      obtain ⟨f, hf, -, -, hrows⟩ :=
        forall₂_exists_right hframes (KeyedTable.mem_rows_iff.mpr hbytes)
      exact ⟨f, hf, (hrows r).mpr ⟨hr, rfl⟩⟩

theorem concatFrames_eq_ok {frames : List (Frame ρ)} (hne : frames ≠ [])
    {schema : List (String × String)} (h : ∀ f ∈ frames, f.schema = schema) :
    concatFrames frames = .ok ⟨schema, frames.flatMap Frame.rows⟩ := by
  cases frames with
  | nil => exact absurd rfl hne
  | cons first rest =>
    have hfirst := h first List.mem_cons_self
    have hrest : ∀ f ∈ rest, f.schema = first.schema :=
      fun f hf => (h f (List.mem_cons_of_mem _ hf)).trans hfirst.symm
    refine bind_eq_ok.mpr ⟨(), check_eq_ok.mpr hrest, ?_⟩
    rw [hfirst]
    rfl

theorem MonthsHold.readMonths_eq (h : MonthsHold decode layout monthOf files frame)
    (hfiles : files.rows ≠ []) :
    ∃ rows, readMonths decode files = .ok ⟨frame.schema, rows⟩ ∧ rows.Perm frame.rows := by
  obtain ⟨frames, hread, hframes⟩ := h.forall₂
  have hne : frames ≠ [] := by
    rintro rfl
    exact hfiles (List.forall₂_nil_right_iff.mp hframes)
  have hschema : ∀ f ∈ frames, f.schema = frame.schema := fun f hf => by
    obtain ⟨file, -, hschema, -⟩ := forall₂_exists_left hframes hf
    exact hschema
  exact ⟨_, bind_eq_ok.mpr ⟨frames, hread, concatFrames_eq_ok hne hschema⟩,
    h.perm_flatMap hframes⟩

/-- Sorting puts rows back in order. -/
theorem sortRows_of_perm {rows rows' : List ρ} (hsorted : KeyedRows.Sorted layout.keyOf rows')
    (hperm : rows.Perm rows') : KeyedRows.sortRows layout.keyOf rows = rows' := by
  have hnodup : (rows.map layout.keyOf).Nodup :=
    (hperm.map layout.keyOf).nodup_iff.mpr hsorted.nodup
  exact KeyedRows.eq_of_table_eq (KeyedRows.sorted_sortRows hnodup) hsorted
    (KeyedRows.table_congr (KeyedRows.nodup_sortRows hnodup) hsorted.nodup
      (fun r => KeyedRows.mem_sortRows.trans hperm.mem_iff))

/-- **The frame is read back from its months.** -/
theorem MonthsHold.readMonthly_eq (h : MonthsHold decode layout monthOf files frame) :
    readMonthly decode layout files = .ok (if files.rows = [] then Frame.noColumns else frame) := by
  by_cases hfiles : files.rows = []
  · rw [readMonthly, if_pos (List.isEmpty_iff.mpr hfiles), if_pos hfiles]
  · obtain ⟨rows, hread, hperm⟩ := h.readMonths_eq hfiles
    rw [readMonthly, if_neg (fun hempty => hfiles (List.isEmpty_iff.mp hempty)), if_neg hfiles,
      hread]
    have hmissing : layout.keyColumns.filter (fun column => decide (column ∉ frame.columns)) = [] :=
      List.filter_eq_nil_iff.mpr (fun column hcolumn => by simpa using h.columns hfiles column hcolumn)
    show sortByKey layout ⟨frame.schema, rows⟩ = _
    refine bind_eq_ok.mpr ⟨(), check_eq_ok.mpr hmissing, ?_⟩
    rw [sortRows_of_perm h.sorted hperm]
    rfl

/-- **Rewriting the months that have changed**: where a frame differs from what the files
hold in some months only, and these are written, the files hold that frame. -/
theorem MonthsHold.rewrite {merged : Frame ρ} {files' : MonthFiles} {months : List Month}
    {encode : Frame ρ → Bytes} (hback : ∀ f, decode (encode f) = .ok f)
    (h : MonthsHold decode layout monthOf files frame)
    (hsorted : KeyedRows.Sorted layout.keyOf merged.rows)
    (hschema : files.rows ≠ [] → merged.schema = frame.schema)
    (hcolumns : ∀ column ∈ layout.keyColumns, column ∈ merged.columns)
    (hsame : ∀ r, monthOf r ∉ months → (r ∈ merged.rows ↔ r ∈ frame.rows))
    (hfiles' : ∀ month, files'.get? month = if month ∈ months then
      some (encode ⟨merged.schema, merged.rows.filter (fun r => decide (monthOf r = month))⟩)
      else files.get? month) :
    MonthsHold decode layout monthOf files' merged where
  sorted := hsorted
  columns _ := hcolumns
  covered r hr := by
    rw [hfiles']
    split_ifs with hmonth
    · rfl
    · exact h.covered r ((hsame r hmonth).mp hr)
  file month bytes hbytes := by
    rw [hfiles'] at hbytes
    split_ifs at hbytes with hmonth
    · -- a month that has been written
      obtain rfl := Option.some.inj hbytes
      refine ⟨_, hback _, rfl, (hsorted.filter _).nodup, fun r => ?_⟩
      rw [List.mem_filter, decide_eq_true_iff]
    · -- a month that has been left alone
      obtain ⟨f, hf, hfschema, hnodup, hrows⟩ := h.file month bytes hbytes
      have hne : files.rows ≠ [] := fun hnil => by
        have hmem := KeyedTable.mem_rows_iff.mpr hbytes
        rw [hnil] at hmem
        cases hmem
      refine ⟨f, hf, hfschema.trans (hschema hne).symm, hnodup, fun r => ?_⟩
      rw [hrows]
      exact ⟨fun hr => ⟨(hsame r (hr.2 ▸ hmonth)).mpr hr.1, hr.2⟩,
        fun hr => ⟨(hsame r (hr.2 ▸ hmonth)).mp hr.1, hr.2⟩⟩

/-- **Writing some months of a merge** leaves a mixture: the rows of the merge in the months
that have been written, and the old rows in the others. -/
theorem MonthsHold.mix {merged : Frame ρ} {files' : MonthFiles} {written : List Month}
    {encode : Frame ρ → Bytes} (hback : ∀ f, decode (encode f) = .ok f)
    (h : MonthsHold decode layout monthOf files frame)
    (hsorted : KeyedRows.Sorted layout.keyOf merged.rows) (hschema : merged.schema = frame.schema)
    (hcolumns : ∀ column ∈ layout.keyColumns, column ∈ merged.columns)
    (hmonth : ∀ r r', layout.keyOf r = layout.keyOf r' → monthOf r = monthOf r')
    (hfiles' : ∀ month, files'.get? month = if month ∈ written then
      some (encode ⟨merged.schema, merged.rows.filter (fun r => decide (monthOf r = month))⟩)
      else files.get? month) :
    ∃ mixed, MonthsHold decode layout monthOf files' mixed ∧ mixed.schema = merged.schema
      ∧ ∀ r, r ∈ mixed.rows ↔ monthOf r ∈ written ∧ r ∈ merged.rows
        ∨ monthOf r ∉ written ∧ r ∈ frame.rows := by
  let rows := merged.rows.filter (fun r => decide (monthOf r ∈ written))
    ++ frame.rows.filter (fun r => decide (monthOf r ∉ written))
  have hmem : ∀ r, r ∈ rows ↔ monthOf r ∈ written ∧ r ∈ merged.rows
      ∨ monthOf r ∉ written ∧ r ∈ frame.rows := fun r => by
    simp only [rows, List.mem_append, List.mem_filter, decide_eq_true_iff, and_comm]
  have hnodup : (rows.map layout.keyOf).Nodup := by
    rw [List.map_append]
    refine List.Nodup.append (hsorted.filter _).nodup (h.sorted.filter _).nodup ?_
    -- rows of one key are of one month
    intro k hk hk'
    obtain ⟨r, hr, rfl⟩ := List.mem_map.mp hk
    obtain ⟨r', hr', hkey⟩ := List.mem_map.mp hk'
    have hin : monthOf r ∈ written := of_decide_eq_true (List.mem_filter.mp hr).2
    rw [← hmonth r' r hkey] at hin
    exact absurd hin (of_decide_eq_true (List.mem_filter.mp hr').2)
  have hsortedRows := KeyedRows.sorted_sortRows hnodup
  have hsame : ∀ r, monthOf r ∉ written →
      (r ∈ KeyedRows.sortRows layout.keyOf rows ↔ r ∈ frame.rows) := by
    intro r hr
    rw [KeyedRows.mem_sortRows, hmem]
    exact ⟨fun hr' => (hr'.resolve_left (fun hin => hr hin.1)).2, fun hr' => .inr ⟨hr, hr'⟩⟩
  have hfilter : ∀ month ∈ written, merged.rows.filter (fun r => decide (monthOf r = month))
      = (KeyedRows.sortRows layout.keyOf rows).filter (fun r => decide (monthOf r = month)) := by
    intro month hwritten
    refine KeyedRows.eq_of_table_eq (hsorted.filter _) (hsortedRows.filter _)
      (KeyedRows.table_congr (hsorted.filter _).nodup (hsortedRows.filter _).nodup (fun r => ?_))
    rw [List.mem_filter, List.mem_filter, KeyedRows.mem_sortRows, hmem, decide_eq_true_iff]
    refine and_congr_left (fun hr => ?_)
    subst hr
    exact ⟨fun hr => .inl ⟨hwritten, hr⟩,
      fun hr => (hr.resolve_right (fun hout => hout.1 hwritten)).2⟩
  refine ⟨⟨merged.schema, KeyedRows.sortRows layout.keyOf rows⟩,
    h.rewrite hback hsortedRows (fun _ => hschema) hcolumns hsame (fun month => ?_), rfl,
    fun r => KeyedRows.mem_sortRows.trans (hmem r)⟩
  rw [hfiles' month]
  split_ifs with hwritten
  · rw [hfilter month hwritten]
  · rfl

/-! ### Bounds -/

/-- The least of some lists' least elements. -/
theorem min?_of_forall {l : List Date} {lists : List (List Date)}
    (h : ∀ d, d ∈ l ↔ ∃ part ∈ lists, d ∈ part) : (lists.filterMap List.min?).min? = l.min? := by
  cases hmin : l.min? with
  | none =>
    rw [List.min?_eq_none_iff] at hmin ⊢
    refine List.filterMap_eq_nil_iff.mpr (fun part hpart => ?_)
    refine List.min?_eq_none_iff.mpr (List.eq_nil_iff_forall_not_mem.mpr (fun d hd => ?_))
    have hmem := (h d).mpr ⟨part, hpart, hd⟩
    rw [hmin] at hmem
    cases hmem
  | some a =>
    obtain ⟨ha, hle⟩ := List.min?_eq_some_iff.mp hmin
    have hleast : ∀ b ∈ lists.filterMap List.min?, a ≤ b := fun b hb => by
      obtain ⟨part, hpart, hb⟩ := List.mem_filterMap.mp hb
      exact hle b ((h b).mpr ⟨part, hpart, (List.min?_eq_some_iff.mp hb).1⟩)
    obtain ⟨part, hpart, hapart⟩ := (h a).mp ha
    refine List.min?_eq_some_iff.mpr ⟨List.mem_filterMap.mpr ⟨part, hpart, ?_⟩, hleast⟩
    exact List.min?_eq_some_iff.mpr ⟨hapart, fun b hb => hle b ((h b).mpr ⟨part, hpart, hb⟩)⟩

/-- The greatest of some lists' greatest elements. -/
theorem max?_of_forall {l : List Date} {lists : List (List Date)}
    (h : ∀ d, d ∈ l ↔ ∃ part ∈ lists, d ∈ part) : (lists.filterMap List.max?).max? = l.max? := by
  cases hmax : l.max? with
  | none =>
    rw [List.max?_eq_none_iff] at hmax ⊢
    refine List.filterMap_eq_nil_iff.mpr (fun part hpart => ?_)
    refine List.max?_eq_none_iff.mpr (List.eq_nil_iff_forall_not_mem.mpr (fun d hd => ?_))
    have hmem := (h d).mpr ⟨part, hpart, hd⟩
    rw [hmax] at hmem
    cases hmem
  | some a =>
    obtain ⟨ha, hle⟩ := List.max?_eq_some_iff.mp hmax
    have hmost : ∀ b ∈ lists.filterMap List.max?, b ≤ a := fun b hb => by
      obtain ⟨part, hpart, hb⟩ := List.mem_filterMap.mp hb
      exact hle b ((h b).mpr ⟨part, hpart, (List.max?_eq_some_iff.mp hb).1⟩)
    obtain ⟨part, hpart, hapart⟩ := (h a).mp ha
    refine List.max?_eq_some_iff.mpr ⟨List.mem_filterMap.mpr ⟨part, hpart, ?_⟩, hmost⟩
    exact List.max?_eq_some_iff.mpr ⟨hapart, fun b hb => hle b ((h b).mpr ⟨part, hpart, hb⟩)⟩

/-- **The bounds of the months are the bounds of the rows.** -/
theorem MonthsHold.observationBounds_eq {dateOf : ρ → Date} {pathOf : Month → String}
    (h : MonthsHold decode layout monthOf files frame)
    (hcolumn : "observation_date" ∈ layout.keyColumns)
    (hdates : ∀ r ∈ frame.rows, dateMin ≤ dateOf r ∧ dateOf r ≤ dateMax) :
    observationBounds decode dateOf pathOf files
      = .ok ⟨(frame.rows.map dateOf).min?, (frame.rows.map dateOf).max?⟩ := by
  have hfile : ∀ file ∈ files.rows, ∃ bounds, fileBounds decode dateOf pathOf file = .ok bounds
      ∧ ∃ part : List Date, bounds = (part.min?, part.max?)
        ∧ ∀ d, d ∈ part ↔ ∃ r ∈ frame.rows, monthOf r = file.1 ∧ dateOf r = d := by
    intro file hmem
    obtain ⟨f, hf, hschema, -, hrows⟩ := h.file file.1 file.2 (KeyedTable.mem_rows_iff.mp hmem)
    have hcol : "observation_date" ∈ f.columns := by
      have := h.columns (List.ne_nil_of_mem hmem) _ hcolumn
      rwa [Frame.columns, ← hschema] at this
    have hrange : ∀ d ∈ f.rows.map dateOf, dateMin ≤ d ∧ d ≤ dateMax := by
      intro d hd
      obtain ⟨r, hr, rfl⟩ := List.mem_map.mp hd
      exact hdates r ((hrows r).mp hr).1
    refine ⟨((f.rows.map dateOf).min?, (f.rows.map dateOf).max?), ?_, f.rows.map dateOf, rfl,
      fun d => ?_⟩
    · refine bind_eq_ok.mpr ⟨f, hf, bind_eq_ok.mpr ⟨(), check_eq_ok.mpr hcol,
        bind_eq_ok.mpr ⟨_, loadDate?_of_range (fun d hd => hrange d ?_),
          bind_eq_ok.mpr ⟨_, loadDate?_of_range (fun d hd => hrange d ?_), rfl⟩⟩⟩⟩
      · exact (List.min?_eq_some_iff.mp hd).1
      · exact (List.max?_eq_some_iff.mp hd).1
    · rw [List.mem_map]
      exact ⟨fun ⟨r, hr, hd⟩ => ⟨r, ((hrows r).mp hr).1, ((hrows r).mp hr).2, hd⟩,
        fun ⟨r, hr, hm, hd⟩ => ⟨r, (hrows r).mpr ⟨hr, hm⟩, hd⟩⟩
  obtain ⟨bounds, hbounds, hall⟩ := exists_mapM_eq_ok hfile
  -- the dates of each file
  have hparts : ∃ parts : List (List Date), bounds = parts.map (fun part => (part.min?, part.max?))
      ∧ List.Forall₂ (fun file part =>
        ∀ d, d ∈ part ↔ ∃ r ∈ frame.rows, monthOf r = file.1 ∧ dateOf r = d) files.rows parts := by
    clear hbounds hfile
    generalize files.rows = rows at hall
    induction hall with
    | nil => exact ⟨[], rfl, .nil⟩
    | cons hfirst _ ih =>
      obtain ⟨part, rfl, hpart⟩ := hfirst
      obtain ⟨parts, rfl, hparts⟩ := ih
      exact ⟨part :: parts, rfl, .cons hpart hparts⟩
  obtain ⟨parts, rfl, hparts⟩ := hparts
  have hmem : ∀ d, d ∈ frame.rows.map dateOf ↔ ∃ part ∈ parts, d ∈ part := by
    intro d
    rw [List.mem_map]
    constructor
    · rintro ⟨r, hr, rfl⟩
      obtain ⟨bytes, hbytes⟩ := Option.isSome_iff_exists.mp (h.covered r hr)
      obtain ⟨part, hpart, hspec⟩ :=
        forall₂_exists_right hparts (KeyedTable.mem_rows_iff.mpr hbytes)
      exact ⟨part, hpart, (hspec _).mpr ⟨r, hr, rfl, rfl⟩⟩
    · rintro ⟨part, hpart, hd⟩
      obtain ⟨file, -, hspec⟩ := forall₂_exists_left hparts hpart
      obtain ⟨r, hr, -, hd⟩ := (hspec d).mp hd
      exact ⟨r, hr, hd⟩
  refine bind_eq_ok.mpr ⟨_, hbounds, ?_⟩
  rw [List.filterMap_map, List.filterMap_map]
  exact congrArg Except.ok (congrArg₂ ObservationBounds.mk (min?_of_forall hmem)
    (max?_of_forall hmem))

end Storage
