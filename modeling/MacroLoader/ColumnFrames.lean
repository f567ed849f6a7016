import MacroLoader.ParquetRepository

/-!
# Differences and merges of named columns

The repository compares frames of any columns, given the names of the key. A row
is a nullable value for each name here, and two rows have the same key where they have
the same values in the key columns, of which none is null. The comparison is a join, and
it adds columns on the way: the order of the incoming rows, a mark on the existing ones,
and the payload of these under other names. Nothing keeps a frame from having a column of
such a name, and then the join raises, or compares what it should not. Where no name is
reserved (`Unreserved`), the join is the comparison of rows with a key and a payload
(`Unreserved.diffColumns_eq`).

What is computed has a plain description: an incoming row is inserted if its key
is absent, unchanged if it is there with the same payload, and revised otherwise;
and a merge has one row for each key, the incoming one where it changes anything.
The three shortcuts of the code – nothing comes in, nothing is there, nothing
changes – are instances of it (`rows_diffFrames`, `perm_mergedFrame`).
-/

/-! ## The shortcuts -/

section Shortcuts

variable {ρ κ : Type} [LinearOrder κ] {layout : FrameLayout ρ κ}
  {existing incoming : Frame ρ} {diff : FrameDiff ρ}

/-- What the code asks of two frames before it compares them. -/
structure CanDiff (layout : FrameLayout ρ κ) (existing incoming : Frame ρ) : Prop where
  key : layout.keyColumns ≠ []
  incoming_columns : ∀ column ∈ layout.keyColumns, column ∈ incoming.columns
  existing_columns : ∀ column ∈ layout.keyColumns, column ∈ existing.columns
  incoming_nodup : (incoming.rows.map layout.keyOf).Nodup
  existing_nodup : (existing.rows.map layout.keyOf).Nodup
  compatible : existing.rows = [] ∨ incoming.rows = [] ∨ existing.schema = incoming.schema

/-- **The comparison raises exactly where one of these fails.** -/
theorem diffFrames_isOk_iff :
    (∃ diff, diffFrames layout existing incoming = .ok diff)
      ↔ CanDiff layout existing incoming := by
  constructor
  · rintro ⟨diff, h⟩
    have hdiff := isDiff_of_ok h
    unfold diffFrames at h
    simp only [bind_eq_ok] at h
    obtain ⟨⟨⟩, hincoming, -⟩ := h
    have hkey : layout.keyColumns ≠ [] := by
      have hunique := hincoming
      unfold ensureUnique at hunique
      simp only [bind_eq_ok, check_eq_ok, exists_const] at hunique
      exact hunique.1
    exact ⟨hkey, (ensureUnique_eq_ok hincoming).2, hdiff.columns, hdiff.incoming_nodup,
      hdiff.existing_nodup, hdiff.compatible⟩
  · intro h
    unfold diffFrames
    rw [ensureUnique_isOk h.key h.incoming_columns h.incoming_nodup,
      ensureUnique_isOk h.key h.existing_columns h.existing_nodup]
    show ∃ diff, (if incoming.isEmpty = true then _ else _) = Except.ok diff
    by_cases hnone : incoming.isEmpty = true
    · rw [if_pos hnone]
      exact ⟨_, rfl⟩
    · have hcompatible : ensureCompatible existing incoming = .ok () := by
        unfold ensureCompatible
        by_cases hempty : existing.isEmpty = true
        · rw [if_pos hempty]
        · rw [if_neg hempty]
          have hschema : existing.schema = incoming.schema :=
            (h.compatible.resolve_left (fun hrows => hempty (Frame.isEmpty_iff.mpr hrows))).resolve_left
              (fun hrows => hnone (Frame.isEmpty_iff.mpr hrows))
          refine bind_eq_ok.mpr ⟨(), check_eq_ok.mpr ?_, check_eq_ok.mpr hschema⟩
          rw [Frame.columns, hschema]
          rfl
      rw [if_neg hnone, hcompatible]
      exact ⟨_, rfl⟩

/-- **The shortcuts of the comparison** have the rows of the general classification. -/
theorem rows_diffFrames (h : diffFrames layout existing incoming = .ok diff) :
    diff.inserts.rows = (classify layout existing incoming).inserts.rows
      ∧ diff.unchanged.rows = (classify layout existing incoming).unchanged.rows
      ∧ diff.revisions.rows = (classify layout existing incoming).revisions.rows := by
  unfold diffFrames at h
  simp only [bind_eq_ok] at h
  obtain ⟨⟨⟩, -, ⟨⟩, -, h⟩ := h
  by_cases hnone : incoming.isEmpty = true
  · rw [if_pos hnone] at h
    have hrows := Frame.isEmpty_iff.mp hnone
    obtain rfl := Except.ok.inj h
    simp [classify, hrows]
  · rw [if_neg hnone] at h
    obtain ⟨⟨⟩, -, h⟩ := bind_eq_ok.mp h
    split_ifs at h with hempty
    · have hrows := Frame.isEmpty_iff.mp hempty
      obtain rfl := Except.ok.inj h
      simp [classify, oldRow, hrows, Frame.head0]
    · obtain rfl := Except.ok.inj h
      exact ⟨rfl, rfl, rfl⟩

/-- The rows of the general merge: the old rows whose key is not among those of the
changed rows, and the changed rows. -/
def generalMerge (layout : FrameLayout ρ κ) (existing : Frame ρ) (diff : FrameDiff ρ) : List ρ :=
  KeyedRows.sortRows layout.keyOf (existing.rows.filter (fun old =>
    !(diff.changed.rows.map layout.keyOf).contains (layout.keyOf old)) ++ diff.changed.rows)

/-- **The shortcuts of the merge** have the rows of the general one. -/
theorem perm_mergedFrame (h : diffFrames layout existing incoming = .ok diff) :
    (mergedFrame layout existing incoming diff).rows.Perm (generalMerge layout existing diff) := by
  have hdiff := isDiff_of_ok h
  have hkept : ∀ r, (!(diff.changed.rows.map layout.keyOf).contains (layout.keyOf r)) = true
      ↔ layout.keyOf r ∉ diff.changed.rows.map layout.keyOf := by
    intro r
    rw [Bool.not_eq_true', Bool.eq_false_iff, ne_eq, List.contains_iff_mem]
  have hmem : ∀ r, r ∈ generalMerge layout existing diff
      ↔ r ∈ (mergedFrame layout existing incoming diff).rows := by
    intro r
    rw [hdiff.mem_mergedFrame, generalMerge, KeyedRows.mem_sortRows, List.mem_append,
      List.mem_filter, hkept, or_comm]
  have hnodup : ((generalMerge layout existing diff).map layout.keyOf).Nodup := by
    refine KeyedRows.nodup_sortRows ?_
    rw [List.map_append]
    refine List.Nodup.append (nodup_map_filter hdiff.existing_nodup _) hdiff.changed_nodup ?_
    intro k hk hk'
    obtain ⟨r, hr, rfl⟩ := List.mem_map.mp hk
    exact (hkept r).mp (List.mem_filter.mp hr).2 hk'
  exact (List.perm_ext_iff_of_nodup (List.Nodup.of_map _ hdiff.nodup_mergedFrame)
    (List.Nodup.of_map _ hnodup)).mpr (fun r => (hmem r).symm)

/-- The incoming rows are split among the three groups. -/
theorem perm_groups (h : diffFrames layout existing incoming = .ok diff) :
    (diff.inserts.rows ++ (diff.unchanged.rows ++ diff.revisions.rows)).Perm incoming.rows := by
  obtain ⟨hins, hunch, hrev⟩ := rows_diffFrames h
  rw [hins, hunch, hrev]
  simp only [classify]
  induction incoming.rows with
  | nil => rfl
  | cons r rows ih =>
    cases hold : oldRow layout existing r with
    | none =>
      simp only [hold, List.filter_cons, Option.isNone_none, Option.any_none, if_true,
        Bool.false_eq_true, if_false, List.cons_append]
      exact ih.cons r
    | some old =>
      cases hsame : layout.samePayload r old with
      | true =>
        simp only [hold, hsame, List.filter_cons, Option.isNone_some, Option.any_some, if_true,
          Bool.false_eq_true, if_false, Bool.not_true, List.cons_append]
        exact List.perm_middle.trans (ih.cons r)
      | false =>
        simp only [hold, hsame, List.filter_cons, Option.isNone_some, Option.any_some, if_true,
          Bool.false_eq_true, if_false, Bool.not_false]
        rw [← List.append_assoc]
        refine List.perm_middle.trans ((?_ : List.Perm _ _).cons r)
        rw [List.append_assoc]
        exact ih

end Shortcuts

/-! ## Frames of named columns -/

/-- A row of a frame of named columns. -/
abbrev ColumnRow (V : Type) := String → Option V

/-- **The values of cells**, of types that polars groups, joins, compares and sorts: whether
two are equal, which are booleans, and columns of which types can be compared. -/
structure CellValues (V : Type) where
  same : V → V → Bool
  bool : Bool → V
  comparable : String → String → Bool
  comparable_self : ∀ dtype, comparable dtype dtype = true

section Columns

variable {V : Type} [LinearOrder V] (values : CellValues V) (key : List String)

/-- `eq_missing`, where `same` compares values that are not null. -/
def eqMissing (same : V → V → Bool) : Option V → Option V → Bool
  | none, none => true
  | some a, some b => same a b
  | _, _ => false

/-- The error of a column that would be there twice. -/
def duplicateError : PyError := ⟨.other "DuplicateError", "column has more than one occurrence"⟩

/-- The values of a row in the columns of the key. -/
def keyOfRow (row : ColumnRow V) : List V := key.filterMap row

/-- `payload_columns`. -/
def payloadColumns (columns : List String) : List String :=
  columns.filter (fun column => decide (column ∉ key))

/-- `_ensure_unique`. The groups that are counted have the columns of the key and one named
`len`. -/
def ensureUniqueColumns (frame : Frame (ColumnRow V)) (label : String) : Except PyError Unit := do
  check (key ≠ []) (.valueError "natural key must not be empty")
  let missing := key.filter (fun column => decide (column ∉ frame.columns))
  check (missing = [])
    (.valueError ("natural key columns missing from " ++ label ++ ": " ++ pyNames missing))
  if frame.isEmpty then .ok ()
  else do
    check (key ++ ["len"]).Nodup duplicateError
    check (frame.rows.map (keyOfRow key)).Nodup
      (.valueError ("duplicate natural keys in " ++ label))

/-- A column of the frame `old`: its name and type, and its value in a row that exists. -/
structure OldColumn (V : Type) where
  name : String
  dtype : String
  value : ColumnRow V → Option V

/-- `pl.lit(True).alias("__exists")`. -/
def existsColumn : OldColumn V := ⟨"__exists", "Boolean", fun _ => some (values.bool true)⟩

/-- `with_columns`: a column takes the place of the one that has its name, or is the last. -/
def withColumn (column : OldColumn V) (columns : List (OldColumn V)) : List (OldColumn V) :=
  if column.name ∈ columns.map OldColumn.name then
    columns.map (fun other => if other.name = column.name then column else other)
  else columns ++ [column]

/-- The columns of `old`: those that exist and `__exists`, the payload renamed. -/
def oldColumns (existing : Frame (ColumnRow V)) (payload : List String) : List (OldColumn V) :=
  (withColumn (existsColumn values)
      (existing.schema.map (fun column => ⟨column.1, column.2, fun row => row column.1⟩))).map
    (fun column => if column.name ∈ payload then { column with name := "__old_" ++ column.name }
      else column)

/-- A column of some columns, by its name. -/
def OldColumn.find (columns : List (OldColumn V)) (name : String) : Option (OldColumn V) :=
  columns.find? (fun column => decide (column.name = name))

/-- The type of a column of a frame. -/
def Frame.dtype {ρ : Type} (frame : Frame ρ) (name : String) : Option String :=
  (frame.schema.find? (fun column => decide (column.1 = name))).map Prod.snd

/-- The type of a column of the joined frame: where a name is in both, that of the left. -/
def joinedDtype (incoming : Frame (ColumnRow V)) (old : List (OldColumn V)) (name : String) :
    Option String :=
  if name ∈ incoming.columns then incoming.dtype name
  else (OldColumn.find old name).map OldColumn.dtype

/-- The names of the joined frame: those on the left, and those on the right that are not of
the key, with a suffix if they are on the left too. -/
def joinedNames (incoming : Frame (ColumnRow V)) (old : List (OldColumn V)) : List String :=
  let left := "__order" :: incoming.columns
  left ++ ((old.map OldColumn.name).filter (fun name => decide (name ∉ key))).map
    (fun name => if name ∈ left then name ++ "_right" else name)

/-- **Where the join raises**: a name would be there twice, a column of the key has two types,
or what is asked of a row is not a boolean. -/
def checkJoin (existing incoming : Frame (ColumnRow V)) : Except PyError Unit := do
  let payload := payloadColumns key incoming.columns
  let old := oldColumns values existing payload
  check (old.map OldColumn.name).Nodup duplicateError
  check ("__order" ∉ incoming.columns) duplicateError
  check (∀ column ∈ key,
      incoming.dtype column = (OldColumn.find old column).map OldColumn.dtype)
    ⟨.other "SchemaError", "datatypes of join keys don't match"⟩
  check (joinedNames key incoming old).Nodup duplicateError
  -- a column of nulls is one of booleans when its nulls are filled with one
  check (joinedDtype incoming old "__exists" ∈ [some "Boolean", some "Null"])
    ⟨.other "InvalidOperationError", "filter predicate must be of type Boolean"⟩
  check (∀ column ∈ payload, ∃ dtype ∈ incoming.dtype column,
      ∃ dtype' ∈ joinedDtype incoming old ("__old_" ++ column),
        values.comparable dtype dtype' = true)
    ⟨.other "ComputeError", "cannot compare columns of these types"⟩

/-- A row of the joined frame: that on the left, and that on the right, if there is one. -/
structure JoinedPair (V : Type) where
  left : ColumnRow V
  right : Option (ColumnRow V)

/-- A cell of a joined row: where a name is in both frames, that of the left. -/
def JoinedPair.cell (incoming : Frame (ColumnRow V)) (old : List (OldColumn V))
    (row : JoinedPair V) (name : String) : Option V :=
  if name ∈ incoming.columns then row.left name
  else (OldColumn.find old name).bind (fun column => row.right.bind column.value)

/-- The rows of the joined frame, sorted by `__order`, which is the order on the left. -/
def joinedRows (existing incoming : Frame (ColumnRow V)) : List (JoinedPair V) :=
  let old := oldColumns values existing (payloadColumns key incoming.columns)
  incoming.rows.flatMap (fun row =>
    let rows := existing.rows.filter (fun other => key.all (fun column =>
      decide ((OldColumn.find old column).bind (·.value other) = row column)))
    if rows = [] then [⟨row, none⟩] else rows.map (fun other => ⟨row, some other⟩))

/-- `exists`. -/
def JoinedPair.exists_ (incoming : Frame (ColumnRow V)) (old : List (OldColumn V))
    (row : JoinedPair V) : Bool :=
  decide (row.cell incoming old "__exists" = some (values.bool true))

/-- `equal_payload`. -/
def JoinedPair.equalPayload (incoming : Frame (ColumnRow V)) (old : List (OldColumn V))
    (row : JoinedPair V) : Bool :=
  (payloadColumns key incoming.columns).all (fun column =>
    eqMissing values.same (row.left column) (row.cell incoming old ("__old_" ++ column)))

/-- The classification of the incoming rows by the join. -/
def classifyJoined (existing incoming : Frame (ColumnRow V)) : FrameDiff (ColumnRow V) :=
  let old := oldColumns values existing (payloadColumns key incoming.columns)
  let rows := joinedRows values key existing incoming
  let group := fun p : JoinedPair V → Bool =>
    (⟨incoming.schema, (rows.filter p).map JoinedPair.left⟩ : Frame (ColumnRow V))
  { inserts := group (fun row => !row.exists_ values incoming old)
    unchanged := group (fun row =>
      row.exists_ values incoming old && row.equalPayload values key incoming old)
    revisions := group (fun row =>
      row.exists_ values incoming old && !row.equalPayload values key incoming old) }

/-- **`diff_frames`.** -/
def diffColumns (existing incoming : Frame (ColumnRow V)) :
    Except PyError (FrameDiff (ColumnRow V)) := do
  ensureUniqueColumns key incoming "incoming"
  ensureUniqueColumns key existing "existing"
  if incoming.isEmpty then .ok ⟨incoming, incoming, incoming⟩
  else do
    ensureCompatible existing incoming
    if existing.isEmpty then .ok ⟨incoming, incoming.head0, incoming.head0⟩
    else do
      checkJoin values key existing incoming
      return classifyJoined values key existing incoming

/-- The layout of a frame with some columns: the key is made of the values in the key
columns, and the payload of all other columns. -/
def columnLayout (columns : List String) : FrameLayout (ColumnRow V) (List V) where
  keyColumns := key
  keyOf := keyOfRow key
  samePayload row old := (payloadColumns key columns).all
    (fun column => eqMissing values.same (row column) (old column))

/-- **`merge_frames`.** -/
def mergeColumns (existing incoming : Frame (ColumnRow V)) :
    Except PyError (Frame (ColumnRow V) × FrameDiff (ColumnRow V)) := do
  let diff ← diffColumns values key existing incoming
  return (mergedFrame (columnLayout values key incoming.columns) existing incoming diff, diff)

/-- **Names that are not reserved**: no column has the name of one that the comparison adds
on the way, and the key names no column twice. -/
structure Unreserved (columns : List String) : Prop where
  columns_nodup : columns.Nodup
  key_nodup : (key ++ ["len"]).Nodup
  order : "__order" ∉ columns
  exists_ : "__exists" ∉ columns
  old : ∀ column ∈ payloadColumns key columns, "__old_" ++ column ∉ columns

end Columns

/-! ## The join, where no name is reserved -/

section Join

variable {V : Type} {values : CellValues V} {key : List String}
  {existing incoming : Frame (ColumnRow V)}

/-- The name of a column in the frame `old`. -/
def oldName (key columns : List String) (column : String) : String :=
  if column ∈ payloadColumns key columns then "__old_" ++ column else column

theorem mem_payloadColumns {columns : List String} {column : String} :
    column ∈ payloadColumns key columns ↔ column ∈ columns ∧ column ∉ key := by
  rw [payloadColumns, List.mem_filter, decide_eq_true_iff]

theorem oldName_of_mem_key {columns : List String} {column : String} (h : column ∈ key) :
    oldName key columns column = column :=
  if_neg (fun hpayload => (mem_payloadColumns.mp hpayload).2 h)

theorem old_ne_exists (column : String) : "__old_" ++ column ≠ "__exists" := by
  intro h
  have hlist := congrArg String.toList h
  simp [String.toList_append] at hlist

theorem Unreserved.oldName_ne_exists {columns : List String} (h : Unreserved key columns)
    {column : String} (hcolumn : column ∈ columns) : oldName key columns column ≠ "__exists" := by
  unfold oldName
  split_ifs
  · exact old_ne_exists column
  · rintro rfl
    exact h.exists_ hcolumn

/-- Different columns have different names in `old`. -/
theorem Unreserved.oldName_inj {columns : List String} (h : Unreserved key columns)
    {a b : String} (ha : a ∈ columns) (hb : b ∈ columns)
    (heq : oldName key columns a = oldName key columns b) : a = b := by
  unfold oldName at heq
  split_ifs at heq with hpa hpb hpb
  · exact String.append_right_inj _ |>.mp heq
  · exact absurd (heq ▸ hb) (h.old a hpa)
  · exact absurd (heq ▸ ha) (h.old b hpb)
  · exact heq

/-- The columns of `old`, where no name is reserved. -/
theorem Unreserved.oldColumns_eq (h : Unreserved key existing.columns) :
    oldColumns values existing (payloadColumns key existing.columns)
      = existing.schema.map (fun column =>
          ⟨oldName key existing.columns column.1, column.2, fun row => row column.1⟩)
        ++ [existsColumn values] := by
  have hnames : (existing.schema.map (fun column =>
      (⟨column.1, column.2, fun row => row column.1⟩ : OldColumn V))).map OldColumn.name
      = existing.columns := by
    rw [List.map_map]
    rfl
  have hexists : (existsColumn values).name ∉ existing.columns := h.exists_
  have hpayload : (existsColumn values).name ∉ payloadColumns key existing.columns :=
    fun hmem => hexists (mem_payloadColumns.mp hmem).1
  rw [oldColumns, withColumn, hnames, if_neg hexists, List.map_append, List.map_map]
  congr 1
  · refine List.map_congr_left (fun column _ => ?_)
    show (if column.1 ∈ _ then _ else _) = _
    unfold oldName
    split_ifs <;> rfl
  · rw [List.map_singleton, if_neg hpayload]

theorem Unreserved.nodup_oldColumns (h : Unreserved key existing.columns) :
    ((oldColumns values existing (payloadColumns key existing.columns)).map OldColumn.name).Nodup := by
  rw [h.oldColumns_eq, List.map_append, List.map_map]
  have hnames : existing.schema.map (OldColumn.name ∘ fun column =>
      (⟨oldName key existing.columns column.1, column.2, fun row => row column.1⟩ : OldColumn V))
      = existing.columns.map (oldName key existing.columns) := by
    rw [Frame.columns, List.map_map]
    rfl
  rw [hnames]
  refine List.Nodup.append ?_ (List.nodup_singleton _) ?_
  · exact List.Nodup.map_on (fun a ha b hb heq => h.oldName_inj ha hb heq) h.columns_nodup
  · intro name hname hexists
    obtain ⟨column, hcolumn, rfl⟩ := List.mem_map.mp hname
    exact h.oldName_ne_exists hcolumn (List.mem_singleton.mp hexists)

/-- What has a name is found by it, where names are distinct. -/
theorem find?_eq_some_of_nodup {α β : Type} [DecidableEq β] {f : α → β} {l : List α} {a : α}
    (hnodup : (l.map f).Nodup) (hmem : a ∈ l) : l.find? (fun b => decide (f b = f a)) = some a := by
  cases hfound : l.find? (fun b => decide (f b = f a)) with
  | none => exact absurd (decide_eq_true rfl) (List.find?_eq_none.mp hfound a hmem)
  | some b =>
    have hname : f b = f a := of_decide_eq_true (List.find?_some hfound :)
    rw [List.inj_on_of_nodup_map hnodup (List.mem_of_find?_eq_some hfound) hmem hname]

/-- The column of `old` that a column of the frame has become. -/
theorem Unreserved.find_old (h : Unreserved key existing.columns) {column dtype : String}
    (hcolumn : (column, dtype) ∈ existing.schema) :
    OldColumn.find (oldColumns values existing (payloadColumns key existing.columns))
        (oldName key existing.columns column)
      = some ⟨oldName key existing.columns column, dtype, fun row => row column⟩ := by
  refine find?_eq_some_of_nodup (a := ⟨_, dtype, fun row => row column⟩) h.nodup_oldColumns ?_
  rw [h.oldColumns_eq]
  exact List.mem_append_left _ (List.mem_map.mpr ⟨_, hcolumn, rfl⟩)

theorem Unreserved.find_exists (h : Unreserved key existing.columns) :
    OldColumn.find (oldColumns values existing (payloadColumns key existing.columns)) "__exists"
      = some (existsColumn values) := by
  refine find?_eq_some_of_nodup (a := existsColumn values) h.nodup_oldColumns ?_
  rw [h.oldColumns_eq]
  exact List.mem_append_right _ (List.mem_singleton_self _)

/-- A column of a frame has a type. -/
theorem exists_dtype {frame : Frame (ColumnRow V)} (hnodup : frame.columns.Nodup) {column : String}
    (hcolumn : column ∈ frame.columns) :
    ∃ dtype, (column, dtype) ∈ frame.schema ∧ frame.dtype column = some dtype := by
  obtain ⟨⟨name, dtype⟩, hmem, rfl⟩ := List.mem_map.mp hcolumn
  refine ⟨dtype, hmem, ?_⟩
  unfold Frame.dtype
  rw [find?_eq_some_of_nodup (a := (name, dtype)) hnodup hmem]
  rfl

/-- The names on the right of the join, where no name is reserved: none is on the left. -/
theorem Unreserved.right_notMem (h : Unreserved key existing.columns) {name : String}
    (hname : name ∈ (oldColumns values existing (payloadColumns key existing.columns)).map
      OldColumn.name) (hkey : name ∉ key) : name ∉ "__order" :: existing.columns := by
  have horder : ∀ column : String, "__old_" ++ column ≠ "__order" := by
    intro column heq
    have hlist := congrArg String.toList heq
    simp [String.toList_append] at hlist
  rw [List.mem_cons, not_or]
  rw [h.oldColumns_eq, List.map_append, List.mem_append, List.map_map] at hname
  rcases hname with hname | hname
  · obtain ⟨column, hcolumn, rfl⟩ := List.mem_map.mp hname
    have hmem : column.1 ∈ existing.columns := List.mem_map_of_mem hcolumn
    have hpayload : column.1 ∈ payloadColumns key existing.columns := by
      by_contra hnot
      refine hkey ?_
      have hsame : oldName key existing.columns column.1 = column.1 := if_neg hnot
      show oldName key existing.columns column.1 ∈ key
      rw [hsame]
      by_contra hout
      exact hnot (mem_payloadColumns.mpr ⟨hmem, hout⟩)
    have hold : oldName key existing.columns column.1 = "__old_" ++ column.1 := if_pos hpayload
    show oldName key existing.columns column.1 ≠ "__order"
      ∧ oldName key existing.columns column.1 ∉ existing.columns
    rw [hold]
    exact ⟨horder column.1, h.old column.1 hpayload⟩
  · obtain rfl := List.mem_singleton.mp hname
    exact ⟨by simp [existsColumn], h.exists_⟩

/-- The names of the joined frame are distinct, where no name is reserved. -/
theorem Unreserved.nodup_joinedNames (h : Unreserved key existing.columns)
    (hcolumns : existing.columns = incoming.columns) :
    (joinedNames key incoming
      (oldColumns values existing (payloadColumns key existing.columns))).Nodup := by
  have hright : ∀ name ∈ ((oldColumns values existing (payloadColumns key existing.columns)).map
      OldColumn.name).filter (fun name => decide (name ∉ key)),
      name ∉ "__order" :: incoming.columns := fun name hname => by
    obtain ⟨hmem, hkey⟩ := List.mem_filter.mp hname
    exact hcolumns ▸ h.right_notMem hmem (of_decide_eq_true hkey)
  unfold joinedNames
  dsimp only
  rw [List.map_congr_left (fun name hname => if_neg (hright name hname)), List.map_id']
  refine List.Nodup.append (List.nodup_cons.mpr ⟨hcolumns ▸ h.order, hcolumns ▸ h.columns_nodup⟩)
    (h.nodup_oldColumns.filter _) (fun name hleft hname => hright name hname hleft)

/-- **The join does not raise**, where no name is reserved. -/
theorem Unreserved.checkJoin_isOk (h : Unreserved key existing.columns)
    (hschema : existing.schema = incoming.schema) (hkey : ∀ column ∈ key, column ∈ existing.columns) :
    checkJoin values key existing incoming = .ok () := by
  have hcolumns : existing.columns = incoming.columns := congrArg (List.map Prod.fst) hschema
  have hdtype : incoming.dtype = existing.dtype := by
    funext name
    unfold Frame.dtype
    rw [hschema]
  have hexists : joinedDtype incoming
      (oldColumns values existing (payloadColumns key existing.columns)) "__exists"
      = some "Boolean" := by
    rw [joinedDtype, if_neg (hcolumns ▸ h.exists_), h.find_exists]
    rfl
  unfold checkJoin
  dsimp only
  rw [← hcolumns]
  refine bind_eq_ok.mpr ⟨(), check_eq_ok.mpr h.nodup_oldColumns, ?_⟩
  refine bind_eq_ok.mpr ⟨(), check_eq_ok.mpr h.order, ?_⟩
  refine bind_eq_ok.mpr ⟨(), check_eq_ok.mpr (fun column hcolumn => ?_), ?_⟩
  · obtain ⟨dtype, hmem, hfound⟩ := exists_dtype h.columns_nodup (hkey column hcolumn)
    have hfind := @Unreserved.find_old V values key existing h column dtype hmem
    rw [oldName_of_mem_key hcolumn] at hfind
    rw [hdtype, hfound, hfind]
    rfl
  refine bind_eq_ok.mpr ⟨(), check_eq_ok.mpr (h.nodup_joinedNames hcolumns), ?_⟩
  refine bind_eq_ok.mpr ⟨(), check_eq_ok.mpr (by rw [hexists]; exact List.mem_cons_self), ?_⟩
  refine check_eq_ok.mpr (fun column hcolumn => ?_)
  obtain ⟨dtype, hmem, hfound⟩ := exists_dtype h.columns_nodup (mem_payloadColumns.mp hcolumn).1
  have hfind := @Unreserved.find_old V values key existing h column dtype hmem
  rw [oldName, if_pos hcolumn] at hfind
  refine ⟨dtype, hdtype ▸ hfound, dtype, ?_, values.comparable_self dtype⟩
  rw [joinedDtype, if_neg (hcolumns ▸ h.old column hcolumn), hfind]
  rfl

/-- Whether two rows have one key. -/
def SameKey (key : List String) (row row' : ColumnRow V) : Prop :=
  ∀ column ∈ key, row column = row' column

/-- **Keys without nulls are equal where their values are.** -/
theorem filterMap_eq_iff_sameKey {row row' : ColumnRow V}
    (h : ∀ column ∈ key, (row column).isSome = true)
    (h' : ∀ column ∈ key, (row' column).isSome = true) :
    key.filterMap row = key.filterMap row' ↔ SameKey key row row' := by
  induction key with
  | nil => exact ⟨fun _ _ hcolumn => absurd hcolumn List.not_mem_nil, fun _ => rfl⟩
  | cons column rest ih =>
    rw [List.forall_mem_cons] at h h'
    obtain ⟨v, hv⟩ := Option.isSome_iff_exists.mp h.1
    obtain ⟨v', hv'⟩ := Option.isSome_iff_exists.mp h'.1
    rw [List.filterMap_cons_some hv, List.filterMap_cons_some hv', List.cons.injEq, ih h.2 h'.2,
      SameKey, SameKey, List.forall_mem_cons, hv, hv', Option.some.injEq]

/-- The rows that a row joins with are those of its key. -/
theorem Unreserved.joins_iff [LinearOrder V] (h : Unreserved key existing.columns)
    (hkey : ∀ column ∈ key, column ∈ existing.columns) {row other : ColumnRow V} :
    key.all (fun column => decide ((OldColumn.find
        (oldColumns values existing (payloadColumns key existing.columns)) column).bind
          (·.value other) = row column)) = true
      ↔ SameKey key other row := by
  rw [List.all_eq_true]
  refine forall₂_congr (fun column hcolumn => ?_)
  obtain ⟨dtype, hmem, -⟩ := exists_dtype h.columns_nodup (hkey column hcolumn)
  have hfind := @Unreserved.find_old V values key existing h column dtype hmem
  rw [oldName_of_mem_key hcolumn] at hfind
  rw [hfind, decide_eq_true_iff]
  rfl

/-- No key of a frame has a null in it. -/
def KeysNonNull (key : List String) (frame : Frame (ColumnRow V)) : Prop :=
  ∀ row ∈ frame.rows, ∀ column ∈ key, (row column).isSome = true

/-- Where names are distinct, the only one with a name is the first. -/
theorem filter_eq_find?_of_nodup {α β : Type} [DecidableEq β] {f : α → β} {l : List α}
    (hnodup : (l.map f).Nodup) (b : β) :
    l.filter (fun a => decide (f a = b)) = (l.find? (fun a => decide (f a = b))).toList := by
  induction l with
  | nil => rfl
  | cons a l ih =>
    rw [List.map_cons, List.nodup_cons] at hnodup
    by_cases hname : f a = b
    · have hrest : l.filter (fun a => decide (f a = b)) = [] :=
        List.filter_eq_nil_iff.mpr (fun c hc hcname =>
          hnodup.1 (hname ▸ of_decide_eq_true hcname ▸ List.mem_map_of_mem hc))
      rw [List.filter_cons, List.find?_cons, decide_eq_true hname, if_pos rfl, hrest]
      rfl
    · rw [List.filter_cons, List.find?_cons, decide_eq_false hname, if_neg Bool.false_ne_true]
      exact ih hnodup.2

/-- **The rows of the join**: each incoming row with the row of its key, if there is one. -/
theorem Unreserved.joinedRows_eq [LinearOrder V] (h : Unreserved key existing.columns)
    (hcolumns : existing.columns = incoming.columns)
    (hkey : ∀ column ∈ key, column ∈ existing.columns) (hexisting : KeysNonNull key existing)
    (hincoming : KeysNonNull key incoming) (hnodup : (existing.rows.map (keyOfRow key)).Nodup) :
    joinedRows values key existing incoming = incoming.rows.map (fun row =>
      ⟨row, oldRow (columnLayout values key incoming.columns) existing row⟩) := by
  have hjoins : ∀ row ∈ incoming.rows, existing.rows.filter (fun other => key.all (fun column =>
      decide ((OldColumn.find (oldColumns values existing
        (payloadColumns key existing.columns)) column).bind (·.value other) = row column)))
      = (oldRow (columnLayout values key incoming.columns) existing row).toList := by
    intro row hrow
    have hfind := @filter_eq_find?_of_nodup _ _ LinearOrder.toDecidableEq (keyOfRow key)
      existing.rows hnodup (keyOfRow key row)
    refine Eq.trans (List.filter_congr (fun other hother => ?_)) hfind
    refine Bool.eq_iff_iff.mpr ((h.joins_iff hkey).trans ?_)
    refine Iff.trans ?_ (@decide_eq_true_iff _ (_)).symm
    exact (filterMap_eq_iff_sameKey (hexisting other hother) (hincoming row hrow)).symm
  unfold joinedRows
  dsimp only
  rw [List.map_eq_flatMap, ← hcolumns]
  refine List.flatMap_congr (fun row hrow => ?_)
  rw [hjoins row hrow, ← hcolumns]
  cases oldRow (columnLayout values key existing.columns) existing row with
  | none => rfl
  | some old => rfl

/-- **The classification by the join**, where no name is reserved, is that by the key. -/
theorem Unreserved.classifyJoined_eq [LinearOrder V] (h : Unreserved key existing.columns)
    (hcolumns : existing.columns = incoming.columns)
    (hkey : ∀ column ∈ key, column ∈ existing.columns) (hexisting : KeysNonNull key existing)
    (hincoming : KeysNonNull key incoming) (hnodup : (existing.rows.map (keyOfRow key)).Nodup) :
    classifyJoined values key existing incoming
      = classify (columnLayout values key incoming.columns) existing incoming := by
  have hexists : ∀ pair : JoinedPair V, pair.exists_ values incoming
      (oldColumns values existing (payloadColumns key incoming.columns)) = pair.right.isSome := by
    intro pair
    rw [JoinedPair.exists_, JoinedPair.cell, if_neg (hcolumns ▸ h.exists_), ← hcolumns, h.find_exists]
    cases pair.right with
    | none => rfl
    | some old => exact decide_eq_true rfl
  have hpayload : ∀ row old, JoinedPair.equalPayload values key incoming
      (oldColumns values existing (payloadColumns key incoming.columns)) ⟨row, some old⟩
      = (columnLayout values key incoming.columns).samePayload row old := by
    intro row old
    show (payloadColumns key incoming.columns).all _ = (payloadColumns key incoming.columns).all _
    rw [Bool.eq_iff_iff, List.all_eq_true, List.all_eq_true, ← hcolumns]
    refine forall₂_congr (fun column hcolumn => ?_)
    obtain ⟨dtype, hmem, -⟩ := exists_dtype h.columns_nodup (mem_payloadColumns.mp hcolumn).1
    have hfind := @Unreserved.find_old V values key existing h column dtype hmem
    rw [oldName, if_pos hcolumn] at hfind
    rw [JoinedPair.cell, if_neg (hcolumns ▸ h.old column hcolumn), hfind]
    rfl
  unfold classifyJoined classify
  dsimp only
  rw [h.joinedRows_eq hcolumns hkey hexisting hincoming hnodup]
  have hgroup : ∀ (p : JoinedPair V → Bool) (q : ColumnRow V → Bool), (∀ row,
      p ⟨row, oldRow (columnLayout values key incoming.columns) existing row⟩ = q row) →
      (((incoming.rows.map (fun row => (⟨row, oldRow (columnLayout values key incoming.columns)
        existing row⟩ : JoinedPair V))).filter p).map JoinedPair.left) = incoming.rows.filter q := by
    intro p q hpq
    rw [List.filter_map, List.map_map]
    refine (List.map_id'' (fun _ => rfl) _).trans (List.filter_congr (fun row _ => hpq row))
  have hinserts := hgroup (fun pair => !pair.exists_ values incoming
    (oldColumns values existing (payloadColumns key incoming.columns)))
    (fun row => (oldRow (columnLayout values key incoming.columns) existing row).isNone)
    (fun row => by
      rw [hexists]
      cases oldRow (columnLayout values key incoming.columns) existing row with
      | none => rfl
      | some old => rfl)
  have hequal : ∀ (row : ColumnRow V) (not : Bool → Bool),
      ((⟨row, oldRow (columnLayout values key incoming.columns) existing row⟩ : JoinedPair V).right.isSome
        && not (JoinedPair.equalPayload values key incoming
          (oldColumns values existing (payloadColumns key incoming.columns))
          ⟨row, oldRow (columnLayout values key incoming.columns) existing row⟩))
        = (oldRow (columnLayout values key incoming.columns) existing row).any (fun old =>
          not ((columnLayout values key incoming.columns).samePayload row old)) := by
    intro row not
    cases oldRow (columnLayout values key incoming.columns) existing row with
    | none => rfl
    | some old => exact congrArg not (hpayload row old)
  have hunchanged := hgroup (fun pair => pair.exists_ values incoming
      (oldColumns values existing (payloadColumns key incoming.columns))
        && pair.equalPayload values key incoming
          (oldColumns values existing (payloadColumns key incoming.columns)))
    (fun row => (oldRow (columnLayout values key incoming.columns) existing row).any
      ((columnLayout values key incoming.columns).samePayload row))
    (fun row => by rw [hexists]; exact hequal row id)
  have hrevisions := hgroup (fun pair => pair.exists_ values incoming
      (oldColumns values existing (payloadColumns key incoming.columns))
        && !pair.equalPayload values key incoming
          (oldColumns values existing (payloadColumns key incoming.columns)))
    (fun row => (oldRow (columnLayout values key incoming.columns) existing row).any
      (fun old => !(columnLayout values key incoming.columns).samePayload row old))
    (fun row => by rw [hexists]; exact hequal row Bool.not)
  rw [hinserts, hunchanged, hrevisions]

/-- What is checked does not depend on how it is decided. -/
theorem check_congr {c c' : Prop} {i : Decidable c} {i' : Decidable c'} (h : c ↔ c') (e : PyError) :
    @check c i e = @check c' i' e := by
  unfold check
  by_cases hc : c
  · rw [if_pos hc, if_pos (h.mp hc)]
  · rw [if_neg hc, if_neg (fun hc' => hc (h.mpr hc'))]

/-- A key without `len` that names no column twice is counted as its values are. -/
theorem ensureUniqueColumns_eq [LinearOrder V] {frame : Frame (ColumnRow V)}
    (hkey : (key ++ ["len"]).Nodup) (columns : List String) (label : String) :
    ensureUniqueColumns key frame label = ensureUnique (columnLayout values key columns) frame label := by
  unfold ensureUniqueColumns ensureUnique
  refine congrArg (_ >>= ·) (funext (fun _ => congrArg (_ >>= ·) (funext (fun _ => ?_))))
  by_cases hempty : frame.isEmpty = true
  · have hnil : (frame.rows.map (columnLayout values key columns).keyOf).Nodup := by
      rw [Frame.isEmpty_iff.mp hempty]
      exact List.nodup_nil
    rw [if_pos hempty]
    exact check_congr (c := True) (i := instDecidableTrue) (iff_of_true trivial hnil) _
  · rw [if_neg hempty, (check_eq_ok (u := ())).mpr hkey]
    exact check_congr Iff.rfl _

/-- **The comparison of named columns**, where no name is reserved, is that of rows with a
key and a payload. -/
theorem Unreserved.diffColumns_eq [LinearOrder V] (h : Unreserved key incoming.columns)
    (hexisting : KeysNonNull key existing) (hincoming : KeysNonNull key incoming) :
    diffColumns values key existing incoming
      = diffFrames (columnLayout values key incoming.columns) existing incoming := by
  unfold diffColumns diffFrames
  rw [@ensureUniqueColumns_eq V values key _ incoming h.key_nodup incoming.columns,
    @ensureUniqueColumns_eq V values key _ existing h.key_nodup incoming.columns]
  cases hunique : ensureUnique (columnLayout values key incoming.columns) incoming "incoming" with
  | error e => rfl
  | ok _ =>
    cases hunique' : ensureUnique (columnLayout values key incoming.columns) existing "existing" with
    | error e => rfl
    | ok _ =>
      show (if incoming.isEmpty = true then _ else _) = (if incoming.isEmpty = true then _ else _)
      by_cases hnone : incoming.isEmpty = true
      · rw [if_pos hnone, if_pos hnone]
      · rw [if_neg hnone, if_neg hnone]
        cases hcompatible : ensureCompatible existing incoming with
        | error e => rfl
        | ok _ =>
          show (if existing.isEmpty = true then _ else _)
            = (pure (if existing.isEmpty = true then _ else _) : Except PyError _)
          by_cases hempty : existing.isEmpty = true
          · rw [if_pos hempty, if_pos hempty]
            rfl
          · rw [if_neg hempty, if_neg hempty]
            -- both frames have rows, so that their columns are the same
            have hschema := (ensureCompatible_eq_ok hcompatible).resolve_left
              (fun hrows => hempty (Frame.isEmpty_iff.mpr hrows))
            have hcolumns : existing.columns = incoming.columns :=
              congrArg (List.map Prod.fst) hschema
            obtain ⟨hnodup, hkey⟩ := ensureUnique_eq_ok hunique'
            have hold : Unreserved key existing.columns := hcolumns ▸ h
            rw [hold.checkJoin_isOk hschema hkey]
            exact congrArg Except.ok
              (hold.classifyJoined_eq hcolumns hkey hexisting hincoming hnodup)

/-- **The shortcuts of the comparison** have the rows that the join would have. -/
theorem Unreserved.rows_diffColumns [LinearOrder V] (h : Unreserved key incoming.columns)
    (hexisting : KeysNonNull key existing) (hincoming : KeysNonNull key incoming)
    {diff : FrameDiff (ColumnRow V)} (hdiff : diffColumns values key existing incoming = .ok diff) :
    diff.inserts.rows = (classifyJoined values key existing incoming).inserts.rows
      ∧ diff.unchanged.rows = (classifyJoined values key existing incoming).unchanged.rows
      ∧ diff.revisions.rows = (classifyJoined values key existing incoming).revisions.rows := by
  rw [h.diffColumns_eq hexisting hincoming] at hdiff
  have hrows := rows_diffFrames hdiff
  have hspec := isDiff_of_ok hdiff
  rcases hspec.compatible with hnone | hnone | hschema
  · -- nothing is there to join with
    have hexists : ∀ row : ColumnRow V, (⟨row, none⟩ : JoinedPair V).exists_ values incoming
        (oldColumns values existing (payloadColumns key incoming.columns)) = false := by
      intro row
      rw [JoinedPair.exists_, JoinedPair.cell, if_neg h.exists_]
      cases OldColumn.find (oldColumns values existing (payloadColumns key incoming.columns))
        "__exists" with
      | none => rfl
      | some column => rfl
    have hjoined : joinedRows values key existing incoming
        = incoming.rows.map (fun row => ⟨row, none⟩) := by
      unfold joinedRows
      simp only [hnone, List.filter_nil, if_true, List.map_eq_flatMap]
    refine ⟨hrows.1.trans ?_, hrows.2.1.trans ?_, hrows.2.2.trans ?_⟩
    · simp [classify, classifyJoined, oldRow, hnone, hjoined, List.filter_map, Function.comp_def,
        hexists]
    · simp [classify, classifyJoined, oldRow, hnone, hjoined, List.filter_map, Function.comp_def,
        hexists]
    · simp [classify, classifyJoined, oldRow, hnone, hjoined, List.filter_map, Function.comp_def,
        hexists]
  · simpa [classify, classifyJoined, joinedRows, hnone] using hrows
  · have hcolumns : existing.columns = incoming.columns := congrArg (List.map Prod.fst) hschema
    have hold : Unreserved key existing.columns := hcolumns ▸ h
    rw [hold.classifyJoined_eq hcolumns hspec.columns hexisting hincoming hspec.existing_nodup]
    exact hrows

end Join

section Reference

variable {V : Type} [LinearOrder V] {same : V → V → Bool} {values : CellValues V}
  {key : List String}

/-- Whether two rows have one payload, null being equal to null. -/
def SamePayload (same : V → V → Bool) (key columns : List String) (row row' : ColumnRow V) :
    Prop :=
  ∀ column ∈ columns, column ∉ key → eqMissing same (row column) (row' column) = true

/-- No key of a frame is there twice. -/
def KeysDistinct (key : List String) (rows : List (ColumnRow V)) : Prop :=
  rows.Pairwise (fun row row' => ¬ SameKey key row row')

omit [LinearOrder V] in
theorem samePayload_columnLayout {columns : List String} {row old : ColumnRow V} :
    (columnLayout values key columns).samePayload row old = true
      ↔ SamePayload values.same key columns row old := by
  show (payloadColumns key columns).all _ = true ↔ _
  simp only [List.all_eq_true, mem_payloadColumns, and_imp]
  rfl

omit [LinearOrder V] in
/-- Distinct keys are distinct lists of values. -/
theorem nodup_keyOf_iff {columns : List String} {rows : List (ColumnRow V)}
    (h : ∀ row ∈ rows, ∀ column ∈ key, (row column).isSome = true) :
    (rows.map (columnLayout values key columns).keyOf).Nodup ↔ KeysDistinct key rows := by
  rw [List.Nodup, List.pairwise_map]
  constructor
  · intro hnodup
    exact hnodup.imp_of_mem (fun hrow hrow' hne hsame =>
      hne ((filterMap_eq_iff_sameKey (h _ hrow) (h _ hrow')).mpr hsame))
  · intro hdistinct
    exact hdistinct.imp_of_mem (fun hrow hrow' hne heq =>
      hne ((filterMap_eq_iff_sameKey (h _ hrow) (h _ hrow')).mp heq))

variable (same key)

/-- **When two frames can be compared**: the key has columns, both frames have them and
no key twice, and frames that both have rows have the same columns and types. -/
def Comparable (existing incoming : Frame (ColumnRow V)) : Prop :=
  key ≠ [] ∧ (∀ column ∈ key, column ∈ incoming.columns ∧ column ∈ existing.columns)
    ∧ KeysDistinct key incoming.rows ∧ KeysDistinct key existing.rows
    ∧ (existing.rows = [] ∨ incoming.rows = [] ∨ existing.schema = incoming.schema)

/-- **The reference classification** of the incoming rows. -/
structure IsReferenceDiff (existing incoming : Frame (ColumnRow V))
    (diff : FrameDiff (ColumnRow V)) : Prop where
  partition :
    (diff.inserts.rows ++ (diff.unchanged.rows ++ diff.revisions.rows)).Perm incoming.rows
  inserts : ∀ row, row ∈ diff.inserts.rows
    ↔ row ∈ incoming.rows ∧ ∀ old ∈ existing.rows, ¬ SameKey key old row
  unchanged : ∀ row, row ∈ diff.unchanged.rows
    ↔ row ∈ incoming.rows ∧ ∃ old ∈ existing.rows, SameKey key old row
      ∧ SamePayload same key incoming.columns row old
  revisions : ∀ row, row ∈ diff.revisions.rows
    ↔ row ∈ incoming.rows ∧ ∃ old ∈ existing.rows, SameKey key old row
      ∧ ¬ SamePayload same key incoming.columns row old

/-- **The reference upsert**: one row for each key of either frame, the incoming one
where it is inserted or revised and the existing one otherwise. -/
structure IsReferenceMerge (existing incoming : Frame (ColumnRow V))
    (diff : FrameDiff (ColumnRow V)) (rows : List (ColumnRow V)) : Prop where
  distinct : KeysDistinct key rows
  covers : ∀ row, row ∈ existing.rows ∨ row ∈ incoming.rows → ∃ row' ∈ rows, SameKey key row' row
  mem : ∀ row, row ∈ rows ↔ (row ∈ diff.inserts.rows ∨ row ∈ diff.revisions.rows)
    ∨ row ∈ existing.rows ∧ ∀ new, new ∈ diff.inserts.rows ∨ new ∈ diff.revisions.rows →
      ¬ SameKey key new row

variable {same key} {existing incoming : Frame (ColumnRow V)} {diff : FrameDiff (ColumnRow V)}

omit [LinearOrder V] in
theorem canDiff_iff_comparable (hexisting : KeysNonNull key existing)
    (hincoming : KeysNonNull key incoming) :
    CanDiff (columnLayout values key incoming.columns) existing incoming
      ↔ Comparable key existing incoming := by
  rw [Comparable, ← @nodup_keyOf_iff V values key incoming.columns incoming.rows hincoming,
    ← @nodup_keyOf_iff V values key incoming.columns existing.rows hexisting]
  exact ⟨fun h => ⟨h.key, fun c hc => ⟨h.incoming_columns c hc, h.existing_columns c hc⟩,
      h.incoming_nodup, h.existing_nodup, h.compatible⟩,
    fun h => ⟨h.1, fun c hc => (h.2.1 c hc).1, fun c hc => (h.2.1 c hc).2, h.2.2.1, h.2.2.2.1,
      h.2.2.2.2⟩⟩

/-- **A comparison is the reference classification.** -/
theorem isReferenceDiff_of_ok (hexisting : KeysNonNull key existing)
    (hincoming : KeysNonNull key incoming)
    (h : diffFrames (columnLayout values key incoming.columns) existing incoming = .ok diff) :
    IsReferenceDiff values.same key existing incoming diff := by
  have hdiff := isDiff_of_ok h
  have hkey : ∀ {row old}, row ∈ incoming.rows → old ∈ existing.rows →
      ((columnLayout values key incoming.columns).keyOf old
        = (columnLayout values key incoming.columns).keyOf row ↔ SameKey key old row) :=
    fun hrow hold => filterMap_eq_iff_sameKey (hexisting _ hold) (hincoming _ hrow)
  refine ⟨perm_groups h, fun row => ?_, fun row => ?_, fun row => ?_⟩
  · rw [hdiff.mem_inserts]
    refine and_congr_right (fun hrow => forall₂_congr (fun old hold => ?_))
    rw [Ne, hkey hrow hold]
  · rw [hdiff.mem_unchanged]
    refine and_congr_right (fun hrow => exists_congr (fun old => and_congr_right (fun hold => ?_)))
    rw [hkey hrow hold, samePayload_columnLayout]
  · rw [hdiff.mem_revisions]
    refine and_congr_right (fun hrow => exists_congr (fun old => and_congr_right (fun hold => ?_)))
    rw [hkey hrow hold, ← samePayload_columnLayout, Bool.not_eq_true]

/-- **A merge is the reference upsert.** -/
theorem isReferenceMerge_of_ok (hexisting : KeysNonNull key existing)
    (hincoming : KeysNonNull key incoming)
    (h : diffFrames (columnLayout values key incoming.columns) existing incoming = .ok diff) :
    IsReferenceMerge key existing incoming diff
      (mergedFrame (columnLayout values key incoming.columns) existing incoming diff).rows := by
  have hdiff := isDiff_of_ok h
  have hchanged : ∀ row, row ∈ diff.changed.rows
      ↔ row ∈ diff.inserts.rows ∨ row ∈ diff.revisions.rows := fun row => by
    rw [FrameDiff.changed_rows, List.mem_append]
  have hchangedKeys : ∀ row ∈ diff.changed.rows, ∀ column ∈ key, (row column).isSome = true :=
    fun row hrow => hincoming row (hdiff.mem_changed.mp hrow).1
  have hmem : ∀ row, row ∈ (mergedFrame (columnLayout values key incoming.columns) existing incoming
      diff).rows ↔ (row ∈ diff.inserts.rows ∨ row ∈ diff.revisions.rows)
        ∨ row ∈ existing.rows ∧ ∀ new, new ∈ diff.inserts.rows ∨ new ∈ diff.revisions.rows →
          ¬ SameKey key new row := by
    intro row
    rw [hdiff.mem_mergedFrame, hchanged]
    refine or_congr_right (and_congr_right (fun hrow => ?_))
    rw [List.mem_map, not_exists]
    refine forall_congr' (fun new => ?_)
    rw [not_and, hchanged]
    refine forall_congr' (fun hnew => not_congr ?_)
    exact filterMap_eq_iff_sameKey (hchangedKeys new ((hchanged new).mpr hnew)) (hexisting row hrow)
  have hkeys : ∀ row ∈ (mergedFrame (columnLayout values key incoming.columns) existing incoming
      diff).rows, ∀ column ∈ key, (row column).isSome = true := by
    intro row hrow
    rcases (hmem row).mp hrow with hnew | ⟨hold, -⟩
    · exact hchangedKeys row ((hchanged row).mpr hnew)
    · exact hexisting row hold
  refine ⟨(nodup_keyOf_iff hkeys).mp hdiff.nodup_mergedFrame, fun row hrow => ?_, hmem⟩
  -- the key of a row is that of a changed row, or the existing row of the key is kept
  by_cases hnew : ∃ new, (new ∈ diff.inserts.rows ∨ new ∈ diff.revisions.rows)
      ∧ SameKey key new row
  · obtain ⟨new, hnew, hsame⟩ := hnew
    exact ⟨new, (hmem new).mpr (.inl hnew), hsame⟩
  · rcases hrow with hold | hin
    · exact ⟨row, (hmem row).mpr (.inr ⟨hold, fun new hmem' hsame => hnew ⟨new, hmem', hsame⟩⟩),
        fun _ _ => rfl⟩
    · have hreference := isReferenceDiff_of_ok hexisting hincoming h
      have hunchanged : row ∈ diff.unchanged.rows := by
        have hgroup := hreference.partition.mem_iff.mpr hin
        simp only [List.mem_append] at hgroup
        rcases hgroup with hins | hunch | hrev
        · exact absurd ⟨row, .inl hins, fun _ _ => rfl⟩ hnew
        · exact hunch
        · exact absurd ⟨row, .inr hrev, fun _ _ => rfl⟩ hnew
      obtain ⟨-, old, hold, hsame, -⟩ := (hreference.unchanged row).mp hunchanged
      refine ⟨old, (hmem old).mpr (.inr ⟨hold, fun new hmem' hnewSame => ?_⟩), hsame⟩
      exact hnew ⟨new, hmem', fun c hc => (hnewSame c hc).trans (hsame c hc)⟩

/-- **Difference and merge are the reference upsert.** For every two frames whose keys
have no nulls and whose columns have no reserved name, comparing and merging raise exactly
where the frames are not comparable; otherwise the incoming rows are classified and merged as
the reference does, and the shortcuts for an empty incoming frame, an empty existing frame and
no change give the rows of the general path. -/
theorem mergeColumns_reference (values : CellValues V) (key : List String)
    (existing incoming : Frame (ColumnRow V)) (hexisting : KeysNonNull key existing)
    (hincoming : KeysNonNull key incoming) (hnames : Unreserved key incoming.columns) :
    ((∃ diff, diffColumns values key existing incoming = .ok diff)
        ↔ Comparable key existing incoming)
      ∧ ((∃ result, mergeColumns values key existing incoming = .ok result)
        ↔ Comparable key existing incoming)
      ∧ (∀ diff, diffColumns values key existing incoming = .ok diff →
        IsReferenceDiff values.same key existing incoming diff
          ∧ diff.inserts.rows = (classifyJoined values key existing incoming).inserts.rows
          ∧ diff.unchanged.rows = (classifyJoined values key existing incoming).unchanged.rows
          ∧ diff.revisions.rows = (classifyJoined values key existing incoming).revisions.rows)
      ∧ ∀ merged diff, mergeColumns values key existing incoming = .ok (merged, diff) →
        diffColumns values key existing incoming = .ok diff
          ∧ IsReferenceMerge key existing incoming diff merged.rows
          ∧ merged.rows.Perm
            (generalMerge (columnLayout values key incoming.columns) existing diff) := by
  have hdiffers : (∃ diff, diffColumns values key existing incoming = .ok diff)
      ↔ Comparable key existing incoming := by
    rw [hnames.diffColumns_eq hexisting hincoming]
    exact diffFrames_isOk_iff.trans (canDiff_iff_comparable hexisting hincoming)
  refine ⟨hdiffers, ?_, fun diff h => ⟨?_, hnames.rows_diffColumns hexisting hincoming h⟩,
    fun merged diff h => ?_⟩
  · rw [← hdiffers]
    constructor
    · rintro ⟨result, h⟩
      obtain ⟨diff, hdiff, -⟩ := bind_eq_ok.mp h
      exact ⟨diff, hdiff⟩
    · rintro ⟨diff, hdiff⟩
      exact ⟨_, bind_eq_ok.mpr ⟨diff, hdiff, rfl⟩⟩
  · rw [hnames.diffColumns_eq hexisting hincoming] at h
    exact isReferenceDiff_of_ok hexisting hincoming h
  · obtain ⟨diff', hdiff, heq⟩ := bind_eq_ok.mp h
    cases heq
    have hrows := hdiff
    rw [hnames.diffColumns_eq hexisting hincoming] at hrows
    exact ⟨hdiff, isReferenceMerge_of_ok hexisting hincoming hrows, perm_mergedFrame hrows⟩

end Reference

/-- Integers as the values of cells. -/
def intCells : CellValues ℤ where
  same a b := a == b
  bool b := if b then 1 else 0
  comparable a b := a == b
  comparable_self _ := beq_self_eq_true _

/-- A frame of two columns, for an example. -/
def pairFrame (column : String) (pairs : List (ℤ × Option ℤ)) : Frame (ColumnRow ℤ) where
  schema := [("k", "Int64"), (column, "Int64")]
  rows := pairs.map (fun p name =>
    if name = "k" then some p.1 else if name = column then p.2 else none)

/-- A row is left, one revised and one inserted. -/
theorem mergeColumns_reference_pairs :
    ∃ merged diff, mergeColumns intCells ["k"] (pairFrame "v" [(1, none), (2, some 5)])
        (pairFrame "v" [(2, some 6), (3, none)]) = .ok (merged, diff)
      ∧ IsReferenceMerge ["k"] (pairFrame "v" [(1, none), (2, some 5)])
        (pairFrame "v" [(2, some 6), (3, none)]) diff merged.rows
      ∧ merged.rows.map (fun row => (row "k", row "v"))
        = [(some 1, none), (some 2, some 6), (some 3, none)] := by
  obtain ⟨-, hmerges, -, hmerged⟩ := mergeColumns_reference intCells ["k"]
    (pairFrame "v" [(1, none), (2, some 5)]) (pairFrame "v" [(2, some 6), (3, none)])
    (by simp [KeysNonNull, pairFrame]) (by simp [KeysNonNull, pairFrame])
    ⟨by decide, by decide, by decide, by decide, by decide +kernel⟩
  obtain ⟨⟨merged, diff⟩, hresult⟩ := hmerges.mpr
    ⟨by decide, by decide, by simp [KeysDistinct, SameKey, pairFrame],
      by simp [KeysDistinct, SameKey, pairFrame], .inr (.inr rfl)⟩
  refine ⟨merged, diff, hresult, (hmerged merged diff hresult).2.1, ?_⟩
  have hrows : (mergeColumns intCells ["k"] (pairFrame "v" [(1, none), (2, some 5)])
      (pairFrame "v" [(2, some 6), (3, none)])).toOption.map
        (fun result => result.1.rows.map (fun row => (row "k", row "v")))
      = some [(some 1, none), (some 2, some 6), (some 3, none)] := by decide +kernel
  rw [hresult] at hrows
  exact Option.some.inj hrows

/-- **A column with a reserved name** makes the comparison raise, of frames that are
comparable. -/
theorem reserved_column_raises :
    ¬ ((∃ diff, diffColumns intCells ["k"] (pairFrame "__order" [(1, some 5)])
        (pairFrame "__order" [(2, some 6)]) = .ok diff)
      ↔ Comparable ["k"] (pairFrame "__order" [(1, some 5)]) (pairFrame "__order" [(2, some 6)])) := by
  intro h
  obtain ⟨diff, hdiff⟩ := h.mpr ⟨by decide, by decide, by simp [KeysDistinct, SameKey, pairFrame],
    by simp [KeysDistinct, SameKey, pairFrame], .inr (.inr rfl)⟩
  have hraises : (diffColumns intCells ["k"] (pairFrame "__order" [(1, some 5)])
      (pairFrame "__order" [(2, some 6)])).toOption.isSome = false := by decide +kernel
  rw [hdiff] at hraises
  cases hraises
