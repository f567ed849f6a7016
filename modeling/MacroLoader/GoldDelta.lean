import MacroLoader.PostgresSync

/-!
# Planning a delta

The delta compares the complete source with the complete index of stored row
digests, key by key; no timestamp is trusted as a watermark. What the planner
computes is a partition of the keys of both sides (`mem_rowsOfKind_iff`,
`mem_deletedKeys_iff`), so the groups it hands to the plan are always disjoint and
the plan it builds always passes its own validation (`planGoldDelta_eq_ok_iff`).
-/

/-- A frame as it is read from a data file with the canonical columns and types:
its rows, in file order. -/
structure GoldFrame where
  rows : List (Option Timestamp × WideRow Float64)

/-- The timestamps of a frame that are not null. -/
def GoldFrame.timestamps (frame : GoldFrame) : List Timestamp :=
  frame.rows.filterMap Prod.fst

/-- `_validate_source_frame`, and the rows sorted by timestamp. -/
def sourceTable (frame : GoldFrame) : Except PyError (KeyedTable Timestamp (WideRow Float64)) :=
  let rows := frame.rows.filterMap (fun r => r.1.map (fun t => (t, r.2)))
  if frame.rows.any (fun r => r.1.isNone) then
    .error (.valueError "PostgreSQL delta source timestamp_m1 cannot be null")
  else if ¬ (rows.map Prod.fst).Nodup then
    .error (.valueError "PostgreSQL delta source timestamp_m1 must be unique")
  else .ok (KeyedTable.ofRows rows)

/-- The cells of a row in canonical form, or the error of the first that has
none. -/
def canonicalRow (row : WideRow Float64) : Except PyError (WideRow Float64) :=
  match rawFeatureColumns.findSome? (fun c => KeyedTable.errorOf (canonicalCell (row c))) with
  | some e => .error e
  | none => .ok (fun c => (canonicalCell (row c)).toOption.join)

theorem canonicalRow_eq_ok_iff {row row' : WideRow Float64} :
    canonicalRow row = .ok row' ↔ ∀ c, canonicalCell (row c) = .ok (row' c) := by
  have hall : rawFeatureColumns.findSome? (fun c => KeyedTable.errorOf (canonicalCell (row c)))
      = none ↔ ∀ c, ∃ v, canonicalCell (row c) = .ok v := by
    rw [List.findSome?_eq_none_iff]
    exact ⟨fun h c => KeyedTable.errorOf_eq_none.mp (h c (mem_rawFeatureColumns c)),
      fun h c _ => KeyedTable.errorOf_eq_none.mpr (h c)⟩
  unfold canonicalRow
  constructor
  · intro h c
    split at h
    · cases h
    · next hnone =>
      obtain ⟨v, hv⟩ := hall.mp hnone c
      rw [← Except.ok.inj h]
      simp only [hv]
      rfl
  · intro h
    rw [hall.mpr (fun c => ⟨_, h c⟩)]
    refine congrArg Except.ok (funext (fun c => ?_))
    rw [h c]
    rfl

section Digests

variable (sha256 : Bytes → Sha256Hex)

/-- A source row as it is written, with its digest. -/
def sourceRow (t : Timestamp) (row : WideRow Float64) :
    Except PyError (WideRow Float64 × Sha256Hex) := do
  let t ← loadDatetime t
  let values ← canonicalRow row
  let digest ← goldRowSha256 sha256 t values
  return (values, digest)

/-- `source_rows_and_digests`: the rows of a frame in timestamp order, each with
its digest. -/
def sourceRowsAndDigests (frame : GoldFrame) :
    Except PyError (KeyedTable Timestamp (WideRow Float64 × Sha256Hex)) := do
  let table ← sourceTable frame
  table.traverse (sourceRow sha256)

end Digests

/-! ## The source rows -/

theorem sourceRow_eq_ok {sha256 : Bytes → Sha256Hex} {t : Timestamp} {row : WideRow Float64}
    {r : WideRow Float64 × Sha256Hex} (h : sourceRow sha256 t row = .ok r) :
    loadDatetime t = .ok t ∧ canonicalRow row = .ok r.1
      ∧ goldRowSha256 sha256 t r.1 = .ok r.2 := by
  obtain ⟨t', ht, hrest⟩ := bind_eq_ok.mp h
  obtain ⟨values, hvalues, hrest⟩ := bind_eq_ok.mp hrest
  obtain ⟨digest, hdigest, hr⟩ := bind_eq_ok.mp hrest
  cases hr
  obtain rfl : t' = t := loadDatetime_eq_ok ht
  exact ⟨ht, hvalues, hdigest⟩

/-- The canonical cells of a row are canonical. -/
theorem canonicalRow_idem {row row' : WideRow Float64} (h : canonicalRow row = .ok row') :
    canonicalRow row' = .ok row' := by
  rw [canonicalRow_eq_ok_iff] at h ⊢
  intro c
  have hc := h c
  cases hv : row c with
  | none =>
    rw [hv] at hc
    rw [← Except.ok.inj hc]
    rfl
  | some x =>
    rw [hv, canonicalCell] at hc
    cases hx : canonicalFloat x with
    | error e => rw [hx] at hc; cases hc
    | ok y =>
      rw [hx] at hc
      rw [← Except.ok.inj hc, canonicalCell, canonicalFloat_idem hx]
      rfl

/-- **Every source row** has a readable timestamp, canonical cells, and the digest
of these. -/
theorem sourceRows_spec {sha256 : Bytes → Sha256Hex} {frame : GoldFrame}
    {source : KeyedTable Timestamp (WideRow Float64 × Sha256Hex)}
    (h : sourceRowsAndDigests sha256 frame = .ok source) {t : Timestamp}
    {r : WideRow Float64 × Sha256Hex} (hr : source.get? t = some r) :
    loadDatetime t = .ok t ∧ canonicalRow r.1 = .ok r.1
      ∧ goldRowSha256 sha256 t r.1 = .ok r.2 := by
  obtain ⟨table, -, h⟩ := bind_eq_ok.mp h
  have hrow := KeyedTable.traverse_eq_ok_iff.mp h t
  rw [hr, Option.map_some] at hrow
  obtain ⟨row, -, hrow⟩ := Option.map_eq_some_iff.mp hrow
  obtain ⟨ht, hcanonical, hd⟩ := sourceRow_eq_ok hrow
  exact ⟨ht, canonicalRow_idem hcanonical, hd⟩

/-- **A frame of readable, finite rows has source rows.** -/
theorem sourceRowsAndDigests_isOk (sha256 : Bytes → Sha256Hex) {frame : GoldFrame}
    {table : KeyedTable Timestamp (WideRow Float64)} (htable : sourceTable frame = .ok table)
    (hrows : ∀ t row, table.get? t = some row →
      loadDatetime t = .ok t ∧ ∃ row', canonicalRow row = .ok row') :
    ∃ source, sourceRowsAndDigests sha256 frame = .ok source := by
  have hrow : ∀ t row, table.get? t = some row → ∃ r, sourceRow sha256 t row = .ok r := by
    intro t row hget
    obtain ⟨ht, row', hcanonical⟩ := hrows t row hget
    obtain ⟨d, hd⟩ := goldRowSha256_isOk sha256 ht
      (fun c => ⟨_, canonicalRow_eq_ok_iff.mp (canonicalRow_idem hcanonical) c⟩)
    exact ⟨(row', d), bind_eq_ok.mpr ⟨t, ht, bind_eq_ok.mpr ⟨row', hcanonical,
      bind_eq_ok.mpr ⟨d, hd, rfl⟩⟩⟩⟩
  obtain ⟨source, hsource⟩ := KeyedTable.traverse_isOk hrow
  exact ⟨source, bind_eq_ok.mpr ⟨table, htable, hsource⟩⟩

/-! ## The plan -/

section Plan

variable (sha256 : Bytes → Sha256Hex)

/-- What is to be done about a source row, given the stored digest. -/
inductive DeltaKind
  | insert | update | unchanged
  deriving DecidableEq

def deltaKind (target : Option Sha256Hex) (source : Sha256Hex) : DeltaKind :=
  match target with
  | none => .insert
  | some hash => if hash ≠ source then .update else .unchanged

/-- The source rows of one kind, in timestamp order. -/
def rowsOfKind (kind : DeltaKind) (source : KeyedTable Timestamp (WideRow Float64 × Sha256Hex))
    (target : KeyedTable Timestamp Sha256Hex) : List GoldRowPayload :=
  (source.rows.filter (fun r => deltaKind (target.get? r.1) r.2.2 = kind)).map
    (fun r => (r.1, r.2.1))

/-- The stored keys that the source does not have. -/
def deletedKeys (source : KeyedTable Timestamp (WideRow Float64 × Sha256Hex))
    (target : KeyedTable Timestamp Sha256Hex) : List Timestamp :=
  target.keys.filter (fun t => (source.get? t).isNone)

/-- `plan_gold_delta`. The stored index has one digest for each timestamp by its
primary key, which is what `_target_digest_map` checks. -/
def planGoldDelta (frame : GoldFrame) (target : KeyedTable Timestamp Sha256Hex)
    (syncState : Option GoldSyncState) : Except PyError GoldDeltaPlan := do
  let source ← sourceRowsAndDigests sha256 frame
  check (syncState = none → target.rows = [])
    (.valueError "PostgreSQL target has row digests but no authoritative sync state")
  GoldDeltaPlan.validate (rowsOfKind .insert source target) (rowsOfKind .update source target)
    (deletedKeys source target) ((rowsOfKind .unchanged source target).map Prod.fst)
    (source.map Prod.snd)

end Plan

variable {source : KeyedTable Timestamp (WideRow Float64 × Sha256Hex)}
  {target : KeyedTable Timestamp Sha256Hex}

/-- **A source row is in the group of its kind.** -/
theorem mem_rowsOfKind_iff {kind : DeltaKind} {t : Timestamp} {row : WideRow Float64} :
    (t, row) ∈ rowsOfKind kind source target
      ↔ ∃ d, source.get? t = some (row, d) ∧ deltaKind (target.get? t) d = kind := by
  simp only [rowsOfKind, List.mem_map, List.mem_filter, decide_eq_true_eq, Prod.mk.injEq]
  constructor
  · rintro ⟨⟨t', row', d⟩, ⟨hmem, hkind⟩, rfl, rfl⟩
    exact ⟨d, KeyedTable.mem_rows_iff.mp hmem, hkind⟩
  · rintro ⟨d, hget, hkind⟩
    exact ⟨(t, row, d), ⟨KeyedTable.mem_rows_iff.mpr hget, hkind⟩, rfl, rfl⟩

theorem mem_keys_rowsOfKind_iff {kind : DeltaKind} {t : Timestamp} :
    t ∈ (rowsOfKind kind source target).map Prod.fst
      ↔ ∃ row d, source.get? t = some (row, d) ∧ deltaKind (target.get? t) d = kind := by
  rw [List.mem_map]
  constructor
  · rintro ⟨⟨t', row⟩, hmem, rfl⟩
    obtain ⟨d, h⟩ := mem_rowsOfKind_iff.mp hmem
    exact ⟨row, d, h⟩
  · rintro ⟨row, d, h⟩
    exact ⟨(t, row), mem_rowsOfKind_iff.mpr ⟨d, h⟩, rfl⟩

theorem mem_deletedKeys_iff {t : Timestamp} :
    t ∈ deletedKeys source target ↔ (target.get? t).isSome ∧ source.get? t = none := by
  rw [deletedKeys, List.mem_filter, KeyedTable.mem_keys_iff, Option.isNone_iff_eq_none]

section Groups

variable (source : KeyedTable Timestamp (WideRow Float64 × Sha256Hex))
  (target : KeyedTable Timestamp Sha256Hex)

/-- Two kinds have no key in common. -/
theorem disjoint_rowsOfKind {kind kind' : DeltaKind} (h : kind ≠ kind') :
    Disjoint ((rowsOfKind kind source target).map Prod.fst).toFinset
      ((rowsOfKind kind' source target).map Prod.fst).toFinset := by
  refine Finset.disjoint_left.mpr (fun t ht ht' => ?_)
  obtain ⟨row, d, hget, hkind⟩ := mem_keys_rowsOfKind_iff.mp (List.mem_toFinset.mp ht)
  obtain ⟨row', d', hget', hkind'⟩ := mem_keys_rowsOfKind_iff.mp (List.mem_toFinset.mp ht')
  rw [hget] at hget'
  obtain ⟨rfl, rfl⟩ := Prod.mk.inj (Option.some.inj hget')
  exact h (hkind.symm.trans hkind')

/-- A key to be deleted is of no kind. -/
theorem disjoint_deletedKeys (kind : DeltaKind) :
    Disjoint ((rowsOfKind kind source target).map Prod.fst).toFinset
      (deletedKeys source target).toFinset := by
  refine Finset.disjoint_left.mpr (fun t ht ht' => ?_)
  obtain ⟨row, d, hget, -⟩ := mem_keys_rowsOfKind_iff.mp (List.mem_toFinset.mp ht)
  rw [List.mem_toFinset, mem_deletedKeys_iff, hget] at ht'
  cases ht'.2

/-- **The groups of a delta are disjoint**, so building the plan never raises. -/
theorem disjointKeySets_groups :
    disjointKeySets [((rowsOfKind .insert source target).map Prod.fst).toFinset,
      ((rowsOfKind .update source target).map Prod.fst).toFinset,
      (deletedKeys source target).toFinset,
      ((rowsOfKind .unchanged source target).map Prod.fst).toFinset] = true := by
  have hiu := disjoint_rowsOfKind source target
    (show DeltaKind.insert ≠ .update by decide)
  have hin := disjoint_rowsOfKind source target
    (show DeltaKind.insert ≠ .unchanged by decide)
  have hun := disjoint_rowsOfKind source target
    (show DeltaKind.update ≠ .unchanged by decide)
  have hid := disjoint_deletedKeys source target .insert
  have hud := disjoint_deletedKeys source target .update
  have hnd := disjoint_deletedKeys source target .unchanged
  simp only [disjointKeySets, List.foldr_cons, List.foldr_nil, Finset.union_empty, List.map_cons,
    List.map_nil, List.sum_cons, List.sum_nil, beq_iff_eq]
  rw [Finset.card_union_of_disjoint, Finset.card_union_of_disjoint,
    Finset.card_union_of_disjoint hnd.symm, add_zero]
  · exact Finset.disjoint_union_right.mpr ⟨hud, hun⟩
  · exact Finset.disjoint_union_right.mpr ⟨hiu, Finset.disjoint_union_right.mpr ⟨hid, hin⟩⟩

end Groups

/-- The plan for a source and a target. -/
def deltaPlan (source : KeyedTable Timestamp (WideRow Float64 × Sha256Hex))
    (target : KeyedTable Timestamp Sha256Hex) : GoldDeltaPlan where
  inserts := rowsOfKind .insert source target
  updates := rowsOfKind .update source target
  deletes := deletedKeys source target
  unchanged := (rowsOfKind .unchanged source target).map Prod.fst
  sourceDigests := source.map Prod.snd
  disjoint := disjointKeySets_groups source target

/-- **What planning yields**: the plan for the source rows of the frame, unless
they cannot be read or stored digests have no state to go with. -/
theorem planGoldDelta_eq_ok_iff {sha256 : Bytes → Sha256Hex} {frame : GoldFrame}
    {syncState : Option GoldSyncState} {plan : GoldDeltaPlan} :
    planGoldDelta sha256 frame target syncState = .ok plan
      ↔ ∃ source, sourceRowsAndDigests sha256 frame = .ok source
        ∧ (syncState = none → target.rows = []) ∧ plan = deltaPlan source target := by
  have hvalid : ∀ source, GoldDeltaPlan.validate (rowsOfKind .insert source target)
      (rowsOfKind .update source target) (deletedKeys source target)
      ((rowsOfKind .unchanged source target).map Prod.fst) (source.map Prod.snd)
        = .ok (deltaPlan source target) := fun source => by
    rw [GoldDeltaPlan.validate, dif_pos (disjointKeySets_groups source target)]
    rfl
  simp only [planGoldDelta, bind_eq_ok, check_eq_ok, hvalid, Except.ok.injEq]
  constructor
  · rintro ⟨source, hsource, -, hstate, rfl⟩
    exact ⟨source, hsource, hstate, rfl⟩
  · rintro ⟨source, hsource, hstate, rfl⟩
    exact ⟨source, hsource, (), hstate, rfl⟩
