import MacroLoader.RowDigest

/-!
# Contracts of the replication into PostgreSQL

The values that the synchronizer passes around are validated when they are
built: a synchronization state whose bounds fit its row count, a delta whose
groups of keys are disjoint. They are structures that carry the validation
here, and the constructors of the source are functions that either return one
or raise.
-/

/-- `POSTGRES_DATASET_ID`. -/
def postgresDatasetId : String := "macro_features_daily"

/-- A row of the table of synchronization states, which may hold anything its
column types admit. -/
structure SyncStateRow where
  datasetId : String
  sourceBuildId : String
  dataSha256 : String
  schemaVersion : ℤ
  featureVersion : ℤ
  rowCount : ℤ
  minTimestamp : Option Timestamp
  maxTimestamp : Option Timestamp
  syncedAtUtc : Timestamp
  deriving DecidableEq

/-- **A synchronization state**: which build the replica holds, and what is to
be found there. -/
structure GoldSyncState where
  sourceBuildId : String
  dataSha256 : Sha256Hex
  schemaVersion : ℤ
  featureVersion : ℤ
  rowCount : ℤ
  minTimestamp : Option Timestamp
  maxTimestamp : Option Timestamp
  syncedAtUtc : Timestamp
  rowCount_nonneg : 0 ≤ rowCount
  /-- An empty dataset has no bounds, any other one has both. -/
  bounds_iff : (minTimestamp.isSome ↔ 0 < rowCount) ∧ (maxTimestamp.isSome ↔ 0 < rowCount)
  bounds_ordered : ∀ a ∈ minTimestamp, ∀ b ∈ maxTimestamp, a ≤ b

/-- `GoldSyncState.__post_init__`: the state with the given fields, if they are
those of one. -/
def GoldSyncState.validate (row : SyncStateRow) : Except PyError GoldSyncState :=
  if row.datasetId ≠ postgresDatasetId then
    .error (.valueError "unsupported PostgreSQL Gold dataset_id")
  else if hsha : isSha256Hex row.dataSha256 = true then
    if hcount : row.rowCount < 0 then .error (.valueError "row_count cannot be negative")
    else if hempty : row.rowCount = 0 ∧ (row.minTimestamp.isSome ∨ row.maxTimestamp.isSome) then
      .error (.valueError "empty synchronized dataset cannot have timestamp bounds")
    else if hfull : 0 < row.rowCount ∧ ¬ (row.minTimestamp.isSome ∧ row.maxTimestamp.isSome) then
      .error (.valueError "non-empty synchronized dataset requires timestamp bounds")
    else if hord : ∀ a ∈ row.minTimestamp, ∀ b ∈ row.maxTimestamp, a ≤ b then
      .ok
        { sourceBuildId := row.sourceBuildId
          dataSha256 := ⟨row.dataSha256, hsha⟩
          schemaVersion := row.schemaVersion
          featureVersion := row.featureVersion
          rowCount := row.rowCount
          minTimestamp := row.minTimestamp
          maxTimestamp := row.maxTimestamp
          syncedAtUtc := row.syncedAtUtc
          rowCount_nonneg := not_lt.mp hcount
          bounds_iff := by grind
          bounds_ordered := hord }
    else .error (.valueError "max_timestamp cannot precede min_timestamp")
  else .error (.valueError "data_sha256 must be 64 lowercase hexadecimal characters")

/-- `_state_params`: the row that a state is stored as. -/
def GoldSyncState.toRow (state : GoldSyncState) : SyncStateRow where
  datasetId := postgresDatasetId
  sourceBuildId := state.sourceBuildId
  dataSha256 := state.dataSha256
  schemaVersion := state.schemaVersion
  featureVersion := state.featureVersion
  rowCount := state.rowCount
  minTimestamp := state.minTimestamp
  maxTimestamp := state.maxTimestamp
  syncedAtUtc := state.syncedAtUtc

/-- **What is stored of a state reads back as the state.** -/
theorem GoldSyncState.validate_toRow (state : GoldSyncState) :
    GoldSyncState.validate state.toRow = .ok state := by
  obtain ⟨hmin, hmax⟩ := state.bounds_iff
  have hnonneg := state.rowCount_nonneg
  have hord := state.bounds_ordered
  rw [validate, if_neg (by simp [toRow]), dif_pos (by exact state.dataSha256.2),
    dif_neg (by simpa [toRow] using hnonneg), dif_neg (by grind [toRow]),
    dif_neg (by grind [toRow]), dif_pos (by exact hord)]
  rfl

/-- A state that validation yields has the fields of the row. -/
theorem GoldSyncState.toRow_of_validate {row : SyncStateRow} {state : GoldSyncState}
    (h : GoldSyncState.validate row = .ok state) : state.toRow = row := by
  unfold validate at h
  split_ifs at h with hid
  cases h
  cases row
  simp_all [toRow]

/-- `GoldTargetSummary`: what the consumer rows amount to. -/
structure GoldTargetSummary where
  rowCount : ℤ
  minTimestamp : Option Timestamp
  maxTimestamp : Option Timestamp
  deriving DecidableEq

/-- A row to be written: its timestamp and its cells. -/
abbrev GoldRowPayload := Timestamp × WideRow Float64

/-- Whether some sets of keys are pairwise disjoint: their union has as many
elements as they have together. -/
def disjointKeySets (groups : List (Finset Timestamp)) : Bool :=
  (groups.foldr (· ∪ ·) ∅).card == (groups.map Finset.card).sum

/-- **A delta**: what is to be written to bring the replica to the source. -/
structure GoldDeltaPlan where
  inserts : List GoldRowPayload
  updates : List GoldRowPayload
  deletes : List Timestamp
  unchanged : List Timestamp
  sourceDigests : KeyedTable Timestamp Sha256Hex
  disjoint : disjointKeySets [(inserts.map Prod.fst).toFinset, (updates.map Prod.fst).toFinset,
    deletes.toFinset, unchanged.toFinset] = true

/-- `GoldDeltaPlan.__post_init__`. -/
def GoldDeltaPlan.validate (inserts updates : List GoldRowPayload)
    (deletes unchanged : List Timestamp) (sourceDigests : KeyedTable Timestamp Sha256Hex) :
    Except PyError GoldDeltaPlan :=
  if h : disjointKeySets [(inserts.map Prod.fst).toFinset, (updates.map Prod.fst).toFinset,
      deletes.toFinset, unchanged.toFinset] = true then
    .ok ⟨inserts, updates, deletes, unchanged, sourceDigests, h⟩
  else .error (.valueError "Gold delta mutation/unchanged key sets must be disjoint")

namespace GoldDeltaPlan

/-- The rows to be written: `(*plan.inserts, *plan.updates)`. -/
def mutations (plan : GoldDeltaPlan) : List GoldRowPayload := plan.inserts ++ plan.updates

/-- Whether there is nothing to write. -/
def isEmpty (plan : GoldDeltaPlan) : Bool :=
  plan.inserts.isEmpty && plan.updates.isEmpty && plan.deletes.isEmpty

end GoldDeltaPlan

/-- `GoldSyncResult`: the counts a synchronization reports. -/
structure GoldSyncResult where
  sourceBuildId : String
  inserted : ℕ
  updated : ℕ
  deleted : ℕ
  unchanged : ℕ
  deriving DecidableEq
