import MacroLoader.Program
import MacroLoader.GoldDelta

/-!
# The PostgreSQL replica

The replica holds the raw tables, an index of row digests and a
synchronization state. It is changed in one place: inside a locked
transaction, by statements that each touch one row. A statement may fail
wherever it stands, and the statements executed so far are recorded, so that
what a transaction wrote can be asked about as well as what it left.
-/

/-- **The contents of the database** that the synchronizer reads and writes. -/
structure Replica where
  raw : RawTables Float64
  /-- The digest index of a dataset. -/
  rowHashes : String → KeyedTable Timestamp String
  /-- The synchronization state of a dataset, if there is one. -/
  syncState : String → Option SyncStateRow

/-- A statement that writes. -/
inductive Statement
  | upsertRow (s : Series) (t : Timestamp)
  | deleteRow (s : Series) (t : Timestamp)
  | upsertDigest (t : Timestamp)
  | deleteDigest (t : Timestamp)
  | refreshFeatures
  | upsertState
  deriving DecidableEq

/-- The timestamp of the row a statement writes, if it writes a keyed row. -/
def Statement.timestamp : Statement → Option Timestamp
  | upsertRow _ t | deleteRow _ t | upsertDigest t | deleteDigest t => some t
  | refreshFeatures | upsertState => none

/-- A connection: the database, and the writing statements executed. -/
structure Session where
  replica : Replica
  statements : List Statement

/-- What runs on a cursor of a connection. -/
abbrev Transaction := Program Session PyError

namespace Transaction

/-- Execute a statement that writes. -/
def execute (statement : Statement) (f : Replica → Replica) : Transaction Unit :=
  Program.write (fun s => ⟨f s.replica, s.statements ++ [statement]⟩)

/-- Execute a statement that reads. -/
def fetch {α : Type} (f : Replica → Except PyError α) : Transaction α :=
  Program.query (fun s => f s.replica)

end Transaction

open Transaction Program

/-! ## Point writes -/

namespace Replica

/-- Rewrite the row of one timestamp in the table of one series. -/
def setRow (db : Replica) (s : Series) (t : Timestamp)
    (row : Option (RawRow Float64 s.nativeShape)) : Replica :=
  { db with raw := Function.update db.raw s ((db.raw s).alter t (fun _ => row)) }

/-- Rewrite the digest of one timestamp in the index of a dataset. -/
def setDigest (db : Replica) (dataset : String) (t : Timestamp) (digest : Option String) :
    Replica :=
  { db with
    rowHashes := Function.update db.rowHashes dataset
      ((db.rowHashes dataset).alter t (fun _ => digest)) }

/-- Rewrite the synchronization state of a dataset. -/
def setState (db : Replica) (dataset : String) (row : SyncStateRow) : Replica :=
  { db with syncState := Function.update db.syncState dataset (some row) }

end Replica

/-! ## Reading -/

/-- A digest as it is read from the index. -/
def loadDigest (t : Timestamp) (text : String) : Except PyError Sha256Hex :=
  match loadDatetime t with
  | .error e => .error e
  | .ok _ =>
    if h : isSha256Hex text = true then .ok ⟨text, h⟩
    else .error (.valueError "row_sha256 must be 64 lowercase hexadecimal characters")

/-- The digest index of a dataset, as `read_digests` reads it. -/
def storedDigests (db : Replica) (dataset : String) :
    Except PyError (KeyedTable Timestamp Sha256Hex) :=
  (db.rowHashes dataset).traverse loadDigest

/-- The synchronization state of a dataset, as `read_state` reads it. -/
def storedState (db : Replica) (dataset : String) : Except PyError (Option GoldSyncState) :=
  match db.syncState dataset with
  | none => .ok none
  | some row => (GoldSyncState.validate row).map some

/-- A nullable timestamp as it is read from a result row. -/
def loadNullable : Option Timestamp → Except PyError (Option Timestamp)
  | none => .ok none
  | some t => (loadDatetime t).map some

/-- `_TARGET_SUMMARY_SQL`: the number of consumer rows and their first and last
timestamp. -/
def targetSummary (db : Replica) : Except PyError GoldTargetSummary := do
  let keys := (consumerRows db.raw).keys
  let minimum ← loadNullable keys.head?
  let maximum ← loadNullable keys.getLast?
  return ⟨keys.length, minimum, maximum⟩

def readState (dataset : String) : Transaction (Option GoldSyncState) :=
  fetch (fun db => storedState db dataset)

def readDigests (dataset : String) : Transaction (KeyedTable Timestamp Sha256Hex) :=
  fetch (fun db => storedDigests db dataset)

def readConsumerDigests (sha256 : Bytes → Sha256Hex) :
    Transaction (KeyedTable Timestamp Sha256Hex) :=
  fetch (fun db => consumerDigests sha256 db.raw)

def summary : Transaction GoldTargetSummary := fetch targetSummary

/-! ## Applying a delta -/

/-- `a == b` on nullable doubles. -/
def nullableEq : Option Float64 → Option Float64 → Bool
  | none, none => true
  | some a, some b => a.numEq b
  | _, _ => false

/-- Whether the level of a series in a wide row is the close of its bar, if it
has one. -/
def levelIsClose (s : Series) (row : WideRow Float64) : Bool :=
  s.nativeShape != .ohlc || nullableEq (row (.level s)) (barCell s .close row)

/-- The step of `_apply_feature_row` for one series: the row of its table is
replaced, or deleted if it would be all null. -/
def applySeriesRow (row : GoldRowPayload) (s : Series) : Transaction Unit := do
  require (levelIsClose s row.2 = true)
    (.valueError ("PostgreSQL OHLC source level must equal " ++ s.id ++ "_close"))
  if (seriesRow s row.2).allNull then
    execute (.deleteRow s row.1) (fun db => db.setRow s row.1 none)
  else
    execute (.upsertRow s row.1) (fun db => db.setRow s row.1 (some (seriesRow s row.2)))

/-- `_apply_feature_row`. -/
def applyFeatureRow (row : GoldRowPayload) : Transaction Unit :=
  forEach goldSourceSeries (applySeriesRow row)

/-- `_delete_feature_timestamp`. -/
def deleteFeatureTimestamp (t : Timestamp) : Transaction Unit :=
  forEach goldSourceSeries (fun s => execute (.deleteRow s t) (fun db => db.setRow s t none))

/-- `_UPSERT_DIGEST_SQL` with the source digest of a row. -/
def upsertDigest (dataset : String) (plan : GoldDeltaPlan) (row : GoldRowPayload) :
    Transaction Unit :=
  match plan.sourceDigests.get? row.1 with
  | some digest =>
    execute (.upsertDigest row.1) (fun db => db.setDigest dataset row.1 (some digest.1))
  | none => throw (.valueError "Gold delta mutation is missing its source row digest")

/-- `_DELETE_DIGEST_SQL`. -/
def deleteDigest (dataset : String) (t : Timestamp) : Transaction Unit :=
  execute (.deleteDigest t) (fun db => db.setDigest dataset t none)

/-- `_refresh_feature_views`: it may fail like any statement, and changes nothing
that the synchronizer reads. -/
def refreshFeatureViews : Transaction Unit := execute .refreshFeatures id

/-- The writes of a delta, in the order in which they are executed. -/
def writeDelta (dataset : String) (plan : GoldDeltaPlan) : Transaction Unit := do
  forEach plan.inserts applyFeatureRow
  forEach plan.updates applyFeatureRow
  forEach plan.deletes deleteFeatureTimestamp
  forEach plan.mutations (upsertDigest dataset plan)
  forEach plan.deletes (deleteDigest dataset)
  if plan.isEmpty then pure () else refreshFeatureViews

/-- The checks after the writes: the consumer rows and the digest index are read
again and compared with the source. -/
def verifyDelta (sha256 : Bytes → Sha256Hex) (dataset : String) (plan : GoldDeltaPlan)
    (state : GoldSyncState) : Transaction Unit := do
  let actual ← summary
  require (actual = ⟨state.rowCount, state.minTimestamp, state.maxTimestamp⟩)
    (.valueError "PostgreSQL Gold post-write summary does not match source")
  let index ← readDigests dataset
  require (index = plan.sourceDigests)
    (.valueError "PostgreSQL Gold post-write digest index does not match source")
  let consumer ← readConsumerDigests sha256
  require (consumer = plan.sourceDigests)
    (.valueError "PostgreSQL Gold post-write consumer rows do not match source")

/-- **`_PostgresGoldSyncTransaction.apply_delta`.** -/
def applyDelta (sha256 : Bytes → Sha256Hex) (dataset : String) (plan : GoldDeltaPlan)
    (state : GoldSyncState) : Transaction Unit := do
  require (dataset = postgresDatasetId) (.valueError "unsupported PostgreSQL Gold dataset_id")
  require (plan.mutations.all (fun row => (plan.sourceDigests.get? row.1).isSome) = true)
    (.valueError "Gold delta mutation is missing its source row digest")
  writeDelta dataset plan
  verifyDelta sha256 dataset plan state
  execute .upsertState (fun db => db.setState dataset state.toRow)

/-- **`PostgresGoldSyncRepository.run_locked`**: the operation runs in one
transaction under the advisory lock and is committed; any error rolls the
transaction back and is replaced by one that says no more. -/
def runLocked {α : Type} (operation : Transaction α) : Transaction α := do
  fetch (fun _ => .ok ())
  tryCatch
    (atomically do
      fetch (fun _ => .ok ())
      let result ← operation
      fetch (fun _ => .ok ())
      return result)
    (fun _ => throw ⟨.postgresGoldRepositoryError, "PostgreSQL Gold locked transaction failed"⟩)

/-- The spec of `applyDelta`, whichever statements fail: where it returns, the
checks have compared the final tables and index with the source, and the state
is the one given. -/
theorem wp_applyDelta {sha256 : Bytes → Sha256Hex} {dataset : String} {plan : GoldDeltaPlan}
    {state : GoldSyncState} {s : Session} :
    wp (applyDelta sha256 dataset plan state)
      ⟨fun _ s' => storedDigests s'.replica dataset = .ok plan.sourceDigests
          ∧ consumerDigests sha256 s'.replica.raw = .ok plan.sourceDigests
          ∧ targetSummary s'.replica = .ok ⟨state.rowCount, state.minTimestamp, state.maxTimestamp⟩
          ∧ s'.replica.syncState dataset = some state.toRow,
        fun _ _ => True, fun _ => True⟩ s := by
  refine wp_bind (wp_require (fun _ => ?_) (fun _ => trivial))
  refine wp_bind (wp_require (fun _ => ?_) (fun _ => trivial))
  -- what the writes do does not matter: the checks that follow read everything again
  refine wp_bind (wp_mono (wp_true _ _) (fun _ s₁ _ => ?_) (fun _ _ _ => trivial)
    (fun _ _ => trivial))
  refine wp_bind (wp_mono (Q := ⟨fun _ s₂ =>
      storedDigests s₂.replica dataset = .ok plan.sourceDigests
        ∧ consumerDigests sha256 s₂.replica.raw = .ok plan.sourceDigests
        ∧ targetSummary s₂.replica = .ok ⟨state.rowCount, state.minTimestamp, state.maxTimestamp⟩,
      fun _ _ => True, fun _ => True⟩) ?_ (fun _ s₂ h => ?_) (fun _ _ _ => trivial)
      (fun _ _ => trivial))
  · unfold verifyDelta
    refine wp_bind (wp_query (fun actual hsummary => ?_) (fun _ => trivial) trivial)
    refine wp_bind (wp_require (fun hactual => ?_) (fun _ => trivial))
    refine wp_bind (wp_query (fun index hindex => ?_) (fun _ => trivial) trivial)
    refine wp_bind (wp_require (fun hindex' => ?_) (fun _ => trivial))
    refine wp_bind (wp_query (fun consumer hconsumer => ?_) (fun _ => trivial) trivial)
    refine wp_require (fun hconsumer' => ?_) (fun _ => trivial)
    exact ⟨hindex' ▸ hindex, hconsumer' ▸ hconsumer, hactual ▸ hsummary⟩
  · refine wp_write ?_ (fun _ => ⟨trivial, trivial⟩) ⟨trivial, trivial⟩
    exact ⟨h.1, h.2.1, h.2.2, by simp [Replica.setState]⟩

/-- **A locked transaction commits or leaves the session as it was.** -/
theorem wp_runLocked {α : Type} {operation : Transaction α} {s : Session}
    {Q : Post Session PyError α}
    (h : wp operation ⟨Q.returned, fun _ _ => True, fun _ => True⟩ s)
    (hraised : ∀ e, Q.raised e s) (hcrashed : Q.crashed s) : wp (runLocked operation) Q s := by
  unfold runLocked
  refine wp_bind (wp_query (fun _ _ => ?_) hraised hcrashed)
  refine wp_tryCatch (wp_atomically ?_)
  refine wp_bind (wp_query (fun _ _ => ?_) (fun _ => wp_throw (hraised _)) hcrashed)
  refine wp_bind (wp_mono h (fun a s' hs' => ?_) (fun _ _ _ => wp_throw (hraised _))
    (fun _ _ => hcrashed))
  refine wp_bind (wp_query (fun _ _ => ?_) (fun _ => wp_throw (hraised _)) hcrashed)
  exact wp_pure hs'
