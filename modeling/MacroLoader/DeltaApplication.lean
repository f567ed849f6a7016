import MacroLoader.DeltaCompleteness
import MacroLoader.SyncProgress

/-!
# The two ways to apply a delta

A delta can be applied inside the locked transaction of a synchronization, or by
a method of the repository that opens a transaction of its own. The two repeat the
same steps, in a different order in one place: the views are refreshed before the
check of the summary in one, and after it in the other. The one inside a
transaction checks its arguments there, so that a rejection rolls back what was
begun, and the repository's own checks them before it connects.

`apply_delta_agree` says that none of this makes a difference.
-/

open Transaction Program

/-- A plan with its source digests as they are listed. A timestamp may be repeated. -/
structure ListedDeltaPlan where
  inserts : List GoldRowPayload
  updates : List GoldRowPayload
  deletes : List Timestamp
  unchanged : List Timestamp
  sourceDigests : List (Timestamp × Sha256Hex)
  disjoint : disjointKeySets [(inserts.map Prod.fst).toFinset, (updates.map Prod.fst).toFinset,
    deletes.toFinset, unchanged.toFinset] = true

/-- The plan with the digests by timestamp. -/
def ListedDeltaPlan.withDigests (plan : ListedDeltaPlan) (digests : KeyedTable Timestamp Sha256Hex) :
    GoldDeltaPlan :=
  ⟨plan.inserts, plan.updates, plan.deletes, plan.unchanged, digests, plan.disjoint⟩

/-- `_source_digest_map`. -/
def sourceDigestMap (digests : List (Timestamp × Sha256Hex)) :
    Except PyError (KeyedTable Timestamp Sha256Hex) :=
  if (digests.map Prod.fst).Nodup then .ok (.ofRows digests)
  else .error (.valueError "duplicate source Gold digest timestamp")

section Steps

variable (sha256 : Bytes → Sha256Hex) (refresh : Replica → Except PyError Unit)
  (contract : Replica → Except PyError Unit) (dataset : String) (plan : GoldDeltaPlan)
  (state : GoldSyncState)

/-- The rows and the digests of a delta are written. -/
def writeRows : Transaction Unit := do
  forEach plan.inserts applyFeatureRow
  forEach plan.updates applyFeatureRow
  forEach plan.deletes deleteFeatureTimestamp
  forEach plan.mutations (upsertDigest dataset plan)
  forEach plan.deletes (deleteDigest dataset)

/-- `_refresh_feature_views`, if anything was written. It fails or not depending on
what is in the database, and changes nothing that is read here. -/
def refreshWritten : Transaction Unit :=
  if plan.isEmpty then pure ()
  else effect (fun s => (refresh s.replica, ⟨s.replica, s.statements ++ [.refreshFeatures]⟩))

/-- The summary is compared with the state. -/
def verifySummary : Transaction Unit := do
  let actual ← summary
  require (actual = ⟨state.rowCount, state.minTimestamp, state.maxTimestamp⟩)
    (.valueError "PostgreSQL Gold post-write summary does not match source")

/-- The digest index is compared with the source. -/
def verifyIndex : Transaction Unit := do
  let index ← readDigests dataset
  require (index = plan.sourceDigests)
    (.valueError "PostgreSQL Gold post-write digest index does not match source")

/-- The consumer rows are compared with the source. -/
def verifyConsumer : Transaction Unit := do
  let consumer ← readConsumerDigests sha256
  require (consumer = plan.sourceDigests)
    (.valueError "PostgreSQL Gold post-write consumer rows do not match source")

/-- `_UPSERT_STATE_SQL`. -/
def upsertSyncState : Transaction Unit :=
  execute .upsertState (fun db => db.setState dataset state.toRow)

end Steps

section Paths

variable (sha256 : Bytes → Sha256Hex) (refresh : Replica → Except PyError Unit)
  (contract : Replica → Except PyError Unit) (dataset : String) (plan : ListedDeltaPlan)
  (state : GoldSyncState)

/-- The checks both make of their arguments. -/
def deltaArguments : Transaction GoldDeltaPlan := do
  require (dataset = postgresDatasetId) (.valueError "unsupported PostgreSQL Gold dataset_id")
  let digests ← ofExcept (sourceDigestMap plan.sourceDigests)
  require ((plan.withDigests digests).mutations.all (fun row => (digests.get? row.1).isSome) = true)
    (.valueError "Gold delta mutation is missing its source row digest")
  return plan.withDigests digests

/-- **`_PostgresGoldSyncTransaction.apply_delta`.** -/
def transactionApplyDelta : Transaction Unit := do
  let plan ← deltaArguments dataset plan
  writeRows dataset plan
  refreshWritten refresh plan
  verifySummary state
  verifyIndex dataset plan
  verifyConsumer sha256 plan
  upsertSyncState dataset state

/-- **`PostgresGoldSyncRepository.apply_delta`.** -/
def repositoryApplyDelta : Transaction Unit := do
  let plan ← deltaArguments dataset plan
  fetch (fun _ => .ok ())
  tryCatch
    (atomically do
      fetch (fun _ => .ok ())
      fetch contract
      writeRows dataset plan
      verifySummary state
      refreshWritten refresh plan
      verifyIndex dataset plan
      verifyConsumer sha256 plan
      upsertSyncState dataset state
      fetch (fun _ => .ok ()))
    (fun e =>
      if e.kind = .postgresGoldRepositoryError then throw e
      else throw ⟨.postgresGoldRepositoryError, "PostgreSQL Gold delta transaction failed"⟩)

end Paths

/-! ## What the steps do when no statement fails -/

section Succeeds

variable {sha256 : Bytes → Sha256Hex} {refresh : Replica → Except PyError Unit}
  {contract : Replica → Except PyError Unit} {dataset : String} {plan : GoldDeltaPlan}
  {state : GoldSyncState} {s : Session} {Q : Replica → Prop}

theorem silent_execute (statement : Statement) (f : Replica → Replica) :
    Silent (execute statement f) := silent_effect _

theorem silent_fetch {α : Type} (f : Replica → Except PyError α) : Silent (fetch f) :=
  silent_effect _

theorem silent_applyFeatureRow (row : GoldRowPayload) : Silent (applyFeatureRow row) := by
  refine silent_forEach (fun s => silent_bind silent_require (fun _ => ?_)) _
  split_ifs
  · exact silent_execute _ _
  · exact silent_execute _ _

theorem silent_writeRows (dataset : String) (plan : GoldDeltaPlan) :
    Silent (writeRows dataset plan) := by
  refine silent_bind (silent_forEach silent_applyFeatureRow _) (fun _ => ?_)
  refine silent_bind (silent_forEach silent_applyFeatureRow _) (fun _ => ?_)
  refine silent_bind (silent_forEach (fun _ => silent_forEach (fun _ => silent_execute _ _) _) _)
    (fun _ => ?_)
  refine silent_bind (silent_forEach (fun row => ?_) _)
    (fun _ => silent_forEach (fun _ => silent_execute _ _) _)
  unfold upsertDigest
  cases plan.sourceDigests.get? row.1 with
  | none => exact silent_throw _
  | some digest => exact silent_execute _ _

/-- What a comparison of something read needs, before what comes after it. -/
theorem succeeds_compare_iff {α : Type} [DecidableEq α] {f : Replica → Except PyError α}
    {expected : α} {e : PyError} {k : Unit → Transaction Unit} {Q : Unit → Session → Prop} :
    Succeeds ((fetch f >>= fun actual => require (actual = expected) e) >>= k) s Q
      ↔ f s.replica = .ok expected ∧ Succeeds (k ()) s Q := by
  rw [succeeds_bind_iff (silent_bind (silent_fetch f) (fun _ => silent_require)),
    succeeds_bind_iff (silent_fetch f)]
  constructor
  · intro h
    obtain ⟨actual, hactual, hrest⟩ := succeeds_query_iff.mp h
    obtain ⟨heq, hq⟩ := succeeds_require_iff.mp hrest
    exact ⟨heq ▸ hactual, hq⟩
  · exact fun ⟨hactual, hq⟩ =>
      succeeds_query_iff.mpr ⟨expected, hactual, succeeds_require_iff.mpr ⟨rfl, hq⟩⟩

section Checks

variable {k : Unit → Transaction Unit} {Q : Unit → Session → Prop}

theorem succeeds_verifySummary_iff : Succeeds (verifySummary state >>= k) s Q
    ↔ targetSummary s.replica = .ok ⟨state.rowCount, state.minTimestamp, state.maxTimestamp⟩
      ∧ Succeeds (k ()) s Q := succeeds_compare_iff

theorem succeeds_verifyIndex_iff : Succeeds (verifyIndex dataset plan >>= k) s Q
    ↔ storedDigests s.replica dataset = .ok plan.sourceDigests ∧ Succeeds (k ()) s Q :=
  succeeds_compare_iff

theorem succeeds_verifyConsumer_iff : Succeeds (verifyConsumer sha256 plan >>= k) s Q
    ↔ consumerDigests sha256 s.replica.raw = .ok plan.sourceDigests ∧ Succeeds (k ()) s Q :=
  succeeds_compare_iff

end Checks

theorem silent_refreshWritten (refresh : Replica → Except PyError Unit) (plan : GoldDeltaPlan) :
    Silent (refreshWritten refresh plan) := by
  unfold refreshWritten
  split_ifs
  · exact silent_pure ()
  · exact silent_effect _

/-- A refresh may be refused, and leaves the database alone. -/
theorem succeeds_refreshWritten_iff {k : Unit → Transaction Unit} {Q : Unit → Session → Prop}
    {R : Replica → Prop} (hk : ∀ s, Succeeds (k ()) s Q ↔ R s.replica) :
    Succeeds (refreshWritten refresh plan >>= k) s Q
      ↔ (plan.isEmpty = false → refresh s.replica = .ok ()) ∧ R s.replica := by
  rw [succeeds_bind_iff (silent_refreshWritten refresh plan), refreshWritten]
  cases plan.isEmpty with
  | true =>
    refine ⟨fun ⟨a, s', hrun, hq⟩ => ⟨fun h => (nomatch h), ?_⟩,
      fun h => succeeds_pure ((hk s).mpr h.2)⟩
    cases hrun
    exact (hk s).mp hq
  | false =>
    rw [if_neg (by simp), succeeds_effect_iff]
    refine ⟨fun h => ?_, fun h => ⟨(), h.1 rfl, (hk _).mpr h.2⟩⟩
    obtain ⟨_, hok, hq⟩ := h
    exact ⟨fun _ => hok, (hk ⟨s.replica, s.statements ++ [.refreshFeatures]⟩).mp hq⟩

/-- What the checks after the writes ask of the database. -/
def VerifiedDelta (sha256 : Bytes → Sha256Hex) (dataset : String) (plan : GoldDeltaPlan)
    (state : GoldSyncState) (db : Replica) : Prop :=
  targetSummary db = .ok ⟨state.rowCount, state.minTimestamp, state.maxTimestamp⟩
    ∧ storedDigests db dataset = .ok plan.sourceDigests
    ∧ consumerDigests sha256 db.raw = .ok plan.sourceDigests

theorem silent_upsertSyncState (dataset : String) (state : GoldSyncState) :
    Silent (upsertSyncState dataset state) := silent_execute _ _

theorem succeeds_upsertSyncState_iff :
    Succeeds (upsertSyncState dataset state) s (fun _ s' => Q s'.replica)
      ↔ Q (s.replica.setState dataset state.toRow) :=
  ⟨fun ⟨_, _, hrun, hq⟩ => by cases hrun; exact hq, fun h => succeeds_write h⟩

/-- **The steps after the writes**, when the views are refreshed before all checks. -/
theorem succeeds_refresh_verify_iff :
    Succeeds (do
      refreshWritten refresh plan
      verifySummary state
      verifyIndex dataset plan
      verifyConsumer sha256 plan
      upsertSyncState dataset state) s (fun _ s' => Q s'.replica)
      ↔ (plan.isEmpty = false → refresh s.replica = .ok ())
        ∧ VerifiedDelta sha256 dataset plan state s.replica
        ∧ Q (s.replica.setState dataset state.toRow) := by
  refine succeeds_refreshWritten_iff (R := fun db => VerifiedDelta sha256 dataset plan state db
    ∧ Q (db.setState dataset state.toRow)) (fun s' => ?_)
  rw [succeeds_verifySummary_iff, succeeds_verifyIndex_iff, succeeds_verifyConsumer_iff,
    succeeds_upsertSyncState_iff, VerifiedDelta, and_assoc, and_assoc]

/-- **The same** when they are refreshed after the first check. -/
theorem succeeds_verify_refresh_iff :
    Succeeds (do
      verifySummary state
      refreshWritten refresh plan
      verifyIndex dataset plan
      verifyConsumer sha256 plan
      upsertSyncState dataset state
      fetch (fun _ => .ok ())) s (fun _ s' => Q s'.replica)
      ↔ (plan.isEmpty = false → refresh s.replica = .ok ())
        ∧ VerifiedDelta sha256 dataset plan state s.replica
        ∧ Q (s.replica.setState dataset state.toRow) := by
  rw [succeeds_verifySummary_iff, succeeds_refreshWritten_iff
    (R := fun db => (storedDigests db dataset = .ok plan.sourceDigests
      ∧ consumerDigests sha256 db.raw = .ok plan.sourceDigests)
      ∧ Q (db.setState dataset state.toRow)) (fun s' => ?_)]
  · rw [VerifiedDelta, and_left_comm]
    simp only [and_assoc]
  · have hcommit : ∀ s : Session, Succeeds (fetch (fun _ => .ok ()) : Transaction Unit) s
        (fun _ s' => Q s'.replica) ↔ Q s.replica := fun s =>
      ⟨fun h => (succeeds_query_iff.mp h).elim (fun _ h => h.2), fun h => succeeds_query rfl h⟩
    rw [succeeds_verifyIndex_iff, succeeds_verifyConsumer_iff, and_assoc,
      succeeds_bind_iff (silent_upsertSyncState dataset state)]
    simp only [hcommit]
    exact and_congr_right (fun _ => and_congr_right (fun _ => succeeds_upsertSyncState_iff))

theorem silent_sourceDigestMap (plan : ListedDeltaPlan) :
    Silent (ofExcept (sourceDigestMap plan.sourceDigests) :
      Transaction (KeyedTable Timestamp Sha256Hex)) := by
  cases sourceDigestMap plan.sourceDigests with
  | error e => exact silent_throw e
  | ok digests => exact silent_pure digests

theorem silent_deltaArguments (dataset : String) (plan : ListedDeltaPlan) :
    Silent (deltaArguments dataset plan) :=
  silent_bind silent_require (fun _ => silent_bind (silent_sourceDigestMap plan) (fun _ =>
    silent_bind silent_require (fun _ => silent_pure _)))

/-- What both ask of their arguments. -/
theorem succeeds_deltaArguments_iff {plan : ListedDeltaPlan}
    {k : GoldDeltaPlan → Transaction Unit} {Q : Unit → Session → Prop} :
    Succeeds (deltaArguments dataset plan >>= k) s Q
      ↔ dataset = postgresDatasetId ∧ ∃ digests, sourceDigestMap plan.sourceDigests = .ok digests
        ∧ (plan.withDigests digests).mutations.all (fun row => (digests.get? row.1).isSome) = true
        ∧ Succeeds (k (plan.withDigests digests)) s Q := by
  have hmap := silent_sourceDigestMap plan
  have hpure : ∀ {α : Type} {a : α} {R : α → Session → Prop},
      Succeeds (pure a : Transaction α) s R ↔ R a s := fun {_ _ _} =>
    ⟨fun ⟨_, _, hrun, hr⟩ => by cases hrun; exact hr, succeeds_pure⟩
  rw [succeeds_bind_iff (silent_deltaArguments dataset plan), deltaArguments, succeeds_bind_iff silent_require,
    succeeds_require_iff, succeeds_bind_iff hmap, succeeds_ofExcept_iff]
  simp only [succeeds_bind_iff silent_require, succeeds_require_iff, hpure]

/-- **A delta that is accepted**, with what then holds of the database: the arguments
pass, the writes succeed, a refresh that is needed is not refused, and the checks pass. -/
def AcceptedDelta (sha256 : Bytes → Sha256Hex) (refresh : Replica → Except PyError Unit)
    (dataset : String) (plan : ListedDeltaPlan) (state : GoldSyncState) (s : Session)
    (Q : Replica → Prop) : Prop :=
  dataset = postgresDatasetId ∧ ∃ digests, sourceDigestMap plan.sourceDigests = .ok digests
    ∧ (plan.withDigests digests).mutations.all (fun row => (digests.get? row.1).isSome) = true
    ∧ Succeeds (writeRows dataset (plan.withDigests digests)) s (fun _ s' =>
      ((plan.withDigests digests).isEmpty = false → refresh s'.replica = .ok ())
        ∧ VerifiedDelta sha256 dataset (plan.withDigests digests) state s'.replica
        ∧ Q (s'.replica.setState dataset state.toRow))

variable {plan : ListedDeltaPlan}

theorem succeeds_transactionApplyDelta_iff :
    Succeeds (transactionApplyDelta sha256 refresh dataset plan state) s (fun _ s' => Q s'.replica)
      ↔ AcceptedDelta sha256 refresh dataset plan state s Q := by
  rw [transactionApplyDelta, succeeds_deltaArguments_iff, AcceptedDelta]
  simp only [succeeds_bind_iff (silent_writeRows _ _), succeeds_refresh_verify_iff]

/-- A step of the connection that does not fail. -/
theorem succeeds_fetch_iff {α : Type} {a : α} {k : α → Transaction Unit}
    {R : Unit → Session → Prop} :
    Succeeds ((fetch (fun _ => .ok a) : Transaction α) >>= k) s R ↔ Succeeds (k a) s R := by
  rw [succeeds_bind_iff (silent_fetch _)]
  refine ⟨fun h => ?_, fun h => succeeds_query rfl h⟩
  obtain ⟨b, hb, hk⟩ := succeeds_query_iff.mp h
  cases hb
  exact hk

theorem silent_compare {α : Type} [DecidableEq α] {f : Replica → Except PyError α} {expected : α}
    {e : PyError} : Silent (fetch f >>= fun actual => require (actual = expected) e) :=
  silent_bind (silent_fetch f) (fun _ => silent_require)

theorem silent_transactionApplyDelta (sha256 : Bytes → Sha256Hex)
    (refresh : Replica → Except PyError Unit) (dataset : String) (plan : ListedDeltaPlan)
    (state : GoldSyncState) : Silent (transactionApplyDelta sha256 refresh dataset plan state) :=
  silent_bind (silent_deltaArguments dataset plan) (fun _ =>
    silent_bind (silent_writeRows _ _) (fun _ =>
      silent_bind (silent_refreshWritten _ _) (fun _ =>
        silent_bind silent_compare (fun _ => silent_bind silent_compare (fun _ =>
          silent_bind silent_compare (fun _ => silent_upsertSyncState _ _))))))

/-- **A delta applied in a locked transaction.** -/
theorem succeeds_runLocked_iff :
    Succeeds (runLocked (transactionApplyDelta sha256 refresh dataset plan state)) s
        (fun _ s' => Q s'.replica)
      ↔ AcceptedDelta sha256 refresh dataset plan state s Q := by
  rw [runLocked, succeeds_fetch_iff, succeeds_tryCatch_iff (fun _ _ _ => ⟨_, rfl⟩),
    succeeds_atomically_iff, succeeds_fetch_iff,
    succeeds_bind_iff (silent_transactionApplyDelta sha256 refresh dataset plan state)]
  simp only [succeeds_fetch_iff]
  exact ⟨fun h => succeeds_transactionApplyDelta_iff.mp (h.mono (fun _ _ ⟨_, _, hrun, hq⟩ => by
      cases hrun; exact hq)),
    fun h => (succeeds_transactionApplyDelta_iff.mpr h).mono (fun _ _ hq => succeeds_pure hq)⟩

/-- **A delta applied by the repository.** -/
theorem succeeds_repositoryApplyDelta_iff (hcontract : contract s.replica = .ok ()) :
    Succeeds (repositoryApplyDelta sha256 refresh contract dataset plan state) s
        (fun _ s' => Q s'.replica)
      ↔ AcceptedDelta sha256 refresh dataset plan state s Q := by
  have hraises : ∀ (e : PyError) (s : Session) (faults : List (Fault PyError)), ∃ e',
      ((if e.kind = .postgresGoldRepositoryError then throw e
        else throw ⟨.postgresGoldRepositoryError, "PostgreSQL Gold delta transaction failed"⟩ :
          Transaction Unit) s faults).1 = .raised e' := by
    intro e s faults
    split_ifs
    · exact ⟨_, rfl⟩
    · exact ⟨_, rfl⟩
  rw [repositoryApplyDelta, succeeds_deltaArguments_iff, AcceptedDelta]
  refine and_congr_right (fun _ => exists_congr (fun digests => and_congr_right (fun _ =>
    and_congr_right (fun _ => ?_))))
  rw [succeeds_fetch_iff, succeeds_tryCatch_iff hraises, succeeds_atomically_iff,
    succeeds_fetch_iff, succeeds_bind_iff (silent_fetch contract)]
  simp only [succeeds_bind_iff (silent_writeRows _ _), succeeds_verify_refresh_iff]
  refine ⟨fun h => ?_, fun h => succeeds_query hcontract h⟩
  obtain ⟨_, _, hwrites⟩ := succeeds_query_iff.mp h
  exact hwrites

end Succeeds

/-! ## The agreement -/

theorem silent_runLocked {α : Type} {operation : Transaction α} (h : Silent operation) :
    Silent (runLocked operation) :=
  silent_bind (silent_fetch _) (fun _ => silent_tryCatch (silent_atomically
    (silent_bind (silent_fetch _) (fun _ => silent_bind h (fun _ =>
      silent_bind (silent_fetch _) (fun _ => silent_pure _))))) (fun _ => silent_throw _))

theorem silent_ite {α : Type} {c : Prop} [Decidable c] {m m' : Transaction α} (hm : Silent m)
    (hm' : Silent m') : Silent (if c then m else m') := by
  split_ifs
  · exact hm
  · exact hm'

theorem silent_repositoryApplyDelta (sha256 : Bytes → Sha256Hex)
    (refresh contract : Replica → Except PyError Unit) (dataset : String) (plan : ListedDeltaPlan)
    (state : GoldSyncState) :
    Silent (repositoryApplyDelta sha256 refresh contract dataset plan state) := by
  refine silent_bind (silent_deltaArguments dataset plan) (fun plan => ?_)
  refine silent_bind (silent_fetch _) (fun _ => silent_tryCatch (silent_atomically ?_)
    (fun _ => silent_ite (silent_throw _) (silent_throw _)))
  refine silent_bind (silent_fetch _) (fun _ => silent_bind (silent_fetch _) (fun _ => ?_))
  refine silent_bind (silent_writeRows _ _) (fun _ => silent_bind silent_compare (fun _ => ?_))
  refine silent_bind (silent_refreshWritten _ _) (fun _ => silent_bind silent_compare (fun _ => ?_))
  exact silent_bind silent_compare (fun _ => silent_bind (silent_upsertSyncState _ _)
    (fun _ => silent_fetch _))

/-- **The repository's own way commits, or leaves the session as it was.** -/
theorem wp_repositoryApplyDelta (sha256 : Bytes → Sha256Hex)
    (refresh contract : Replica → Except PyError Unit) (dataset : String) (plan : ListedDeltaPlan)
    (state : GoldSyncState) (s : Session) :
    wp (repositoryApplyDelta sha256 refresh contract dataset plan state)
      ⟨fun _ _ => True, fun _ s' => s' = s, fun s' => s' = s⟩ s := by
  have harguments : wp (deltaArguments dataset plan) (Post.always (· = s)) s := by
    refine wp_bind (wp_require (fun _ => ?_) (fun _ => rfl))
    refine wp_bind (wp_ofExcept (fun _ _ => ?_) (fun _ _ => rfl))
    exact wp_bind (wp_require (fun _ => wp_pure rfl) (fun _ => rfl))
  refine wp_bind (wp_mono harguments (fun plan s' hs' => ?_) (fun _ _ h => h) (fun _ h => h))
  subst hs'
  refine wp_bind (wp_query (fun _ _ => ?_) (fun _ => rfl) rfl)
  refine wp_tryCatch (wp_atomically (wp_mono (wp_true _ _) (fun _ _ _ => trivial)
    (fun e _ _ => ?_) (fun _ _ => rfl)))
  dsimp only
  split_ifs
  · exact wp_throw rfl
  · exact wp_throw rfl

/-- What a program keeps where it does not return. -/
theorem wp_not_returned {m : Transaction Unit} {s : Session}
    (h : wp m ⟨fun _ _ => True, fun _ s' => s' = s, fun s' => s' = s⟩ s)
    {faults : List (Fault PyError)} (hrun : (m s faults).1 ≠ .returned ()) :
    (m s faults).2.1 = s := by
  have hend := h faults
  rcases hm : m s faults with ⟨a | e | _, s', faults'⟩ <;> rw [hm] at hend hrun
  · exact absurd rfl hrun
  · exact hend
  · exact hend

/-- **The two ways to apply a delta agree.** Where the schema is as expected, they accept
the same plans and states and end with the same database, and a rejection leaves the
database as it was, whichever statements fail. -/
theorem apply_delta_agree (sha256 : Bytes → Sha256Hex)
    (refresh contract : Replica → Except PyError Unit) (dataset : String) (plan : ListedDeltaPlan)
    (state : GoldSyncState) (s : Session) (hcontract : contract s.replica = .ok ()) :
    let locked := runLocked (transactionApplyDelta sha256 refresh dataset plan state) s
    let direct := repositoryApplyDelta sha256 refresh contract dataset plan state s
    ((locked []).1 = .returned () ↔ (direct []).1 = .returned ())
      ∧ ((locked []).1 = .returned () → (locked []).2.1.replica = (direct []).2.1.replica)
      ∧ (∀ faults, (locked faults).1 ≠ .returned () → (locked faults).2.1 = s)
      ∧ ∀ faults, (direct faults).1 ≠ .returned () → (direct faults).2.1 = s := by
  intro locked direct
  have hlocked : ∀ Q : Replica → Prop, ((locked []).1 = .returned () ∧ Q (locked []).2.1.replica)
      ↔ AcceptedDelta sha256 refresh dataset plan state s Q := fun Q => by
    rw [← succeeds_runLocked_iff, (silent_runLocked
      (silent_transactionApplyDelta sha256 refresh dataset plan state)).succeeds_iff]
    exact ⟨fun h => ⟨(), h⟩, fun ⟨_, h⟩ => h⟩
  have hdirect : ∀ Q : Replica → Prop, ((direct []).1 = .returned () ∧ Q (direct []).2.1.replica)
      ↔ AcceptedDelta sha256 refresh dataset plan state s Q := fun Q => by
    rw [← succeeds_repositoryApplyDelta_iff hcontract,
      (silent_repositoryApplyDelta sha256 refresh contract dataset plan state).succeeds_iff]
    exact ⟨fun h => ⟨(), h⟩, fun ⟨_, h⟩ => h⟩
  refine ⟨?_, fun h => ?_, fun faults => wp_not_returned ?_, fun faults => wp_not_returned
    (wp_repositoryApplyDelta sha256 refresh contract dataset plan state s)⟩
  · have hagree := (hlocked (fun _ => True)).trans (hdirect (fun _ => True)).symm
    rwa [and_true, and_true] at hagree
  · exact ((hdirect _).mpr ((hlocked (· = (locked []).2.1.replica)).mp ⟨h, rfl⟩)).2.symm
  · exact wp_runLocked (wp_true _ _) (fun _ => rfl) rfl

/-! ## A sample -/

/-- A hash that tells rows apart by the parity of their bytes. -/
def paritySha256 (bytes : Bytes) : Sha256Hex :=
  if (bytes.map (fun b => b.toNat)).sum % 2 = 0 then zeroDigest
  else ⟨String.ofList (List.replicate 64 '1'), by decide⟩

/-- A row with a rate and nothing else. -/
def rateRow (x : Float64) : WideRow Float64
  | .level .estr => some x
  | _ => none

/-- The replica of some rates, with the digests of an index. -/
def rateReplica (rates : List (Timestamp × Float64)) (digests : List (Timestamp × Sha256Hex)) :
    Replica where
  raw := Function.update (fun _ => .empty) .estr
    (.ofRows (rates.map (fun r => (r.1, seriesRow .estr (rateRow r.2)))))
  rowHashes := fun _ => .ofRows (digests.map (fun d => (d.1, d.2.1)))
  syncState := fun _ => none

/-- A row is added, one changed, one taken away and one left. -/
def mixedPlan : ListedDeltaPlan where
  inserts := [(secondDay, rateRow .one)]
  updates := [(0, rateRow .zero)]
  deletes := [2 * secondDay]
  unchanged := [3 * secondDay]
  sourceDigests := [(secondDay, zeroDigest), (0, paritySha256 [1]), (3 * secondDay, paritySha256 [1])]
  disjoint := by decide

/-- The replica it is for. -/
def mixedReplica : Replica :=
  rateReplica [(0, .one), (2 * secondDay, .one), (3 * secondDay, .one)]
    [(0, zeroDigest), (2 * secondDay, zeroDigest), (3 * secondDay, paritySha256 [1])]

def mixedState : GoldSyncState where
  sourceBuildId := "build-1"
  dataSha256 := zeroDigest
  schemaVersion := 1
  featureVersion := 1
  rowCount := 3
  minTimestamp := some 0
  maxTimestamp := some (3 * secondDay)
  syncedAtUtc := 0
  rowCount_nonneg := by decide
  bounds_iff := by simp
  bounds_ordered := by decide

/-- Both apply it, and end with the same replica. -/
theorem apply_delta_agree_mixed :
    let locked := runLocked (transactionApplyDelta paritySha256 (fun _ => .ok ()) postgresDatasetId
      mixedPlan mixedState) ⟨mixedReplica, []⟩
    let direct := repositoryApplyDelta paritySha256 (fun _ => .ok ()) (fun _ => .ok ())
      postgresDatasetId mixedPlan mixedState ⟨mixedReplica, []⟩
    (locked []).1 = .returned () ∧ (direct []).1 = .returned ()
      ∧ (locked []).2.1.replica = (direct []).2.1.replica
      ∧ Statement.refreshFeatures ∈ (direct []).2.1.statements
      ∧ storedDigests (direct []).2.1.replica postgresDatasetId
        = .ok (.ofRows mixedPlan.sourceDigests) := by
  intro locked direct
  have hagree := apply_delta_agree paritySha256 (fun _ => .ok ()) (fun _ => .ok ())
    postgresDatasetId mixedPlan mixedState ⟨mixedReplica, []⟩ rfl
  have hlocked : (locked []).1 = .returned () := by decide +kernel
  exact ⟨hlocked, hagree.1.mp hlocked, hagree.2.1 hlocked, by decide +kernel, by decide +kernel⟩
