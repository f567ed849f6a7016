import MacroLoader.ReplicaWrites
import MacroLoader.SyncCorrectness

/-!
# When a synchronization commits

A replica that a synchronization has left is consistent: its index and its
consumer rows have the same digests, and its state counts them. From such a
replica, the writes of a delta lead to the source whatever the delta is, so the
checks after the writes cannot fail (`succeeds_applyDelta`), and what is left
to decide is whether the checks before them let the build through. They let
through every build with a row that has changed, and every build with the same
data file. A build whose rows are all the same under another data file they
refuse, since a state that disagrees with the data although there is nothing
to write is taken for a stale one (`wp_sync_stale`).
-/

open Transaction Program

variable {sha256 : Bytes → Sha256Hex} {decodeFrame : Bytes → Except PyError GoldFrame}

/-! ## The digests at one timestamp -/

theorem loadDigest_eq_ok {t : Timestamp} {text : String} {d : Sha256Hex} :
    loadDigest t text = .ok d ↔ loadDatetime t = .ok t ∧ text = d.1 := by
  unfold loadDigest
  cases ht : loadDatetime t with
  | error e => simp
  | ok t' =>
    obtain rfl := loadDatetime_eq_ok ht
    by_cases hhex : isSha256Hex text = true
    · simp only [dif_pos hhex, Except.ok.injEq, true_and]
      exact Subtype.ext_iff
    · simp only [dif_neg hhex, reduceCtorEq, true_and, false_iff]
      exact fun heq => hhex (heq ▸ d.2)

/-- What it is for the index to hold some digests. -/
theorem storedDigests_eq_ok_iff {db : Replica} {digests : KeyedTable Timestamp Sha256Hex} :
    storedDigests db postgresDatasetId = .ok digests
      ↔ ∀ t, (db.rowHashes postgresDatasetId).get? t = (digests.get? t).map Subtype.val
        ∧ ((digests.get? t).isSome → loadDatetime t = .ok t) := by
  unfold storedDigests
  rw [KeyedTable.traverse_eq_ok_iff]
  refine forall_congr' (fun t => ?_)
  cases hrow : (db.rowHashes postgresDatasetId).get? t with
  | none => cases digests.get? t <;> simp
  | some text =>
    cases hd : digests.get? t with
    | none => simp
    | some d =>
      simp only [Option.map_some, Option.some.injEq, loadDigest_eq_ok, Option.isSome_some,
        forall_const]
      exact and_comm

/-- The consumer row at a timestamp depends on the rows at the timestamp only. -/
theorem consumerRows_congr {D D' : RawTables Float64} {t : Timestamp}
    (h : ∀ s, (D s).get? t = (D' s).get? t) : (consumerRows D).get? t = (consumerRows D').get? t := by
  have hcell : D.cell t = D'.cell t := congrArg JoinedRow.toWide (funext h)
  rw [get?_consumerRows, get?_consumerRows, hcell]

theorem consumerRows_eq_none {D : RawTables Float64} {t : Timestamp}
    (h : ∀ s, (D s).get? t = none) : (consumerRows D).get? t = none := by
  rw [get?_consumerRows, if_neg]
  rw [Bool.not_eq_true, visible_eq_false_iff]
  funext c
  cases c <;> simp [RawTables.cell, JoinedRow.toWide, h]

/-- Where the tables store a canonical Gold row, the consumer sees it. -/
theorem consumerRows_eq_some {D : RawTables Float64} {t : Timestamp} {row : WideRow Float64}
    (h : ∀ s, (D s).get? t = storedRow s row) (hcanonical : canonicalRow row = .ok row)
    (hrow : IsGoldRow row) : (consumerRows D).get? t = some row := by
  have hcell : D.cell t = row :=
    (congrArg JoinedRow.toWide (funext h)).trans (toWide_storedRow hcanonical hrow.level)
  rw [get?_consumerRows, hcell, if_pos hrow.visible]

/-! ## A consistent replica -/

/-- **The index and the consumer rows have these digests**, both of them. -/
structure Agrees (sha256 : Bytes → Sha256Hex) (db : Replica)
    (digests : KeyedTable Timestamp Sha256Hex) : Prop where
  index : storedDigests db postgresDatasetId = .ok digests
  consumer : consumerDigests sha256 db.raw = .ok digests

/-- A row that can be written: readable, canonical, with its digest, and assembled
by Gold. -/
structure IsSourceRow (sha256 : Bytes → Sha256Hex) (t : Timestamp)
    (r : WideRow Float64 × Sha256Hex) : Prop where
  timestamp : loadDatetime t = .ok t
  canonical : canonicalRow r.1 = .ok r.1
  digest : goldRowSha256 sha256 t r.1 = .ok r.2
  gold : IsGoldRow r.1

section Delta

variable (source : KeyedTable Timestamp (WideRow Float64 × Sha256Hex))
  (target : KeyedTable Timestamp Sha256Hex)

/-- Whether a source has another digest at a timestamp than a target, or only one
of them has one. -/
def ChangedAt (t : Timestamp) : Prop := target.get? t ≠ (source.get? t).map Prod.snd

instance (t : Timestamp) : Decidable (ChangedAt source target t) :=
  inferInstanceAs (Decidable (_ ≠ _))

/-- What a replica is to hold after a delta: new rows where the source has
changed, and the old ones elsewhere. -/
def finalContents (db : Replica) : FinalContents where
  row s t := if ChangedAt source target t then (source.get? t).bind (fun r => storedRow s r.1)
    else (db.raw s).get? t
  digest t := (source.get? t).map (fun r => r.2.1)

/-- A statement that touches changed rows only. -/
def OnlyChanged (statement : Statement) : Prop :=
  ∀ t, statement.timestamp = some t → ChangedAt source target t

end Delta

variable {source : KeyedTable Timestamp (WideRow Float64 × Sha256Hex)}
  {target : KeyedTable Timestamp Sha256Hex} {db : Replica}

theorem finalContents_of_changed {t : Timestamp} (h : ChangedAt source target t) (s : Series) :
    (finalContents source target db).row s t
      = (source.get? t).bind (fun r => storedRow s r.1) := if_pos h

theorem finalContents_of_unchanged {t : Timestamp} (h : ¬ ChangedAt source target t) (s : Series) :
    (finalContents source target db).row s t = (db.raw s).get? t := if_neg h

theorem changedAt_of_mem_mutations {r : GoldRowPayload}
    (h : r ∈ (deltaPlan source target).mutations) :
    ∃ d, source.get? r.1 = some (r.2, d) ∧ ChangedAt source target r.1 := by
  rcases List.mem_append.mp h with h | h
  · obtain ⟨d, hd, hkind⟩ := mem_rowsOfKind_iff.mp h
    refine ⟨d, hd, fun heq => ?_⟩
    rw [heq, hd] at hkind
    simp [deltaKind] at hkind
  · obtain ⟨d, hd, hkind⟩ := mem_rowsOfKind_iff.mp h
    refine ⟨d, hd, fun heq => ?_⟩
    rw [heq, hd] at hkind
    simp [deltaKind] at hkind

theorem changedAt_of_mem_deletes {t : Timestamp} (h : t ∈ (deltaPlan source target).deletes) :
    source.get? t = none ∧ ChangedAt source target t := by
  obtain ⟨hsome, hnone⟩ := mem_deletedKeys_iff.mp h
  refine ⟨hnone, fun heq => ?_⟩
  rw [heq, hnone] at hsome
  cases hsome

/-- **The keys of a delta** are the timestamps that have changed. -/
theorem changedAt_iff {t : Timestamp} :
    ChangedAt source target t ↔ t ∈ (deltaPlan source target).mutations.map Prod.fst
      ∨ t ∈ (deltaPlan source target).deletes := by
  constructor
  · intro h
    unfold ChangedAt at h
    cases hs : source.get? t with
    | none =>
      rw [hs] at h
      exact .inr (mem_deletedKeys_iff.mpr ⟨Option.isSome_iff_ne_none.mpr h, hs⟩)
    | some r =>
      refine .inl ?_
      rw [GoldDeltaPlan.mutations, List.map_append, List.mem_append]
      rw [hs] at h
      cases ht : target.get? t with
      | none => exact .inl (mem_keys_rowsOfKind_iff.mpr ⟨r.1, r.2, hs, by rw [ht]; rfl⟩)
      | some d =>
        refine .inr (mem_keys_rowsOfKind_iff.mpr ⟨r.1, r.2, hs, ?_⟩)
        rw [ht] at h ⊢
        exact if_pos (fun heq => h (by rw [heq]; rfl))
  · rintro (h | h)
    · obtain ⟨r, hr, rfl⟩ := List.mem_map.mp h
      exact (changedAt_of_mem_mutations hr).choose_spec.2
    · exact (changedAt_of_mem_deletes h).2

/-- The plan for a source with Gold rows leads to the final contents. -/
theorem planFits_deltaPlan (hsource : ∀ t r, source.get? t = some r → IsSourceRow sha256 t r) :
    PlanFits (finalContents source target db) (OnlyChanged source target)
      (deltaPlan source target) where
  level r hr series := by
    obtain ⟨d, hd, -⟩ := changedAt_of_mem_mutations hr
    exact (hsource _ _ hd).gold.level series
  row r hr series := by
    obtain ⟨d, hd, hchanged⟩ := changedAt_of_mem_mutations hr
    rw [finalContents_of_changed hchanged, hd, Option.bind_some]
  digest r hr := by
    obtain ⟨d, hd, -⟩ := changedAt_of_mem_mutations hr
    exact ⟨d, by simp [deltaPlan, hd], by simp [finalContents, hd]⟩
  deleted t ht := by
    obtain ⟨hnone, hchanged⟩ := changedAt_of_mem_deletes ht
    refine ⟨fun series => ?_, by simp [finalContents, hnone]⟩
    rw [finalContents_of_changed hchanged, hnone, Option.bind_none]
  allowed_mutation r hr st hst t ht := by
    rw [hst] at ht
    exact Option.some.inj ht ▸ (changedAt_of_mem_mutations hr).choose_spec.2
  allowed_delete t ht st hst t' ht' := by
    rw [hst] at ht'
    exact Option.some.inj ht' ▸ (changedAt_of_mem_deletes ht).2
  allowed_refresh t ht := by cases ht

/-- Before the writes, a consistent replica has its final contents wherever
nothing has changed. -/
theorem Agrees.written (h : Agrees sha256 db target) :
    Written (finalContents source target db) db (OnlyChanged source target)
      (rowsAt ((deltaPlan source target).mutations.map Prod.fst)
        ∪ rowsAt (deltaPlan source target).deletes)
      ({ t | t ∈ (deltaPlan source target).mutations.map Prod.fst }
        ∪ { t | t ∈ (deltaPlan source target).deletes }) ⟨db, []⟩ where
  rows series t ht := by
    rw [finalContents_of_unchanged (fun hchanged => ht (changedAt_iff.mp hchanged))]
  index t ht := by
    have hsame : target.get? t = (source.get? t).map Prod.snd :=
      not_not.mp (fun hchanged => ht (changedAt_iff.mp hchanged))
    rw [(storedDigests_eq_ok_iff.mp h.index t).1, hsame, finalContents, Option.map_map]
    rfl
  state := rfl
  log st hst := by cases hst

/-- **After the writes, the replica agrees with the source.** -/
theorem Agrees.of_written (h : Agrees sha256 db target)
    (hsource : ∀ t r, source.get? t = some r → IsSourceRow sha256 t r) {allowed : Statement → Prop}
    {s : Session} (hs : Written (finalContents source target db) db allowed ∅ ∅ s) :
    Agrees sha256 s.replica (source.map Prod.snd) where
  index := storedDigests_eq_ok_iff.mpr (fun t => by
    refine ⟨(hs.index t (Set.notMem_empty t)).trans ?_, fun hsome => ?_⟩
    · rw [finalContents, KeyedTable.get?_map, Option.map_map]
      rfl
    · rw [KeyedTable.get?_map, Option.isSome_map] at hsome
      obtain ⟨r, hr⟩ := Option.isSome_iff_exists.mp hsome
      exact (hsource t r hr).timestamp)
  consumer := KeyedTable.traverse_eq_ok_iff.mpr (fun t => by
    have hrows : ∀ series, (s.replica.raw series).get? t
        = (finalContents source target db).row series t :=
      fun series => hs.rows series t (Set.notMem_empty _)
    rw [KeyedTable.get?_map]
    by_cases hchanged : ChangedAt source target t
    · simp only [finalContents_of_changed hchanged] at hrows
      cases hr : source.get? t with
      | none => rw [consumerRows_eq_none (fun series => by rw [hrows, hr]; rfl)]; rfl
      | some r =>
        have hrow := hsource t r hr
        rw [consumerRows_eq_some (fun series => by rw [hrows, hr]; rfl) hrow.canonical hrow.gold,
          Option.map_some, consumerDigest, hrow.timestamp]
        exact congrArg some hrow.digest
    · simp only [finalContents_of_unchanged hchanged] at hrows
      rw [consumerRows_congr hrows, KeyedTable.traverse_eq_ok_iff.mp h.consumer t,
        not_not.mp hchanged])

/-- The summary of a replica that agrees with a source. -/
theorem Agrees.targetSummary_eq (h : Agrees sha256 db (source.map Prod.snd)) :
    targetSummary db = .ok ⟨source.rows.length, source.keys.head?, source.keys.getLast?⟩ := by
  have hload : ∀ t ∈ source.keys, loadDatetime t = .ok t := fun t ht => by
    refine (storedDigests_eq_ok_iff.mp h.index t).2 ?_
    rwa [KeyedTable.get?_map, Option.isSome_map, ← KeyedTable.mem_keys_iff]
  have hnullable : ∀ t : Option Timestamp, (∀ t' ∈ t, loadDatetime t' = .ok t') →
      loadNullable t = .ok t := by
    intro t ht
    cases t with
    | none => rfl
    | some t => rw [loadNullable, ht t rfl]; rfl
  simp only [targetSummary]
  rw [keys_of_consumerDigests h.consumer,
    hnullable _ (fun t ht => hload t (List.mem_of_head? ht)),
    hnullable _ (fun t ht => hload t (List.mem_of_getLast? ht)), KeyedTable.keys_length]
  rfl

/-! ## Applying a delta -/

/-- A state counts and bounds the rows of a source. -/
structure Describes (state : GoldSyncState)
    (source : KeyedTable Timestamp (WideRow Float64 × Sha256Hex)) : Prop where
  rowCount : state.rowCount = source.rows.length
  minTimestamp : state.minTimestamp = source.keys.head?
  maxTimestamp : state.maxTimestamp = source.keys.getLast?

theorem succeeds_verifyDelta {plan : GoldDeltaPlan} {state : GoldSyncState} {s : Session}
    (h : Agrees sha256 s.replica (source.map Prod.snd))
    (hplan : plan.sourceDigests = source.map Prod.snd) (hstate : Describes state source)
    {Q : Unit → Session → Prop} (hQ : Q () s) :
    Succeeds (verifyDelta sha256 postgresDatasetId plan state) s Q := by
  unfold verifyDelta
  refine succeeds_bind (succeeds_query h.targetSummary_eq (succeeds_bind (succeeds_require ?_ ?_)))
  · rw [hstate.rowCount, hstate.minTimestamp, hstate.maxTimestamp]
  refine succeeds_bind (succeeds_query h.index (succeeds_bind (succeeds_require hplan.symm ?_)))
  exact succeeds_bind (succeeds_query h.consumer (succeeds_require hplan.symm hQ))

/-- **A delta is applied to a consistent replica**: the replica then holds the
source, and only changed rows have been touched. -/
theorem succeeds_applyDelta {state : GoldSyncState} (h : Agrees sha256 db target)
    (hsource : ∀ t r, source.get? t = some r → IsSourceRow sha256 t r)
    (hstate : Describes state source) :
    Succeeds (applyDelta sha256 postgresDatasetId (deltaPlan source target) state) ⟨db, []⟩
      (fun _ s => HoldsBuild sha256 s.replica source state
        ∧ ∀ st ∈ s.statements, OnlyChanged source target st) := by
  unfold applyDelta
  refine succeeds_bind (succeeds_require rfl (succeeds_bind (succeeds_require ?_ ?_)))
  · refine List.all_eq_true.mpr (fun r hr => ?_)
    obtain ⟨d, hd, -⟩ := changedAt_of_mem_mutations hr
    simp [deltaPlan, hd]
  refine succeeds_bind ((succeeds_writeDelta (planFits_deltaPlan hsource) h.written).mono
    (fun _ s hs => ?_))
  have hagree := h.of_written hsource hs
  refine succeeds_bind (succeeds_verifyDelta hagree rfl hstate (succeeds_write ⟨?_, ?_⟩))
  · exact ⟨hagree.index, hagree.consumer, by simp only [Replica.setState, Function.update_self]⟩
  · intro st hst
    rcases List.mem_append.mp hst with hst | hst
    · exact hs.log st hst
    · rw [List.mem_singleton.mp hst]
      intro t ht
      cases ht

/-! ## The checks before the writes -/

theorem succeeds_runLocked {α : Type} {operation : Transaction α} {s : Session}
    {Q : α → Session → Prop} (h : Succeeds operation s Q) : Succeeds (runLocked operation) s Q := by
  unfold runLocked
  refine succeeds_bind (succeeds_query rfl (Succeeds.tryCatch (Succeeds.atomically ?_)))
  refine succeeds_bind (succeeds_query rfl (succeeds_bind (h.mono (fun a s' hs' => ?_))))
  exact succeeds_bind (succeeds_query rfl (succeeds_pure hs'))

/-- The counts of a delta. -/
def syncResult (buildId : String)
    (source : KeyedTable Timestamp (WideRow Float64 × Sha256Hex))
    (target : KeyedTable Timestamp Sha256Hex) : GoldSyncResult :=
  ⟨buildId, (rowsOfKind .insert source target).length, (rowsOfKind .update source target).length,
    (deletedKeys source target).length, (rowsOfKind .unchanged source target).length⟩

/-- A state says of a replica what is the case: it counts its digests, and if
there is no state there are no digests. -/
def StateFits (prior : Option GoldSyncState) (target : KeyedTable Timestamp Sha256Hex) : Prop :=
  match prior with
  | none => target.rows = []
  | some state => (target.rows.length : ℤ) = state.rowCount

/-- **The checks of the plan against a stored state**: the same data has the same
digests, and other data has other ones. -/
def PlanFitsState (prior desired : GoldSyncState)
    (source : KeyedTable Timestamp (WideRow Float64 × Sha256Hex))
    (target : KeyedTable Timestamp Sha256Hex) : Prop :=
  sameData prior desired = true ↔ source.map Prod.snd = target

theorem storedState_eq_ok (prior : Option GoldSyncState)
    (h : db.syncState postgresDatasetId = prior.map GoldSyncState.toRow) :
    storedState db postgresDatasetId = .ok prior := by
  unfold storedState
  rw [h]
  cases prior with
  | none => rfl
  | some state => simp only [Option.map_some, GoldSyncState.validate_toRow]; rfl

theorem stateCompatible_of_versions {prior desired : GoldSyncState}
    (hschema : prior.schemaVersion = desired.schemaVersion)
    (hfeature : prior.featureVersion = desired.featureVersion) :
    stateCompatible (some prior) desired = true := by
  simp [stateCompatible, hschema, hfeature]

theorem succeeds_verifyTarget {prior : Option GoldSyncState} {desired : GoldSyncState}
    {s : Session} (h : StateFits prior target) {Q : Unit → Session → Prop} (hQ : Q () s) :
    Succeeds (verifyTarget prior desired target target) s Q := by
  have hnone : prior = none → target.rows = [] := fun hp => by
    subst hp
    exact h
  refine succeeds_bind (succeeds_require hnone (succeeds_bind (succeeds_require hnone
    (succeeds_bind (succeeds_require ?_ ?_)))))
  · rintro state rfl
    exact h
  · split_ifs
    · exact succeeds_pure hQ
    · exact succeeds_require rfl hQ

/-- A delta is empty exactly when nothing has changed. -/
theorem isEmpty_deltaPlan :
    (deltaPlan source target).isEmpty = true ↔ source.map Prod.snd = target := by
  have hkeys : (deltaPlan source target).isEmpty = true ↔ ∀ t, ¬ ChangedAt source target t := by
    simp only [changedAt_iff, GoldDeltaPlan.isEmpty, GoldDeltaPlan.mutations, Bool.and_eq_true,
      List.isEmpty_iff, not_or]
    constructor
    · rintro ⟨⟨hi, hu⟩, hd⟩ t
      simp [hi, hu, hd]
    · intro h
      have hm := List.eq_nil_iff_forall_not_mem.mpr (fun t => (h t).1)
      have hd := List.eq_nil_iff_forall_not_mem.mpr (fun t => (h t).2)
      rw [List.map_eq_nil_iff, List.append_eq_nil_iff] at hm
      exact ⟨hm, hd⟩
  rw [hkeys]
  constructor
  · intro h
    ext t : 1
    rw [KeyedTable.get?_map]
    exact (not_not.mp (h t)).symm
  · rintro rfl t
    rw [ChangedAt, KeyedTable.get?_map]
    exact not_not.mpr rfl

theorem succeeds_verifyPlan {prior : Option GoldSyncState} {desired : GoldSyncState}
    {s : Session} (h : ∀ state ∈ prior, PlanFitsState state desired source target)
    {Q : Unit → Session → Prop} (hQ : Q () s) :
    Succeeds (verifyPlan prior desired target (deltaPlan source target)) s Q := by
  unfold verifyPlan
  cases prior with
  | none => exact succeeds_pure hQ
  | some state =>
    have hfits : sameData state desired = true ↔ source.map Prod.snd = target := h state rfl
    by_cases hsame : sameData state desired = true
    · simp only [if_pos hsame]
      exact succeeds_require (hfits.mp hsame) hQ
    · simp only [if_neg hsame]
      refine succeeds_require (.inl ?_) hQ
      rw [Bool.eq_false_iff, Ne, isEmpty_deltaPlan]
      exact fun heq => hsame (hfits.mpr heq)

/-- **The locked part of a synchronization succeeds** on a consistent replica with
a state that fits it, its versions and the plan. -/
theorem succeeds_syncLocked {prior : Option GoldSyncState} {goldSource : GoldSource}
    {record : GoldCatalogRecord} {path : String} {desired : GoldSyncState} {frame : GoldFrame}
    (hagree : Agrees sha256 db target)
    (hprior : db.syncState postgresDatasetId = prior.map GoldSyncState.toRow)
    (hfits : StateFits prior target) (hcompatible : stateCompatible prior desired = true)
    (hplan : ∀ state ∈ prior, PlanFitsState state desired source target)
    (hframe : readSourceFrame decodeFrame goldSource path record = .ok frame)
    (hrows : sourceRowsAndDigests sha256 frame = .ok source)
    (hgold : ∀ t r, source.get? t = some r → IsGoldRow r.1) (hdesired : Describes desired source) :
    Succeeds (syncLocked sha256 decodeFrame goldSource record path desired) ⟨db, []⟩
      (fun result s => result = syncResult record.buildId source target
        ∧ HoldsBuild sha256 s.replica source desired
        ∧ ∀ st ∈ s.statements, OnlyChanged source target st) := by
  have hsource : ∀ t r, source.get? t = some r → IsSourceRow sha256 t r := fun t r hr => by
    obtain ⟨ht, hcanonical, hd⟩ := sourceRows_spec hrows hr
    exact ⟨ht, hcanonical, hd, hgold t r hr⟩
  have hplanned : planGoldDelta sha256 frame target prior = .ok (deltaPlan source target) :=
    planGoldDelta_eq_ok_iff.mpr ⟨source, hrows, fun hp => by subst hp; exact hfits, rfl⟩
  unfold syncLocked
  refine succeeds_bind (succeeds_query (storedState_eq_ok prior hprior) ?_)
  refine succeeds_bind (succeeds_require hcompatible ?_)
  refine succeeds_bind (succeeds_query hagree.index (succeeds_bind (succeeds_query
    hagree.consumer ?_)))
  refine succeeds_bind (succeeds_verifyTarget hfits ?_)
  refine succeeds_bind (succeeds_ofExcept hframe (succeeds_bind (succeeds_ofExcept hplanned ?_)))
  refine succeeds_bind (succeeds_verifyPlan hplan ?_)
  refine succeeds_bind ((succeeds_applyDelta hagree hsource hdesired).mono (fun _ s hs => ?_))
  refine succeeds_pure ⟨?_, hs⟩
  simp only [syncResult, deltaPlan, List.length_map]

/-! ## What the checks before the lock let through -/

/-- The rows of a frame are those of its table. -/
theorem sourceTable_eq_ok {frame : GoldFrame} {table : KeyedTable Timestamp (WideRow Float64)}
    (h : sourceTable frame = .ok table) :
    (∀ t, t ∈ frame.timestamps ↔ t ∈ table.keys) ∧ table.rows.length = frame.rows.length := by
  unfold sourceTable at h
  simp only at h
  split_ifs at h with hnull hnodup
  obtain rfl := Except.ok.inj h
  have hkeys : frame.timestamps
      = (frame.rows.filterMap (fun r => r.1.map (fun t => (t, r.2)))).map Prod.fst := by
    rw [GoldFrame.timestamps, List.map_filterMap]
    exact congrArg (List.filterMap · frame.rows) (funext (fun r => by
      cases r.1 <;> rfl))
  refine ⟨fun t => by rw [KeyedTable.mem_keys_ofRows hnodup, hkeys], ?_⟩
  rw [KeyedTable.length_ofRows hnodup, List.length_filterMap_eq_countP, List.countP_eq_length]
  intro r hr
  rw [Bool.not_eq_true, List.any_eq_false] at hnull
  have hr' := hnull r hr
  rw [Option.isSome_map]
  cases ht : r.1 with
  | none => rw [ht] at hr'; exact absurd rfl hr'
  | some t => rfl

/-- The metadata of a frame, in terms of its source rows. -/
theorem metadata_of_sourceRows {frame : GoldFrame} {record : GoldCatalogRecord}
    (hmetadata : validateFrameMetadata frame record = .ok ())
    (hrows : sourceRowsAndDigests sha256 frame = .ok source) :
    record.rowCount = some (source.rows.length : ℤ)
      ∧ record.minTimestamp = source.keys.head?.map PyDatetime.utc
      ∧ record.maxTimestamp = source.keys.getLast?.map PyDatetime.utc := by
  obtain ⟨table, htable, htraverse⟩ := bind_eq_ok.mp hrows
  obtain ⟨hmem, hlength⟩ := sourceTable_eq_ok htable
  have hkeys : source.keys = table.keys := KeyedTable.keys_traverse htraverse
  have hcount : source.rows.length = frame.rows.length := by
    rw [← hlength, ← KeyedTable.keys_length, ← KeyedTable.keys_length, hkeys]
  unfold validateFrameMetadata at hmetadata
  cases hrecord : record.rowCount with
  | none => rw [hrecord] at hmetadata; cases hmetadata
  | some rowCount =>
    rw [hrecord] at hmetadata
    simp only at hmetadata
    split_ifs at hmetadata with hlen hbounds
    rw [not_or, not_not, not_not] at hbounds
    rw [not_not] at hlen
    rw [hkeys, ← KeyedTable.min?_eq_head?_keys hmem, ← KeyedTable.max?_eq_getLast?_keys hmem,
      hcount, hlen]
    exact ⟨rfl, hbounds.1.symm, hbounds.2.symm⟩

section CurrentBuild

variable {env : GoldPostgresDeltaSync} {record : GoldCatalogRecord} {bytes : Bytes}

/-- **The state a current build is to have is valid**, if the clock knows its time
zone. -/
theorem CurrentBuild.desiredState_eq
    (h : CurrentBuild sha256 decodeFrame env record bytes source)
    (haware : env.now.isAware = true) :
    desiredState record (sha256 bytes) env.now
      = .ok (buildState sha256 record bytes source env.now) := by
  obtain ⟨frame, -, hmetadata, hrows⟩ := h.rows
  obtain ⟨hcount, hmin, hmax⟩ := metadata_of_sourceRows hmetadata hrows
  obtain ⟨records, -, hselect⟩ := h.selected
  obtain ⟨hschema, hfeature⟩ := selectCurrentSyncRecord_versions hselect
  have hutc : ∀ t : Option Timestamp, utcInstant? (t.map PyDatetime.utc) = .ok t := fun t => by
    cases t <;> rfl
  have hvalid : GoldSyncState.validate (buildState sha256 record bytes source env.now).toRow
      = .ok (buildState sha256 record bytes source env.now) := GoldSyncState.validate_toRow _
  simp only [desiredState, hcount]
  refine bind_eq_ok.mpr ⟨(), check_eq_ok.mpr haware, bind_eq_ok.mpr ⟨(), ?_, ?_⟩⟩
  · exact check_eq_ok.mpr (Int.natCast_nonneg _)
  refine bind_eq_ok.mpr ⟨_, hmin ▸ hutc _, bind_eq_ok.mpr ⟨_, hmax ▸ hutc _, ?_⟩⟩
  rw [hschema, hfeature]
  exact hvalid

/-- What is found out about a current build before the replica is locked. -/
theorem CurrentBuild.prepareSync_eq
    (h : CurrentBuild sha256 decodeFrame env record bytes source)
    (haware : env.now.isAware = true) :
    ∃ path frame, prepareSync sha256 env
        = .ok (record, path, buildState sha256 record bytes source env.now)
      ∧ readSourceFrame decodeFrame env.source path record = .ok frame
      ∧ sourceRowsAndDigests sha256 frame = .ok source := by
  obtain ⟨records, hcatalog, hselect⟩ := h.selected
  obtain ⟨path, hpath, hbytes⟩ := h.file
  obtain ⟨frame, hdecode, hmetadata, hrows⟩ := h.rows
  refine ⟨path, frame, ?_, ?_, hrows⟩
  · refine bind_eq_ok.mpr ⟨_, hcatalog, bind_eq_ok.mpr ⟨_, hselect, bind_eq_ok.mpr
      ⟨_, h.bundle, bind_eq_ok.mpr ⟨_, h.preflight, bind_eq_ok.mpr ⟨_, hpath, bind_eq_ok.mpr
      ⟨_, hbytes, bind_eq_ok.mpr ⟨_, h.desiredState_eq haware, rfl⟩⟩⟩⟩⟩⟩⟩
  · exact bind_eq_ok.mpr ⟨_, hbytes, bind_eq_ok.mpr ⟨_, hdecode, bind_eq_ok.mpr
      ⟨_, hmetadata, rfl⟩⟩⟩

/-- The file of a build determines its rows. -/
theorem CurrentBuild.source_unique {env' : GoldPostgresDeltaSync} {record' : GoldCatalogRecord}
    {source' : KeyedTable Timestamp (WideRow Float64 × Sha256Hex)}
    (h : CurrentBuild sha256 decodeFrame env record bytes source)
    (h' : CurrentBuild sha256 decodeFrame env' record' bytes source') : source = source' := by
  obtain ⟨frame, hdecode, -, hrows⟩ := h.rows
  obtain ⟨frame', hdecode', -, hrows'⟩ := h'.rows
  obtain rfl := Except.ok.inj (hdecode.symm.trans hdecode')
  exact Except.ok.inj (hrows.symm.trans hrows')

/-- **There is one current build.** -/
theorem CurrentBuild.unique {record' : GoldCatalogRecord} {bytes' : Bytes}
    {source' : KeyedTable Timestamp (WideRow Float64 × Sha256Hex)}
    (h : CurrentBuild sha256 decodeFrame env record bytes source)
    (h' : CurrentBuild sha256 decodeFrame env record' bytes' source') :
    record = record' ∧ bytes = bytes' ∧ source = source' := by
  obtain ⟨records, hcatalog, hselect⟩ := h.selected
  obtain ⟨records', hcatalog', hselect'⟩ := h'.selected
  obtain rfl := Except.ok.inj (hcatalog.symm.trans hcatalog')
  obtain rfl := Except.ok.inj (hselect.symm.trans hselect')
  obtain ⟨path, hpath, hbytes⟩ := h.file
  obtain ⟨path', hpath', hbytes'⟩ := h'.file
  obtain rfl := Except.ok.inj (hpath.symm.trans hpath')
  obtain rfl := Except.ok.inj (hbytes.symm.trans hbytes')
  exact ⟨rfl, rfl, h.source_unique h'⟩

/-- **A synchronization succeeds** on a consistent replica, for a build whose rows
Gold has assembled. -/
theorem succeeds_sync (prior : Option GoldSyncState)
    (h : CurrentBuild sha256 decodeFrame env record bytes source)
    (haware : env.now.isAware = true) (hgold : ∀ t r, source.get? t = some r → IsGoldRow r.1)
    (hagree : Agrees sha256 db target)
    (hprior : db.syncState postgresDatasetId = prior.map GoldSyncState.toRow)
    (hfits : StateFits prior target)
    (hcompatible : stateCompatible prior (buildState sha256 record bytes source env.now) = true)
    (hplan : ∀ state ∈ prior,
      PlanFitsState state (buildState sha256 record bytes source env.now) source target) :
    Succeeds (sync sha256 decodeFrame env) ⟨db, []⟩
      (fun result s => result = syncResult record.buildId source target
        ∧ HoldsBuild sha256 s.replica source (buildState sha256 record bytes source env.now)
        ∧ ∀ st ∈ s.statements, OnlyChanged source target st) := by
  obtain ⟨path, frame, hprepare, hframe, hrows⟩ := h.prepareSync_eq haware
  exact succeeds_bind (succeeds_ofExcept hprepare (succeeds_runLocked
    (succeeds_syncLocked hagree hprior hfits hcompatible hplan hframe hrows hgold ⟨rfl, rfl, rfl⟩)))

/-- The first synchronization, into a database that holds nothing. -/
theorem succeeds_sync_first (h : CurrentBuild sha256 decodeFrame env record bytes source)
    (haware : env.now.isAware = true) (hgold : ∀ t r, source.get? t = some r → IsGoldRow r.1)
    (hagree : Agrees sha256 db .empty) (hstate : db.syncState postgresDatasetId = none) :
    Succeeds (sync sha256 decodeFrame env) ⟨db, []⟩
      (fun _ s => HoldsBuild sha256 s.replica source
        (buildState sha256 record bytes source env.now)) :=
  (succeeds_sync none h haware hgold hagree hstate rfl rfl
    (fun _ hp => by cases hp)).mono (fun _ _ hs => hs.2.1)

end CurrentBuild

/-! ## From build to build -/

section Next

variable {env₀ env : GoldPostgresDeltaSync} {record₀ record : GoldCatalogRecord}
  {bytes₀ bytes : Bytes} {source₀ : KeyedTable Timestamp (WideRow Float64 × Sha256Hex)}
  {now₀ now : PyDatetime}

/-- Whether a build counts as the same data is decided by the digest of its file,
if that determines the rows. -/
theorem sameData_buildState (h : sha256 bytes = sha256 bytes₀ → source = source₀) :
    sameData (buildState sha256 record₀ bytes₀ source₀ now₀)
      (buildState sha256 record bytes source now) = true ↔ sha256 bytes = sha256 bytes₀ := by
  simp only [sameData, buildState, Bool.and_eq_true, beq_iff_eq]
  constructor
  · rintro ⟨⟨⟨⟨⟨hsha, -⟩, -⟩, -⟩, -⟩, -⟩
    exact Subtype.ext hsha.symm
  · intro hsha
    rw [h hsha, hsha]
    simp

/-- **The next synchronization** succeeds, unless all the rows are the same and the
data file is not. -/
theorem succeeds_sync_next
    (hholds : HoldsBuild sha256 db source₀ (buildState sha256 record₀ bytes₀ source₀ now₀))
    (h : CurrentBuild sha256 decodeFrame env record bytes source)
    (haware : env.now.isAware = true) (hgold : ∀ t r, source.get? t = some r → IsGoldRow r.1)
    (hsame : sha256 bytes = sha256 bytes₀ → source = source₀)
    (hchanged : source.map Prod.snd = source₀.map Prod.snd → sha256 bytes = sha256 bytes₀) :
    Succeeds (sync sha256 decodeFrame env) ⟨db, []⟩
      (fun result s => result = syncResult record.buildId source (source₀.map Prod.snd)
        ∧ HoldsBuild sha256 s.replica source (buildState sha256 record bytes source env.now)
        ∧ ∀ st ∈ s.statements, OnlyChanged source (source₀.map Prod.snd) st) := by
  refine succeeds_sync (some _) h haware hgold ⟨hholds.index, hholds.consumer⟩
    hholds.state ?_ (stateCompatible_of_versions rfl rfl) ?_
  · rw [StateFits, ← KeyedTable.keys_length, KeyedTable.keys_map, KeyedTable.keys_length]
    rfl
  · rintro state hp
    obtain rfl := Option.some.inj hp
    rw [PlanFitsState, sameData_buildState hsame]
    exact ⟨fun hsha => by rw [hsame hsha], hchanged⟩

/-- The counts of a synchronization with what is there already. -/
theorem syncResult_self (buildId : String) :
    syncResult buildId source (source.map Prod.snd) = ⟨buildId, 0, 0, 0, source.rows.length⟩ := by
  have hkind : ∀ r ∈ source.rows,
      deltaKind ((source.map Prod.snd).get? r.1) r.2.2 = .unchanged := fun r hr => by
    rw [KeyedTable.get?_map, KeyedTable.mem_rows_iff.mp hr]
    exact if_neg (not_not.mpr rfl)
  have hdeleted : deletedKeys source (source.map Prod.snd) = [] := by
    refine List.eq_nil_iff_forall_not_mem.mpr (fun t ht => ?_)
    obtain ⟨hsome, hnone⟩ := mem_deletedKeys_iff.mp ht
    rw [KeyedTable.get?_map, hnone] at hsome
    cases hsome
  have hgroup : ∀ kind, kind ≠ .unchanged →
      rowsOfKind kind source (source.map Prod.snd) = [] := fun kind hne => by
    rw [rowsOfKind, List.map_eq_nil_iff, List.filter_eq_nil_iff]
    intro r hr hk
    exact hne ((of_decide_eq_true hk).symm.trans (hkind r hr))
  rw [syncResult, hgroup .insert (by decide), hgroup .update (by decide), hdeleted, rowsOfKind,
    List.length_map, List.filter_eq_self.mpr (fun r hr => decide_eq_true (hkind r hr))]
  rfl

theorem isSchemaUpgrade_eq_false {prior desired : GoldSyncState}
    (h : prior.schemaVersion = desired.schemaVersion) :
    isSchemaUpgrade (some prior) desired = false := by
  have hstep : ∀ step : ℤ × ℤ, isVersionStep prior desired step.1 step.2 = false := fun step => by
    simp only [isVersionStep, h, Bool.and_eq_false_iff, beq_eq_false_iff_ne]
    omega
  simp [isSchemaUpgrade, isSchemaOnlyUpgrade, hstep, h]

/-- **A build whose rows are all the same under another data file is refused**, and
nothing is written, whichever effects fail. -/
theorem wp_sync_stale {s : Session}
    (hholds : HoldsBuild sha256 s.replica source₀ (buildState sha256 record₀ bytes₀ source₀ now₀))
    (h : CurrentBuild sha256 decodeFrame env record bytes source)
    (haware : env.now.isAware = true) (hrows : source.map Prod.snd = source₀.map Prod.snd)
    (hfile : sha256 bytes ≠ sha256 bytes₀) :
    wp (sync sha256 decodeFrame env)
      ⟨fun _ _ => False, fun _ after => after = s, fun after => after = s⟩ s := by
  obtain ⟨path, frame, hprepare, hframe, hsource⟩ := h.prepareSync_eq haware
  have hstored := storedState_eq_ok (some _) hholds.state
  -- there is nothing to write, and the state is not that of the data
  have hplanned : planGoldDelta sha256 frame (source₀.map Prod.snd)
      (some (buildState sha256 record₀ bytes₀ source₀ now₀))
        = .ok (deltaPlan source (source₀.map Prod.snd)) :=
    planGoldDelta_eq_ok_iff.mpr ⟨source, hsource, (fun hp => nomatch hp), rfl⟩
  have hempty := isEmpty_deltaPlan.mpr hrows
  have hupgrade : isSchemaUpgrade (some (buildState sha256 record₀ bytes₀ source₀ now₀))
      (buildState sha256 record bytes source env.now) = false := isSchemaUpgrade_eq_false rfl
  have hdiffers : sameData (buildState sha256 record₀ bytes₀ source₀ now₀)
      (buildState sha256 record bytes source env.now) ≠ true := by
    rw [Ne, sameData_buildState (fun hsha => absurd hsha hfile)]
    exact hfile
  unfold sync
  refine wp_bind (wp_ofExcept (fun prepared hprepared => ?_) (fun _ _ => rfl))
  obtain rfl := Except.ok.inj (hprepare.symm.trans hprepared)
  refine wp_runLocked ?_ (fun _ => rfl) rfl
  unfold syncLocked
  refine wp_bind (wp_query (fun prior hprior => ?_) (fun _ => trivial) trivial)
  obtain rfl := Except.ok.inj (hstored.symm.trans hprior)
  refine wp_bind (wp_require (fun _ => ?_) (fun _ => trivial))
  refine wp_bind (wp_query (fun targetDigests htarget => ?_) (fun _ => trivial) trivial)
  obtain rfl := Except.ok.inj (hholds.index.symm.trans htarget)
  refine wp_bind (wp_query (fun consumer _ => ?_) (fun _ => trivial) trivial)
  refine wp_bind (wp_mono (wp_true _ _) (fun _ s₁ _ => ?_) (fun _ _ _ => trivial)
    (fun _ _ => trivial))
  refine wp_bind (wp_ofExcept (fun frame' hframe' => ?_) (fun _ _ => trivial))
  obtain rfl := Except.ok.inj (hframe.symm.trans hframe')
  refine wp_bind (wp_ofExcept (fun plan hplan => ?_) (fun _ _ => trivial))
  obtain rfl := Except.ok.inj (hplanned.symm.trans hplan)
  refine wp_bind ?_
  simp only [verifyPlan, if_neg hdiffers]
  refine wp_require (fun hwrites => ?_) (fun _ => trivial)
  rw [hempty, hupgrade] at hwrites
  simp at hwrites

end Next

/-! ## Sample builds -/

/-- The row with one value in all its cells. -/
def constantRow (x : Float64) : WideRow Float64 := fun _ => some x

/-- A frame of constant rows. -/
def constantFrame (rows : List (Timestamp × Float64)) : GoldFrame :=
  ⟨rows.map (fun r => (some r.1, constantRow r.2))⟩

/-- The second day of the samples. -/
def secondDay : Timestamp := 86400000000

/-- Three data files: a zero, the other zero, and two zeros. -/
def sampleDecode : Bytes → Except PyError GoldFrame
  | [0] => .ok (constantFrame [(0, .zero)])
  | [1] => .ok (constantFrame [(0, .negZero)])
  | [2] => .ok (constantFrame [(0, .zero), (secondDay, .zero)])
  | _ => .error (.valueError "not a parquet file")

/-- A text of 64 equal digits. -/
def repeatedDigit (digit : Char) : String := String.ofList (List.replicate 64 digit)

/-- A hash that tells the three files apart. -/
def sampleSha256 : Bytes → Sha256Hex
  | [0] => ⟨repeatedDigit '0', by decide⟩
  | [1] => ⟨repeatedDigit '1', by decide⟩
  | _ => ⟨repeatedDigit '2', by decide⟩

/-- A complete and current build of a number of rows. -/
def sampleRecord (buildId : String) (rowCount : ℤ) (lastDay : Timestamp) :
    GoldCatalogRecord where
  datasetId := postgresDatasetId
  buildId := buildId
  status := .complete
  current := true
  startedAtUtc := .utc 0
  completedAtUtc := some (.utc 0)
  schemaVersion := goldSchemaVersion
  featureVersion := goldFeatureVersion
  minTimestamp := some (.utc 0)
  maxTimestamp := some (.utc lastDay)
  rowCount := some rowCount
  dataPath := some "data.parquet"
  buildManifestPath := some "manifest.json"
  plotPath := some "feature_profile.png"
  prunedAtUtc := none

/-- What a synchronization is given when a build is current. -/
def sampleSync (record : GoldCatalogRecord) (bytes : Bytes) : GoldPostgresDeltaSync where
  catalog := .ok [record]
  source := ⟨fun _ => .ok (), fun _ => .ok bytes⟩
  preflightSchema := .ok ()
  now := .utc 0

/-- A database that holds nothing. -/
def emptyReplica : Replica where
  raw := fun _ => .empty
  rowHashes := fun _ => .empty
  syncState := fun _ => none

theorem agrees_emptyReplica : Agrees sha256 emptyReplica .empty :=
  ⟨rfl, KeyedTable.traverse_eq_ok_iff.mpr (fun t => by
    rw [consumerRows_eq_none (D := emptyReplica.raw) (fun _ => rfl)]; rfl)⟩

theorem isGoldRow_zero : IsGoldRow (constantRow .zero) where
  visible := rfl
  level s := by cases s <;> rfl

theorem canonicalRow_constant {x : Float64} (hx : x.isZero = true) :
    canonicalRow (constantRow x) = .ok (constantRow .zero) :=
  canonicalRow_eq_ok_iff.mpr (fun c => by
    simp [constantRow, canonicalCell, canonicalFloat, Float64.isFinite_of_isZero hx, hx]; rfl)

section ConstantFrame

variable {rows : List (Timestamp × Float64)}

theorem sourceTable_constantFrame (hnodup : (rows.map Prod.fst).Nodup) :
    sourceTable (constantFrame rows)
      = .ok (KeyedTable.ofRows (rows.map (fun r => (r.1, constantRow r.2)))) := by
  have hrows : (constantFrame rows).rows.filterMap (fun r => r.1.map (fun t => (t, r.2)))
      = rows.map (fun r => (r.1, constantRow r.2)) := by
    rw [constantFrame, List.filterMap_map]
    exact congrFun List.filterMap_eq_map rows
  have hkeys : (rows.map (fun r => (r.1, constantRow r.2))).map Prod.fst = rows.map Prod.fst := by
    rw [List.map_map]
    rfl
  unfold sourceTable
  simp only [hrows, hkeys]
  rw [if_neg (by simp [constantFrame]), if_neg (not_not.mpr hnodup)]

/-- A row of a frame of zeros: its timestamp, and a zero of either sign. -/
theorem get?_constantFrame (hnodup : (rows.map Prod.fst).Nodup)
    (hrows : ∀ r ∈ rows, loadDatetime r.1 = .ok r.1 ∧ r.2.isZero = true) {t : Timestamp}
    {row : WideRow Float64}
    (h : (KeyedTable.ofRows (rows.map (fun r => (r.1, constantRow r.2)))).get? t = some row) :
    loadDatetime t = .ok t ∧ canonicalRow row = .ok (constantRow .zero) := by
  rw [KeyedTable.get?_ofRows (by rw [List.map_map]; exact hnodup)] at h
  obtain ⟨r, hr, heq⟩ := List.mem_map.mp (KeyedTable.mem_of_lookupRows h)
  obtain ⟨rfl, rfl⟩ := Prod.mk.inj heq
  exact ⟨(hrows r hr).1, canonicalRow_constant (hrows r hr).2⟩

/-- A frame of zeros has source rows, which are zeros of one sign. -/
theorem sourceRows_zeros (sha256 : Bytes → Sha256Hex) (rows : List (Timestamp × Float64))
    (hnodup : (rows.map Prod.fst).Nodup)
    (hrows : ∀ r ∈ rows, loadDatetime r.1 = .ok r.1 ∧ r.2.isZero = true) :
    ∃ source, sourceRowsAndDigests sha256 (constantFrame rows) = .ok source
      ∧ source.keys.length = rows.length ∧ ∀ t r, source.get? t = some r → IsGoldRow r.1 := by
  have htable := sourceTable_constantFrame hnodup
  obtain ⟨source, hsource⟩ := sourceRowsAndDigests_isOk sha256 htable (fun t row hrow =>
    ⟨(get?_constantFrame hnodup hrows hrow).1, _, (get?_constantFrame hnodup hrows hrow).2⟩)
  obtain ⟨table', htable', htraverse⟩ := bind_eq_ok.mp hsource
  obtain rfl := Except.ok.inj (htable.symm.trans htable')
  refine ⟨source, hsource, ?_, fun t r hr => ?_⟩
  · rw [KeyedTable.keys_traverse htraverse, KeyedTable.keys_length,
      KeyedTable.length_ofRows (by rw [List.map_map]; exact hnodup), List.length_map]
  · have ht := KeyedTable.traverse_eq_ok_iff.mp htraverse t
    rw [hr, Option.map_some] at ht
    obtain ⟨row, hrow, hok⟩ := Option.map_eq_some_iff.mp ht
    obtain ⟨-, hcanonical, -⟩ := sourceRow_eq_ok hok
    rw [(get?_constantFrame hnodup hrows hrow).2] at hcanonical
    exact Except.ok.inj hcanonical ▸ isGoldRow_zero

end ConstantFrame

/-- The sign of a zero does not show in the source rows. -/
theorem sourceRows_negZero {t : Timestamp}
    (h : sourceRowsAndDigests sha256 (constantFrame [(t, .zero)]) = .ok source) :
    sourceRowsAndDigests sha256 (constantFrame [(t, .negZero)]) = .ok source := by
  obtain ⟨table, htable, htraverse⟩ := bind_eq_ok.mp h
  obtain rfl := Except.ok.inj ((sourceTable_constantFrame (by simp)).symm.trans htable)
  refine bind_eq_ok.mpr ⟨_, sourceTable_constantFrame (by simp),
    KeyedTable.traverse_eq_ok_iff.mpr (fun t' => ?_)⟩
  rw [← KeyedTable.traverse_eq_ok_iff.mp htraverse t', KeyedTable.get?_ofRows (by simp),
    KeyedTable.get?_ofRows (by simp)]
  simp only [List.map_cons, List.map_nil, KeyedTable.lookupRows]
  split_ifs
  · have hzero := canonicalRow_constant (x := .zero) (by decide)
    have hnegZero := canonicalRow_constant (x := .negZero) (by decide)
    simp only [Option.map_some, sourceRow, hzero, hnegZero]
  · rfl

/-- The samples are current builds. -/
theorem currentBuild_sample (buildId : String) (rowCount : ℤ) (lastDay : Timestamp)
    (bytes : Bytes) {frame : GoldFrame} (hdecode : sampleDecode bytes = .ok frame)
    (hmetadata : validateFrameMetadata frame (sampleRecord buildId rowCount lastDay) = .ok ())
    (hrows : sourceRowsAndDigests sampleSha256 frame = .ok source) :
    CurrentBuild sampleSha256 sampleDecode (sampleSync (sampleRecord buildId rowCount lastDay) bytes)
      (sampleRecord buildId rowCount lastDay) bytes source :=
  ⟨⟨_, rfl, rfl⟩, rfl, rfl, ⟨"data.parquet", rfl, rfl⟩, ⟨frame, hdecode, hmetadata, hrows⟩⟩

/-- The first synchronization of the sample build with one zero. -/
theorem exists_sync_sample :
    ∃ source result after,
      sourceRowsAndDigests sampleSha256 (constantFrame [(0, .zero)]) = .ok source
      ∧ source.keys.length = 1 ∧ (∀ t r, source.get? t = some r → IsGoldRow r.1)
      ∧ sync sampleSha256 sampleDecode (sampleSync (sampleRecord "20260101T000000Z" 1 0) [0])
          ⟨emptyReplica, []⟩ [] = (.returned result, after, [])
      ∧ HoldsBuild sampleSha256 after.replica source
          (buildState sampleSha256 (sampleRecord "20260101T000000Z" 1 0) [0] source (.utc 0)) := by
  obtain ⟨source, hsource, hlength, hgold⟩ := sourceRows_zeros sampleSha256
    [(0, .zero)] (by simp) (by simp only [List.forall_mem_singleton]; exact ⟨rfl, rfl⟩)
  obtain ⟨result, after, hsync, hholds⟩ := succeeds_sync_first
    (currentBuild_sample "20260101T000000Z" 1 0 [0] rfl rfl hsource) rfl hgold
    agrees_emptyReplica rfl
  exact ⟨source, result, after, hsource, hlength, hgold, hsync, hholds⟩

/-! ## Progress -/

section Progress

variable {env₀ env : GoldPostgresDeltaSync} {record₀ record : GoldCatalogRecord}
  {bytes₀ bytes : Bytes} {source₀ : KeyedTable Timestamp (WideRow Float64 × Sha256Hex)}

/-- **Synchronization makes progress, except on rewritten files.** A replica that a
synchronization has left takes every later build with a changed row or with the
same data file: it comes to hold the build, only changed rows are written, and
synchronizing the build again finds nothing to do. A build whose rows are all
the same under another file is refused, and the replica stays as it is. -/
theorem sync_progress {before after : Session} {faults faults' : List (Fault PyError)}
    {result : GoldSyncResult}
    (hsync : sync sha256 decodeFrame env₀ before faults = (.returned result, after, faults'))
    (hbuild₀ : CurrentBuild sha256 decodeFrame env₀ record₀ bytes₀ source₀)
    (hbuild : CurrentBuild sha256 decodeFrame env record bytes source)
    (haware : env.now.isAware = true) (hgold : ∀ t r, source.get? t = some r → IsGoldRow r.1)
    (hsha : sha256 bytes = sha256 bytes₀ → bytes = bytes₀) :
    ((source.map Prod.snd = source₀.map Prod.snd → bytes = bytes₀) →
      Succeeds (sync sha256 decodeFrame env) ⟨after.replica, []⟩ (fun _ s =>
        HoldsBuild sha256 s.replica source (buildState sha256 record bytes source env.now)
        ∧ (∀ st ∈ s.statements, OnlyChanged source (source₀.map Prod.snd) st)
        ∧ ∀ again, CurrentBuild sha256 decodeFrame again record bytes source →
          again.now.isAware = true →
          Succeeds (sync sha256 decodeFrame again) ⟨s.replica, []⟩
            (fun result _ => result = ⟨record.buildId, 0, 0, 0, source.rows.length⟩)))
    ∧ (source.map Prod.snd = source₀.map Prod.snd → bytes ≠ bytes₀ → ∀ statements,
      wp (sync sha256 decodeFrame env)
        ⟨fun _ _ => False, fun _ s => s = ⟨after.replica, statements⟩,
          fun s => s = ⟨after.replica, statements⟩⟩ ⟨after.replica, statements⟩) := by
  obtain ⟨record₁, bytes₁, source₁, hbuild₁, -, hholds⟩ :
      ∃ record bytes source, CurrentBuild sha256 decodeFrame env₀ record bytes source
        ∧ result.sourceBuildId = record.buildId
        ∧ HoldsBuild sha256 after.replica source (buildState sha256 record bytes source env₀.now) := by
    have h := wp_sync sha256 decodeFrame env₀ before faults
    rw [hsync] at h
    exact h
  obtain ⟨rfl, rfl, rfl⟩ := hbuild₁.unique hbuild₀
  refine ⟨fun hchanged => ?_, fun hrows hfile statements => ?_⟩
  · have hsame : sha256 bytes = sha256 bytes₁ → source = source₁ := fun heq => by
      obtain rfl := hsha heq
      exact hbuild.source_unique hbuild₁
    refine (succeeds_sync_next hholds hbuild haware hgold hsame
      (fun hrows => congrArg sha256 (hchanged hrows))).mono (fun _ s hs => ⟨hs.2.1, hs.2.2, ?_⟩)
    intro again hagain haware'
    refine (succeeds_sync_next hs.2.1 hagain haware' hgold (fun _ => rfl) (fun _ => rfl)).mono
      (fun _ s' hs' => ?_)
    rw [hs'.1, syncResult_self]
  · exact wp_sync_stale hholds hbuild haware hrows (fun heq => hfile (hsha heq))

/-- A build with one more row goes in, and then there is nothing to do. -/
theorem sync_progress_second_day :
    ∃ (source₀ source : KeyedTable Timestamp (WideRow Float64 × Sha256Hex)) (after : Replica),
      Succeeds (sync sampleSha256 sampleDecode
          (sampleSync (sampleRecord "20260102T000000Z" 2 secondDay) [2])) ⟨after, []⟩
        (fun _ s => HoldsBuild sampleSha256 s.replica source
            (buildState sampleSha256 (sampleRecord "20260102T000000Z" 2 secondDay) [2] source (.utc 0))
          ∧ (∀ st ∈ s.statements, OnlyChanged source (source₀.map Prod.snd) st)
          ∧ ∀ again, CurrentBuild sampleSha256 sampleDecode again
              (sampleRecord "20260102T000000Z" 2 secondDay) [2] source →
            again.now.isAware = true →
            Succeeds (sync sampleSha256 sampleDecode again) ⟨s.replica, []⟩
              (fun result _ => result = ⟨"20260102T000000Z", 0, 0, 0, source.rows.length⟩)) := by
  obtain ⟨source₀, result, after, hsource₀, hlength₀, -, hsync, -⟩ := exists_sync_sample
  obtain ⟨source, hsource, hlength, hgold⟩ := sourceRows_zeros sampleSha256
    [(0, .zero), (secondDay, .zero)] (by decide)
    (by simp only [List.forall_mem_cons]; exact ⟨⟨rfl, rfl⟩, ⟨rfl, rfl⟩, by simp⟩)
  refine ⟨source₀, source, after.replica, (sync_progress hsync
    (currentBuild_sample _ _ _ _ rfl rfl hsource₀) (currentBuild_sample _ _ _ _ rfl rfl hsource) rfl hgold
    (fun hsha => absurd hsha (by decide))).1 (fun hrows => ?_)⟩
  have hkeys := congrArg (fun t => (KeyedTable.keys t).length) hrows
  simp only [KeyedTable.keys_map, hlength, hlength₀] at hkeys
  cases hkeys

/-- The same row under another file, the sign of its zeros flipped: the replica
never gets to hold the new build. -/
theorem sync_wedged_by_rewritten_file :
    ∃ source result after,
      CurrentBuild sampleSha256 sampleDecode (sampleSync (sampleRecord "20260101T000000Z" 1 0) [0])
        (sampleRecord "20260101T000000Z" 1 0) [0] source
      ∧ CurrentBuild sampleSha256 sampleDecode
        (sampleSync (sampleRecord "20260102T000000Z" 1 0) [1])
        (sampleRecord "20260102T000000Z" 1 0) [1] source
      ∧ (∀ t r, source.get? t = some r → IsGoldRow r.1)
      ∧ sync sampleSha256 sampleDecode (sampleSync (sampleRecord "20260101T000000Z" 1 0) [0])
          ⟨emptyReplica, []⟩ [] = (.returned result, after, [])
      ∧ ∀ faults, ∃ last remaining,
          sync sampleSha256 sampleDecode (sampleSync (sampleRecord "20260102T000000Z" 1 0) [1])
            ⟨after.replica, []⟩ faults = (last, ⟨after.replica, []⟩, remaining)
          ∧ ∀ result, last ≠ .returned result := by
  obtain ⟨source, result, after, hsource, -, hgold, hsync, hholds⟩ := exists_sync_sample
  have hbuild := currentBuild_sample "20260102T000000Z" 1 0 [1] rfl rfl (sourceRows_negZero hsource)
  refine ⟨source, result, after, currentBuild_sample _ _ _ _ rfl rfl hsource, hbuild, hgold, hsync,
    fun faults => ?_⟩
  have hstale := wp_sync_stale (s := ⟨after.replica, []⟩) hholds hbuild rfl rfl (by decide) faults
  generalize sync sampleSha256 sampleDecode _ _ faults = end_ at *
  rcases end_ with ⟨last | e | _, s, remaining⟩
  · exact absurd hstale id
  · obtain rfl : s = ⟨after.replica, []⟩ := hstale
    exact ⟨_, _, rfl, fun _ h => nomatch h⟩
  · obtain rfl : s = ⟨after.replica, []⟩ := hstale
    exact ⟨_, _, rfl, fun _ h => nomatch h⟩

end Progress
