import MacroLoader.SyncService

/-!
# What a synchronization leaves behind

A synchronization that commits leaves a replica that holds the current build,
whatever the replica held before: the index and the consumer rows have the
digests of the source, and the state is the one of the build. One that does
not commit leaves the replica alone.

The converse is subtler. A replica that a synchronization has left is accepted
by the next one, for any later build whose rows differ somewhere; and for a
build whose rows are all the same it is accepted if the data file is the same,
and refused if only the bytes of the file have changed.
-/

open Transaction Program

variable {sha256 : Bytes → Sha256Hex} {decodeFrame : Bytes → Except PyError GoldFrame}

/-- **The replica holds a build**: its source rows with their digests, and the
state of the build. -/
structure HoldsBuild (sha256 : Bytes → Sha256Hex) (db : Replica)
    (source : KeyedTable Timestamp (WideRow Float64 × Sha256Hex)) (state : GoldSyncState) :
    Prop where
  /-- The digest index is that of the source, key for key. -/
  index : storedDigests db postgresDatasetId = .ok (source.map Prod.snd)
  /-- So are the digests recomputed from the raw tables. -/
  consumer : consumerDigests sha256 db.raw = .ok (source.map Prod.snd)
  state : db.syncState postgresDatasetId = some state.toRow

/-- Where the hash does not collide, a replica that holds a build projects to
exactly its source rows. -/
theorem HoldsBuild.consumerRows_eq {db : Replica}
    {source : KeyedTable Timestamp (WideRow Float64 × Sha256Hex)} {state : GoldSyncState}
    (h : HoldsBuild sha256 db source state)
    (hsource : ∀ t r, source.get? t = some r → goldRowSha256 sha256 t r.1 = .ok r.2
      ∧ canonicalRow r.1 = .ok r.1)
    (hsha : Set.InjOn sha256 (framings (consumerRows db.raw) ∪ framings (source.map Prod.fst)))
    (t : Timestamp) :
    ((consumerRows db.raw).get? t).map canonicalRow
      = (source.get? t).map (fun r => .ok r.1) := by
  have hdigest := KeyedTable.traverse_eq_ok_iff.mp h.consumer t
  rw [KeyedTable.get?_map] at hdigest
  cases hrow : (consumerRows db.raw).get? t with
  | none =>
    rw [hrow] at hdigest
    cases hs : source.get? t with
    | none => rfl
    | some r => rw [hs] at hdigest; cases hdigest
  | some row =>
    rw [hrow] at hdigest
    cases hs : source.get? t with
    | none => rw [hs] at hdigest; cases hdigest
    | some r =>
      rw [hs] at hdigest
      simp only [Option.map_some, Option.some.injEq] at hdigest ⊢
      obtain ⟨hd, hcanonical⟩ := hsource t r hs
      have hcells := canonicalCell_eq_of_digest hsha hrow
        (show (source.map Prod.fst).get? t = some r.1 by rw [KeyedTable.get?_map, hs]; rfl)
        (consumerDigest_eq_ok sha256 hdigest) hd
      rw [canonicalRow_eq_ok_iff] at hcanonical ⊢
      exact fun c => (hcells c).trans (hcanonical c)


/-! ## The current build -/

/-- **A validated current build**: the record of the catalog, the bytes of its data
file, and the source rows with their digests, as far as the checks of the
synchronizer let them through. -/
structure CurrentBuild (sha256 : Bytes → Sha256Hex)
    (decodeFrame : Bytes → Except PyError GoldFrame) (env : GoldPostgresDeltaSync)
    (record : GoldCatalogRecord) (bytes : Bytes)
    (source : KeyedTable Timestamp (WideRow Float64 × Sha256Hex)) : Prop where
  selected : ∃ records, env.catalog = .ok records ∧ selectCurrentSyncRecord records = .ok record
  bundle : validateBundle env.source record = .ok ()
  preflight : env.preflightSchema = .ok ()
  file : ∃ path, requiredDataPath record = .ok path ∧ env.source.readBytes path = .ok bytes
  rows : ∃ frame, decodeFrame bytes = .ok frame
    ∧ validateFrameMetadata frame record = .ok () ∧ sourceRowsAndDigests sha256 frame = .ok source

/-- The synchronization state of a build, replicated at a time. -/
def buildState (sha256 : Bytes → Sha256Hex) (record : GoldCatalogRecord) (bytes : Bytes)
    (source : KeyedTable Timestamp (WideRow Float64 × Sha256Hex)) (now : PyDatetime) :
    GoldSyncState where
  sourceBuildId := record.buildId
  dataSha256 := sha256 bytes
  schemaVersion := goldSchemaVersion
  featureVersion := goldFeatureVersion
  rowCount := source.rows.length
  minTimestamp := source.keys.head?
  maxTimestamp := source.keys.getLast?
  syncedAtUtc := now.instant
  rowCount_nonneg := Int.natCast_nonneg _
  bounds_iff := by simp only [KeyedTable.isSome_head?_keys, KeyedTable.isSome_getLast?_keys,
    Int.natCast_pos, and_self]
  bounds_ordered := fun _ ha _ hb => KeyedTable.head?_keys_le ha (List.mem_of_getLast? hb)

theorem selectCurrentSyncRecord_versions {records : List GoldCatalogRecord}
    {record : GoldCatalogRecord} (h : selectCurrentSyncRecord records = .ok record) :
    record.schemaVersion = goldSchemaVersion ∧ record.featureVersion = goldFeatureVersion := by
  simp only [selectCurrentSyncRecord, bind_eq_ok, check_eq_ok] at h
  obtain ⟨record', -, _, -, _, hversions, h⟩ := h
  cases h
  simpa [GoldCompatibility.matches] using hversions

theorem utcInstant?_eq_ok {value : Option PyDatetime} {t : Option Timestamp}
    (h : utcInstant? value = .ok t) : value = t.map PyDatetime.utc := by
  cases value with
  | none => cases h; rfl
  | some d =>
    cases hd : utcInstant d with
    | error e => rw [utcInstant?, hd] at h; cases h
    | ok instant =>
      rw [utcInstant?, hd] at h
      unfold utcInstant at hd
      split_ifs at hd with haware
      cases hd
      cases h
      cases d
      simp_all

/-- The state a build is to have has the fields of its record. -/
theorem desiredState_eq_ok {record : GoldCatalogRecord} {dataSha256 : Sha256Hex}
    {now : PyDatetime} {desired : GoldSyncState}
    (h : desiredState record dataSha256 now = .ok desired) :
    desired.toRow =
      { datasetId := postgresDatasetId
        sourceBuildId := record.buildId
        dataSha256 := dataSha256
        schemaVersion := record.schemaVersion
        featureVersion := record.featureVersion
        rowCount := desired.rowCount
        minTimestamp := desired.minTimestamp
        maxTimestamp := desired.maxTimestamp
        syncedAtUtc := now.instant }
      ∧ record.rowCount = some desired.rowCount
      ∧ record.minTimestamp = desired.minTimestamp.map PyDatetime.utc
      ∧ record.maxTimestamp = desired.maxTimestamp.map PyDatetime.utc := by
  unfold desiredState at h
  cases hcount : record.rowCount with
  | none => rw [hcount] at h; cases h
  | some rowCount =>
    rw [hcount] at h
    obtain ⟨_, -, h⟩ := bind_eq_ok.mp h
    obtain ⟨_, -, h⟩ := bind_eq_ok.mp h
    obtain ⟨minTimestamp, hmin, h⟩ := bind_eq_ok.mp h
    obtain ⟨maxTimestamp, hmax, h⟩ := bind_eq_ok.mp h
    have hrow := GoldSyncState.toRow_of_validate h
    have hfields : desired.rowCount = rowCount ∧ desired.minTimestamp = minTimestamp
        ∧ desired.maxTimestamp = maxTimestamp :=
      ⟨congrArg SyncStateRow.rowCount hrow, congrArg SyncStateRow.minTimestamp hrow,
        congrArg SyncStateRow.maxTimestamp hrow⟩
    obtain ⟨rfl, rfl, rfl⟩ := hfields
    exact ⟨hrow, rfl, utcInstant?_eq_ok hmin, utcInstant?_eq_ok hmax⟩

theorem prepareSync_eq_ok {env : GoldPostgresDeltaSync} {record : GoldCatalogRecord}
    {path : String} {desired : GoldSyncState}
    (h : prepareSync sha256 env = .ok (record, path, desired)) :
    ∃ bytes, (∃ records, env.catalog = .ok records ∧ selectCurrentSyncRecord records = .ok record)
      ∧ validateBundle env.source record = .ok () ∧ env.preflightSchema = .ok ()
      ∧ requiredDataPath record = .ok path ∧ env.source.readBytes path = .ok bytes
      ∧ desiredState record (sha256 bytes) env.now = .ok desired := by
  obtain ⟨records, hcatalog, h⟩ := bind_eq_ok.mp h
  obtain ⟨record', hrecord, h⟩ := bind_eq_ok.mp h
  obtain ⟨_, hbundle, h⟩ := bind_eq_ok.mp h
  obtain ⟨_, hpreflight, h⟩ := bind_eq_ok.mp h
  obtain ⟨path', hpath, h⟩ := bind_eq_ok.mp h
  obtain ⟨bytes, hbytes, h⟩ := bind_eq_ok.mp h
  obtain ⟨desired', hdesired, h⟩ := bind_eq_ok.mp h
  cases h
  exact ⟨bytes, ⟨records, hcatalog, hrecord⟩, hbundle, hpreflight, hpath, hbytes, hdesired⟩

theorem loadNullable_eq_ok {t t' : Option Timestamp} (h : loadNullable t = .ok t') : t' = t := by
  cases t with
  | none => cases h; rfl
  | some t =>
    cases ht : loadDatetime t with
    | error e => rw [loadNullable, ht] at h; cases h
    | ok t'' =>
      rw [loadNullable, ht] at h
      cases h
      rw [loadDatetime_eq_ok ht]

theorem targetSummary_eq_ok {db : Replica} {s : GoldTargetSummary}
    (h : targetSummary db = .ok s) :
    s = ⟨(consumerRows db.raw).keys.length, (consumerRows db.raw).keys.head?,
      (consumerRows db.raw).keys.getLast?⟩ := by
  obtain ⟨minimum, hmin, h⟩ := bind_eq_ok.mp h
  obtain ⟨maximum, hmax, h⟩ := bind_eq_ok.mp h
  cases h
  rw [loadNullable_eq_ok hmin, loadNullable_eq_ok hmax]

/-- Rows with the digests of the source are under the keys of the source. -/
theorem keys_of_consumerDigests {raw : RawTables Float64}
    {source : KeyedTable Timestamp (WideRow Float64 × Sha256Hex)}
    (h : consumerDigests sha256 raw = .ok (source.map Prod.snd)) :
    (consumerRows raw).keys = source.keys :=
  (KeyedTable.keys_traverse h).symm.trans (KeyedTable.keys_map source Prod.snd)

/-! ## A commit holds the build -/

/-- What the locked part of a synchronization has checked when it returns. -/
theorem wp_syncLocked {source : GoldSource} {record : GoldCatalogRecord} {path : String}
    {desired : GoldSyncState} {s : Session} :
    wp (syncLocked sha256 decodeFrame source record path desired)
      ⟨fun result s' => ∃ frame rows, readSourceFrame decodeFrame source path record = .ok frame
          ∧ sourceRowsAndDigests sha256 frame = .ok rows
          ∧ storedDigests s'.replica postgresDatasetId = .ok (rows.map Prod.snd)
          ∧ consumerDigests sha256 s'.replica.raw = .ok (rows.map Prod.snd)
          ∧ targetSummary s'.replica
            = .ok ⟨desired.rowCount, desired.minTimestamp, desired.maxTimestamp⟩
          ∧ s'.replica.syncState postgresDatasetId = some desired.toRow
          ∧ result.sourceBuildId = record.buildId,
        fun _ _ => True, fun _ => True⟩ s := by
  unfold syncLocked
  refine wp_bind (wp_query (fun prior _ => ?_) (fun _ => trivial) trivial)
  refine wp_bind (wp_require (fun _ => ?_) (fun _ => trivial))
  refine wp_bind (wp_query (fun targetDigests _ => ?_) (fun _ => trivial) trivial)
  refine wp_bind (wp_query (fun consumer _ => ?_) (fun _ => trivial) trivial)
  refine wp_bind (wp_mono (wp_true _ _) (fun _ s₁ _ => ?_) (fun _ _ _ => trivial)
    (fun _ _ => trivial))
  refine wp_bind (wp_ofExcept (fun frame hframe => ?_) (fun _ _ => trivial))
  refine wp_bind (wp_ofExcept (fun plan hplan => ?_) (fun _ _ => trivial))
  refine wp_bind (wp_mono (wp_true _ _) (fun _ s₂ _ => ?_) (fun _ _ _ => trivial)
    (fun _ _ => trivial))
  obtain ⟨rows, hrows, -, rfl⟩ := planGoldDelta_eq_ok_iff.mp hplan
  refine wp_bind (wp_mono wp_applyDelta (fun _ s₃ h => ?_) (fun _ _ _ => trivial)
    (fun _ _ => trivial))
  obtain ⟨hindex, hconsumer, hsummary, hstate⟩ := h
  exact wp_pure ⟨frame, rows, hframe, hrows, hindex, hconsumer, hsummary, hstate, rfl⟩

/-- The spec of the locked part after the preparation. The frame is read with the
lock held, from a source that may be a later one, as long as it gives the bytes
that were hashed. -/
theorem wp_prepared {env : GoldPostgresDeltaSync} {source : GoldSource}
    {record : GoldCatalogRecord} {path : String} {desired : GoldSyncState}
    (hprepared : prepareSync sha256 env = .ok (record, path, desired))
    (hfiles : ∀ bytes bytes', env.source.readBytes path = .ok bytes →
      source.readBytes path = .ok bytes' → bytes = bytes') (before : Session) :
    wp (runLocked (syncLocked sha256 decodeFrame source record path desired))
      ⟨fun result after => ∃ bytes rows, CurrentBuild sha256 decodeFrame env record bytes rows
          ∧ result.sourceBuildId = record.buildId
          ∧ HoldsBuild sha256 after.replica rows (buildState sha256 record bytes rows env.now),
        fun _ after => after = before, fun after => after = before⟩ before := by
  obtain ⟨bytes, hselected, hbundle, hpreflight, hpath, hbytes, hdesired⟩ :=
    prepareSync_eq_ok hprepared
  refine wp_runLocked (wp_mono wp_syncLocked (fun result after h => ?_) (fun _ _ _ => trivial)
    (fun _ _ => trivial)) (fun _ => rfl) rfl
  obtain ⟨frame, rows, hframe, hrows, hindex, hconsumer, hsummary, hstate, hresult⟩ := h
  have hbuild : CurrentBuild sha256 decodeFrame env record bytes rows := by
    obtain ⟨bytes', hbytes', hframe⟩ := bind_eq_ok.mp hframe
    obtain rfl : bytes = bytes' := hfiles _ _ hbytes hbytes'
    obtain ⟨frame', hdecode, hframe⟩ := bind_eq_ok.mp hframe
    obtain ⟨_, hmetadata, hframe⟩ := bind_eq_ok.mp hframe
    cases hframe
    exact ⟨hselected, hbundle, hpreflight, ⟨path, hpath, hbytes⟩,
      ⟨frame, hdecode, hmetadata, hrows⟩⟩
  have hstate' : desired.toRow = (buildState sha256 record bytes rows env.now).toRow := by
    obtain ⟨hrow, -⟩ := desiredState_eq_ok hdesired
    obtain ⟨records, -, hselect⟩ := hselected
    obtain ⟨hschema, hfeature⟩ := selectCurrentSyncRecord_versions hselect
    have hbounds := targetSummary_eq_ok hsummary
    rw [keys_of_consumerDigests hconsumer, KeyedTable.keys_length] at hbounds
    obtain ⟨hcount, hmin, hmax⟩ := GoldTargetSummary.mk.inj hbounds
    rw [hrow, hschema, hfeature, hcount, hmin, hmax]
    rfl
  exact ⟨bytes, rows, hbuild, hresult, hindex, hconsumer, hstate' ▸ hstate⟩

/-- The spec of `sync`, whichever effects fail: a commit leaves a replica that
holds the current build, anything else leaves everything alone. -/
theorem wp_sync (sha256 : Bytes → Sha256Hex) (decodeFrame : Bytes → Except PyError GoldFrame)
    (env : GoldPostgresDeltaSync) (before : Session) :
    wp (sync sha256 decodeFrame env)
      ⟨fun result after => ∃ record bytes source,
          CurrentBuild sha256 decodeFrame env record bytes source
          ∧ result.sourceBuildId = record.buildId
          ∧ HoldsBuild sha256 after.replica source
            (buildState sha256 record bytes source env.now),
        fun _ after => after = before, fun after => after = before⟩ before := by
  unfold sync
  refine wp_bind (wp_ofExcept (fun prepared hprepared => ?_) (fun _ _ => rfl))
  exact wp_mono (wp_prepared hprepared
    (fun _ _ hbytes hbytes' => Except.ok.inj (hbytes.symm.trans hbytes')) before)
    (fun _ _ h => ⟨prepared.1, h⟩) (fun _ _ h => h) (fun _ h => h)

/-- **A synchronization that commits leaves a replica that holds the current
build**: index, consumer rows and state are those of the build, and the
projection has exactly the source rows. One that raises or is cut off leaves
everything as it was. -/
theorem sync_end_to_end (sha256 : Bytes → Sha256Hex)
    (decodeFrame : Bytes → Except PyError GoldFrame) (env : GoldPostgresDeltaSync)
    (before : Session) :
    wp (sync sha256 decodeFrame env)
      ⟨fun result after => ∃ record bytes source,
          CurrentBuild sha256 decodeFrame env record bytes source
          ∧ result.sourceBuildId = record.buildId
          ∧ HoldsBuild sha256 after.replica source
            (buildState sha256 record bytes source env.now)
          ∧ (Set.InjOn sha256
              (framings (consumerRows after.replica.raw) ∪ framings (source.map Prod.fst)) →
            ∀ t, ((consumerRows after.replica.raw).get? t).map canonicalRow
              = (source.get? t).map (fun r => .ok r.1)),
        fun _ after => after = before, fun after => after = before⟩ before := by
  refine wp_mono (wp_sync sha256 decodeFrame env before) (fun result after h => ?_) (fun _ _ h => h) (fun _ h => h)
  obtain ⟨record, bytes, source, hbuild, hresult, hholds⟩ := h
  refine ⟨record, bytes, source, hbuild, hresult, hholds, fun hsha => ?_⟩
  obtain ⟨frame, -, -, hrows⟩ := hbuild.rows
  exact hholds.consumerRows_eq (fun t r hr => (sourceRows_spec hrows hr).2.symm) hsha
