import MacroLoader.GoldCatalogRepository
import MacroLoader.SyncProgress

/-!
# Verifying the replica

The verifier reads what the synchronizer reads, by the same queries, and compares it in
its own way: it asks for the digest index, the consumer rows, their summary and the
state at once, where the synchronizer compares them step by step, some before it reads
the source and some after it has written. The two agree because both accept exactly the
replicas that hold the build (`HoldsBuild`), at whatever time it was replicated
(`agreement_eq_ok_iff`). A synchronization of what is there already has an empty delta,
so that its only statement is the one that stores the state.
-/

open Transaction Program

/-! ## The verifier -/

/-- `PostgresDatabaseConformanceEvidence`. -/
structure PostgresDatabaseConformanceEvidence where
  schemaTableCount : ℕ
  roleCount : ℕ
  temporalProbeCount : ℕ
  featureValueRowCount : ℕ

/-- `PostgresConformanceReport`. -/
structure PostgresConformanceReport where
  status : String
  checks : List String
  summaries : List (String × ℕ)

/-- What a verification is given: the catalog, the data files, and what the inspector
of the database finds out. -/
structure GoldPostgresConformanceVerifier where
  catalog : Except PyError (List GoldCatalogRecord)
  source : GoldSource
  inspect : Except PyError PostgresDatabaseConformanceEvidence

/-- What a verification reads of the replica. -/
structure ReplicaTarget where
  state : Option GoldSyncState
  digestIndex : KeyedTable Timestamp Sha256Hex
  consumerDigests : KeyedTable Timestamp Sha256Hex
  summary : GoldTargetSummary

/-- The summary that the consumer rows are to have for a record. -/
def expectedSummary (record : GoldCatalogRecord) : Except PyError GoldTargetSummary := do
  let rowCount := record.rowCount.getD 0
  check (0 ≤ rowCount) (.valueError "row_count cannot be negative")
  let minTimestamp ← utcInstant? record.minTimestamp
  let maxTimestamp ← utcInstant? record.maxTimestamp
  return ⟨rowCount, minTimestamp, maxTimestamp⟩

/-- Whether a state is the one of a record and of its data file. -/
def stateAgrees (record : GoldCatalogRecord) (sourceSha256 : Sha256Hex)
    (expected : GoldTargetSummary) (state : GoldSyncState) : Bool :=
  state.sourceBuildId == record.buildId
    && state.dataSha256.1 == sourceSha256.1
    && state.schemaVersion == record.schemaVersion
    && state.featureVersion == record.featureVersion
    && state.rowCount == expected.rowCount
    && state.minTimestamp == expected.minTimestamp
    && state.maxTimestamp == expected.maxTimestamp

/-- **`_assert_agreement`.** -/
def assertAgreement (record : GoldCatalogRecord) (sourceSha256 : Sha256Hex)
    (source : KeyedTable Timestamp Sha256Hex) (target : ReplicaTarget) : Except PyError Unit := do
  check (source = target.digestIndex) (.valueError "digest index differs from source")
  check (source = target.consumerDigests) (.valueError "consumer differs from source")
  let expected ← expectedSummary record
  check (target.summary = expected ∧ target.state.isSome = true)
    (.valueError "consumer summary or state differs from source")
  check (target.state.any (stateAgrees record sourceSha256 expected) = true)
    (.valueError "sync state differs from source")

section Verify

variable (sha256 : Bytes → Sha256Hex) (decodeFrame : Bytes → Except PyError GoldFrame)

/-- `_read_target`. -/
def readTarget : Transaction ReplicaTarget := do
  let state ← readState postgresDatasetId
  let digestIndex ← readDigests postgresDatasetId
  let consumerDigests ← readConsumerDigests sha256
  let summary ← summary
  return ⟨state, digestIndex, consumerDigests, summary⟩

/-- What `verify` finds out before it reads the replica: the record of the current build,
the digest of its data file, and those of its rows. -/
def verificationSource (env : GoldPostgresConformanceVerifier) :
    Except PyError (GoldCatalogRecord × Sha256Hex × KeyedTable Timestamp Sha256Hex) := do
  let records ← env.catalog
  let record ← selectCurrentSyncRecord records
  match record.dataPath with
  | none => .error (.valueError "current Gold record has no data path")
  | some path => do
    env.source.validateBundle record
    let bytes ← env.source.readBytes path
    let frame ← decodeFrame bytes
    let rows ← sourceRowsAndDigests sha256 frame
    return (record, sha256 bytes, rows.map Prod.snd)

/-- The report of a verification that has found agreement. -/
def passReport (target : ReplicaTarget) (evidence : PostgresDatabaseConformanceEvidence) :
    PostgresConformanceReport where
  status := "PASS"
  checks := ["consumer", "digest_index", "feature_values", "roles", "schema", "session", "source",
    "state", "summary", "temporal"]
  summaries := [("consumer_row_count", target.summary.rowCount.toNat),
    ("digest_row_count", target.digestIndex.rows.length),
    ("feature_value_row_count", evidence.featureValueRowCount),
    ("role_count", evidence.roleCount), ("schema_table_count", evidence.schemaTableCount),
    ("temporal_probe_count", evidence.temporalProbeCount)]

/-- The report of a verification that has raised. -/
def failReport : PostgresConformanceReport where
  status := "FAIL"
  checks := ["verification_failed"]
  summaries := []

/-- **`GoldPostgresConformanceVerifier.verify`.** -/
def verify (env : GoldPostgresConformanceVerifier) : Transaction PostgresConformanceReport :=
  tryCatch (do
    let prepared ← ofExcept (verificationSource sha256 decodeFrame env)
    let evidence ← ofExcept env.inspect
    let target ← runLocked (readTarget sha256)
    ofExcept (assertAgreement prepared.1 prepared.2.1 prepared.2.2 target)
    return passReport target evidence) (fun _ => pure failReport)

/-- What the verifier reads of a database, when no query fails. -/
def targetOf (db : Replica) : Except PyError ReplicaTarget := do
  let state ← storedState db postgresDatasetId
  let digestIndex ← storedDigests db postgresDatasetId
  let consumerDigests ← consumerDigests sha256 db.raw
  let summary ← targetSummary db
  return ⟨state, digestIndex, consumerDigests, summary⟩

/-- **The agreement check on a database.** -/
def agreement (record : GoldCatalogRecord) (sourceSha256 : Sha256Hex)
    (source : KeyedTable Timestamp Sha256Hex) (db : Replica) : Except PyError Unit := do
  let target ← targetOf sha256 db
  assertAgreement record sourceSha256 source target

end Verify

variable {sha256 : Bytes → Sha256Hex} {decodeFrame : Bytes → Except PyError GoldFrame}
  {source : KeyedTable Timestamp (WideRow Float64 × Sha256Hex)} {db : Replica}
  {record : GoldCatalogRecord} {bytes : Bytes} {env : GoldPostgresDeltaSync}

/-! ## What agrees -/

/-- What the verifier reads is what is there. -/
theorem targetOf_eq_ok {target : ReplicaTarget} : targetOf sha256 db = .ok target
    ↔ storedState db postgresDatasetId = .ok target.state
      ∧ storedDigests db postgresDatasetId = .ok target.digestIndex
      ∧ consumerDigests sha256 db.raw = .ok target.consumerDigests
      ∧ targetSummary db = .ok target.summary := by
  unfold targetOf
  simp only [bind_eq_ok]
  constructor
  · rintro ⟨state, hstate, index, hindex, consumer, hconsumer, summary, hsummary, h⟩
    cases h
    exact ⟨hstate, hindex, hconsumer, hsummary⟩
  · rintro ⟨hstate, hindex, hconsumer, hsummary⟩
    exact ⟨_, hstate, _, hindex, _, hconsumer, _, hsummary, rfl⟩

/-- A state is that of a build if its fields are, but for the time of the
synchronization. -/
theorem stateAgrees_iff {expected : GoldTargetSummary} {state : GoldSyncState}
    {sourceSha256 : Sha256Hex} : stateAgrees record sourceSha256 expected state = true
    ↔ state.sourceBuildId = record.buildId ∧ state.dataSha256 = sourceSha256
      ∧ state.schemaVersion = record.schemaVersion ∧ state.featureVersion = record.featureVersion
      ∧ state.rowCount = expected.rowCount ∧ state.minTimestamp = expected.minTimestamp
      ∧ state.maxTimestamp = expected.maxTimestamp := by
  simp only [stateAgrees, Bool.and_eq_true, beq_iff_eq, and_assoc, Subtype.ext_iff]

/-- The checks of the agreement, at once. -/
theorem assertAgreement_eq_ok {sourceSha256 : Sha256Hex}
    {digests : KeyedTable Timestamp Sha256Hex} {target : ReplicaTarget} :
    assertAgreement record sourceSha256 digests target = .ok ()
      ↔ target.digestIndex = digests ∧ target.consumerDigests = digests
        ∧ expectedSummary record = .ok target.summary
        ∧ ∃ state, target.state = some state
          ∧ stateAgrees record sourceSha256 target.summary state = true := by
  unfold assertAgreement
  simp only [bind_eq_ok, check_eq_ok, exists_const]
  constructor
  · rintro ⟨rfl, hconsumer, expected, hexpected, ⟨rfl, hsome⟩, hstate⟩
    obtain ⟨state, hstate'⟩ := Option.isSome_iff_exists.mp hsome
    rw [hstate', Option.any_some] at hstate
    exact ⟨rfl, hconsumer.symm, hexpected, state, hstate', hstate⟩
  · rintro ⟨rfl, hconsumer, hexpected, state, hstate, hagrees⟩
    refine ⟨rfl, hconsumer.symm, _, hexpected, ⟨rfl, ?_⟩, ?_⟩
    · rw [hstate]
      rfl
    · rw [hstate, Option.any_some]
      exact hagrees

/-- The metadata of a record are those of some source rows. -/
structure RecordDescribes (record : GoldCatalogRecord)
    (source : KeyedTable Timestamp (WideRow Float64 × Sha256Hex)) : Prop where
  schemaVersion : record.schemaVersion = goldSchemaVersion
  featureVersion : record.featureVersion = goldFeatureVersion
  rowCount : record.rowCount = some (source.rows.length : ℤ)
  minTimestamp : record.minTimestamp = source.keys.head?.map PyDatetime.utc
  maxTimestamp : record.maxTimestamp = source.keys.getLast?.map PyDatetime.utc

theorem CurrentBuild.recordDescribes (h : CurrentBuild sha256 decodeFrame env record bytes source) :
    RecordDescribes record source := by
  obtain ⟨records, -, hselect⟩ := h.selected
  obtain ⟨frame, -, hmetadata, hrows⟩ := h.rows
  obtain ⟨hschema, hfeature⟩ := selectCurrentSyncRecord_versions hselect
  obtain ⟨hcount, hmin, hmax⟩ := metadata_of_sourceRows hmetadata hrows
  exact ⟨hschema, hfeature, hcount, hmin, hmax⟩

theorem utcInstant?_map (t : Option Timestamp) : utcInstant? (t.map PyDatetime.utc) = .ok t := by
  cases t <;> rfl

theorem RecordDescribes.expectedSummary_eq (h : RecordDescribes record source) :
    expectedSummary record
      = .ok ⟨source.rows.length, source.keys.head?, source.keys.getLast?⟩ := by
  unfold expectedSummary
  rw [h.rowCount, h.minTimestamp, h.maxTimestamp, utcInstant?_map, utcInstant?_map]
  exact bind_eq_ok.mpr ⟨(), check_eq_ok.mpr (Int.natCast_nonneg _), rfl⟩

/-- **What the verifier accepts**: the replicas that hold the build, replicated at some
time. -/
theorem agreement_eq_ok_iff (h : RecordDescribes record source) :
    agreement sha256 record (sha256 bytes) (source.map Prod.snd) db = .ok ()
      ↔ ∃ now, HoldsBuild sha256 db source (buildState sha256 record bytes source now) := by
  unfold agreement
  simp only [bind_eq_ok, targetOf_eq_ok, assertAgreement_eq_ok, h.expectedSummary_eq]
  constructor
  · rintro ⟨target, ⟨hstored, hindex, hconsumer, hsummary⟩, hindex', hconsumer', hexpected, state,
      hstate, hagrees⟩
    have hexpected := Except.ok.inj hexpected
    obtain ⟨hbuild, hsha, hschema, hfeature, hcount, hmin, hmax⟩ := stateAgrees_iff.mp hagrees
    rw [← hexpected] at hcount hmin hmax
    refine ⟨.utc state.syncedAtUtc, hindex' ▸ hindex, hconsumer' ▸ hconsumer, ?_⟩
    -- the stored row is that of the state, and its fields are those of the build
    rw [hstate] at hstored
    unfold storedState at hstored
    cases hrow : db.syncState postgresDatasetId with
    | none => rw [hrow] at hstored; cases hstored
    | some row =>
      rw [hrow] at hstored
      cases hvalid : GoldSyncState.validate row with
      | error e => simp only [hvalid] at hstored; cases hstored
      | ok state' =>
        simp only [hvalid] at hstored
        obtain rfl : state' = state := Option.some.inj (Except.ok.inj hstored)
        rw [← GoldSyncState.toRow_of_validate hvalid, GoldSyncState.toRow, hbuild, hsha, hschema,
          hfeature, hcount, hmin, hmax, h.schemaVersion, h.featureVersion]
        rfl
  · rintro ⟨now, hholds⟩
    refine ⟨⟨some (buildState sha256 record bytes source now), source.map Prod.snd,
      source.map Prod.snd, ⟨source.rows.length, source.keys.head?, source.keys.getLast?⟩⟩,
      ⟨storedState_eq_ok (some _) hholds.state, hholds.index, hholds.consumer,
        Agrees.targetSummary_eq ⟨hholds.index, hholds.consumer⟩⟩, rfl, rfl, rfl, _, rfl, ?_⟩
    exact stateAgrees_iff.mpr ⟨rfl, rfl, h.schemaVersion.symm, h.featureVersion.symm, rfl, rfl, rfl⟩

/-! ## A validated current build -/

/-- **A validated current build**, as the verifier finds it: a record of a catalog that
its checks accept, with an intact bundle, in a database with the expected schema, and a
data file whose rows have digests. Whether the record describes the rows is left open. -/
structure ValidatedBuild (sha256 : Bytes → Sha256Hex)
    (decodeFrame : Bytes → Except PyError GoldFrame) (env : GoldPostgresDeltaSync)
    (record : GoldCatalogRecord) (bytes : Bytes)
    (source : KeyedTable Timestamp (WideRow Float64 × Sha256Hex)) : Prop where
  selected : ∃ records, env.catalog = .ok records ∧ WellFormedCatalog records
    ∧ selectCurrentSyncRecord records = .ok record
  bundle : env.source.validateBundle record = .ok ()
  preflight : env.preflightSchema = .ok ()
  file : ∃ path, record.dataPath = some path ∧ env.source.readBytes path = .ok bytes
  rows : ∃ frame, decodeFrame bytes = .ok frame ∧ sourceRowsAndDigests sha256 frame = .ok source

/-- The selected record is a selectable record of the catalog. -/
theorem selectCurrentSyncRecord_selectable {records : List GoldCatalogRecord}
    (h : selectCurrentSyncRecord records = .ok record) :
    record ∈ records ∧ record.selectableComplete = true := by
  obtain ⟨record', hstrict, _, -, _, -, h⟩ := by
    simpa only [selectCurrentSyncRecord, bind_eq_ok, check_eq_ok] using h
  cases h
  unfold strictCurrent singleCurrent at hstrict
  split at hstrict
  · cases hstrict
  · cases hstrict
  · rename_i current hcurrent
    split at hcurrent
    · cases hcurrent
    · rename_i r hfilter
      obtain rfl := Option.some.inj (Except.ok.inj hcurrent)
      have hmem : r ∈ records := List.mem_of_mem_filter (hfilter ▸ List.mem_singleton_self r)
      split_ifs at hstrict with hselectable
      obtain rfl := Except.ok.inj hstrict
      rw [Bool.not_eq_true'] at hselectable
      exact ⟨hmem, Bool.eq_true_of_not_eq_false hselectable⟩
    · cases hcurrent

theorem ValidatedBuild.rowCount_isSome
    (h : ValidatedBuild sha256 decodeFrame env record bytes source) :
    record.rowCount.isSome = true := by
  obtain ⟨records, -, hwf, hselect⟩ := h.selected
  obtain ⟨hmem, hselectable⟩ := selectCurrentSyncRecord_selectable hselect
  simp only [GoldCatalogRecord.selectableComplete, Bool.and_eq_true, beq_iff_eq,
    Option.isNone_iff_eq_none] at hselectable
  exact ((hwf.records_wellFormed _ hmem).complete_artifacts hselectable.1.1.1 hselectable.1.2).2.1

/-- The path of a selected record is not empty, so that the synchronizer accepts it too. -/
theorem ValidatedBuild.requiredDataPath_eq
    (h : ValidatedBuild sha256 decodeFrame env record bytes source) {path : String}
    (hpath : record.dataPath = some path) : requiredDataPath record = .ok path := by
  obtain ⟨records, -, -, hselect⟩ := h.selected
  have hselectable := (selectCurrentSyncRecord_selectable hselect).2
  simp only [GoldCatalogRecord.selectableComplete, GoldCatalogRecord.artifactPathsComplete,
    Bool.and_eq_true, hpath, GoldCatalogRecord.pathPresent, Option.any_some, bne_iff_ne]
    at hselectable
  simp only [requiredDataPath, hpath]
  exact if_neg hselectable.2.1.1

theorem ValidatedBuild.validateBundle_eq
    (h : ValidatedBuild sha256 decodeFrame env record bytes source) :
    validateBundle env.source record = .ok () := by
  rw [validateBundle, h.bundle]

/-- **A frame that its record describes** passes the metadata checks. -/
theorem validateFrameMetadata_eq_ok {frame : GoldFrame} (h : RecordDescribes record source)
    (hrows : sourceRowsAndDigests sha256 frame = .ok source) :
    validateFrameMetadata frame record = .ok () := by
  obtain ⟨table, htable, htraverse⟩ := bind_eq_ok.mp hrows
  obtain ⟨hmem, hlength⟩ := sourceTable_eq_ok htable
  have hkeys : source.keys = table.keys := KeyedTable.keys_traverse htraverse
  have hcount : frame.rows.length = source.rows.length := by
    rw [← hlength, ← KeyedTable.keys_length, ← KeyedTable.keys_length, hkeys]
  have hmin := KeyedTable.min?_eq_head?_keys hmem
  have hmax := KeyedTable.max?_eq_getLast?_keys hmem
  simp only [validateFrameMetadata, h.rowCount, h.minTimestamp, h.maxTimestamp, hcount, hmin, hmax,
    hkeys]
  rw [if_neg (not_not.mpr rfl), if_neg (by simp)]

/-- **If a replica agrees with the record, the record describes the rows**: the count and
the bounds of the consumer rows are those of the rows, since the digests are. -/
theorem ValidatedBuild.recordDescribes
    (h : ValidatedBuild sha256 decodeFrame env record bytes source)
    (hagreement : agreement sha256 record (sha256 bytes) (source.map Prod.snd) db = .ok ()) :
    RecordDescribes record source := by
  obtain ⟨target, htarget, hassert⟩ := bind_eq_ok.mp hagreement
  obtain ⟨-, -, hconsumer, hsummary⟩ := targetOf_eq_ok.mp htarget
  obtain ⟨-, hsame, hexpected, -⟩ := assertAgreement_eq_ok.mp hassert
  rw [targetSummary_eq_ok hsummary, keys_of_consumerDigests (hsame ▸ hconsumer),
    KeyedTable.keys_length] at hexpected
  obtain ⟨rowCount, hcount⟩ := Option.isSome_iff_exists.mp h.rowCount_isSome
  obtain ⟨records, -, -, hselect⟩ := h.selected
  obtain ⟨hschema, hfeature⟩ := selectCurrentSyncRecord_versions hselect
  simp only [expectedSummary, hcount, Option.getD_some, bind_eq_ok] at hexpected
  obtain ⟨_, -, minTimestamp, hmin, maxTimestamp, hmax, heq⟩ := hexpected
  obtain ⟨hcount', rfl, rfl⟩ := GoldTargetSummary.mk.inj (Except.ok.inj heq)
  exact ⟨hschema, hfeature, hcount.trans (congrArg some hcount'), utcInstant?_eq_ok hmin,
    utcInstant?_eq_ok hmax⟩

/-- A validated build whose record describes its rows passes all the checks of the
synchronizer. -/
theorem ValidatedBuild.currentBuild
    (h : ValidatedBuild sha256 decodeFrame env record bytes source)
    (hdescribes : RecordDescribes record source) :
    CurrentBuild sha256 decodeFrame env record bytes source := by
  obtain ⟨records, hcatalog, -, hselect⟩ := h.selected
  obtain ⟨path, hpath, hbytes⟩ := h.file
  obtain ⟨frame, hdecode, hrows⟩ := h.rows
  exact ⟨⟨records, hcatalog, hselect⟩, h.validateBundle_eq, h.preflight,
    ⟨path, h.requiredDataPath_eq hpath, hbytes⟩,
    ⟨frame, hdecode, validateFrameMetadata_eq_ok hdescribes hrows, hrows⟩⟩

/-- The synchronizer and the verifier find the same build. -/
theorem ValidatedBuild.unique {record' : GoldCatalogRecord} {bytes' : Bytes}
    {source' : KeyedTable Timestamp (WideRow Float64 × Sha256Hex)}
    (h : ValidatedBuild sha256 decodeFrame env record bytes source)
    (h' : CurrentBuild sha256 decodeFrame env record' bytes' source') :
    record' = record ∧ bytes' = bytes ∧ source' = source := by
  obtain ⟨records, hcatalog, -, hselect⟩ := h.selected
  obtain ⟨records', hcatalog', hselect'⟩ := h'.selected
  obtain rfl := Except.ok.inj (hcatalog.symm.trans hcatalog')
  obtain rfl := Except.ok.inj (hselect.symm.trans hselect')
  obtain ⟨path, hpath, hbytes⟩ := h.file
  obtain ⟨path', hpath', hbytes'⟩ := h'.file
  obtain rfl := Except.ok.inj ((h.requiredDataPath_eq hpath).symm.trans hpath')
  obtain rfl := Except.ok.inj (hbytes.symm.trans hbytes')
  obtain ⟨frame, hdecode, hrows⟩ := h.rows
  obtain ⟨frame', hdecode', -, hrows'⟩ := h'.rows
  obtain rfl := Except.ok.inj (hdecode.symm.trans hdecode')
  exact ⟨rfl, rfl, Except.ok.inj (hrows'.symm.trans hrows)⟩

/-! ## The verifier -/

section Verifier

variable {conformance : GoldPostgresConformanceVerifier} {s : Session}

/-- The preparation of the verifier finds a validated build. -/
theorem ValidatedBuild.verificationSource_eq
    (h : ValidatedBuild sha256 decodeFrame env record bytes source)
    (hcatalog : conformance.catalog = env.catalog) (hsource : conformance.source = env.source) :
    verificationSource sha256 decodeFrame conformance
      = .ok (record, sha256 bytes, source.map Prod.snd) := by
  obtain ⟨records, hrecords, -, hselect⟩ := h.selected
  obtain ⟨path, hpath, hbytes⟩ := h.file
  obtain ⟨frame, hdecode, hrows⟩ := h.rows
  simp only [verificationSource, hcatalog, hsource]
  refine bind_eq_ok.mpr ⟨_, hrecords, bind_eq_ok.mpr ⟨_, hselect, ?_⟩⟩
  simp only [hpath]
  exact bind_eq_ok.mpr ⟨_, h.bundle, bind_eq_ok.mpr ⟨_, hbytes, bind_eq_ok.mpr ⟨_, hdecode,
    bind_eq_ok.mpr ⟨_, hrows, rfl⟩⟩⟩⟩

theorem succeeds_readTarget {target : ReplicaTarget} (h : targetOf sha256 s.replica = .ok target) :
    Succeeds (readTarget sha256) s (fun result s' => result = target ∧ s' = s) := by
  obtain ⟨hstate, hindex, hconsumer, hsummary⟩ := targetOf_eq_ok.mp h
  unfold readTarget
  refine succeeds_bind (succeeds_query hstate (succeeds_bind (succeeds_query hindex ?_)))
  refine succeeds_bind (succeeds_query hconsumer (succeeds_bind (succeeds_query hsummary ?_)))
  exact succeeds_pure ⟨rfl, rfl⟩

theorem wp_readTarget {s : Session} :
    wp (readTarget sha256)
      ⟨fun result s' => targetOf sha256 s.replica = .ok result ∧ s' = s, fun _ _ => True,
        fun _ => True⟩ s := by
  unfold readTarget
  refine wp_bind (wp_query (fun state hstate => ?_) (fun _ => trivial) trivial)
  refine wp_bind (wp_query (fun index hindex => ?_) (fun _ => trivial) trivial)
  refine wp_bind (wp_query (fun consumer hconsumer => ?_) (fun _ => trivial) trivial)
  refine wp_bind (wp_query (fun summary hsummary => ?_) (fun _ => trivial) trivial)
  exact wp_pure ⟨targetOf_eq_ok.mpr ⟨hstate, hindex, hconsumer, hsummary⟩, rfl⟩

/-- A verification only looks. -/
theorem moves_verify (conformance : GoldPostgresConformanceVerifier) :
    Moves (· = ·) (verify sha256 decodeFrame conformance) := by
  have hread : Moves (· = ·) (runLocked (readTarget sha256)) := fun s =>
    wp_runLocked (wp_mono wp_readTarget (fun _ _ h => h.2.symm) (fun _ _ h => h) (fun _ h => h))
      (fun _ => rfl) rfl
  refine moves_tryCatch (moves_bind (moves_ofExcept _) (fun prepared => ?_))
    (fun _ => moves_pure _)
  refine moves_bind (moves_ofExcept _) (fun evidence => moves_bind hread (fun target => ?_))
  exact moves_bind (moves_ofExcept _) (fun _ => moves_pure _)

/-- **A verification passes if the replica agrees**, the inspector finds nothing wrong
and no query fails. It changes nothing. -/
theorem succeeds_verify (h : ValidatedBuild sha256 decodeFrame env record bytes source)
    (hcatalog : conformance.catalog = env.catalog) (hsource : conformance.source = env.source)
    {evidence : PostgresDatabaseConformanceEvidence} (hinspect : conformance.inspect = .ok evidence)
    (hagreement : agreement sha256 record (sha256 bytes) (source.map Prod.snd) s.replica
      = .ok ()) :
    Succeeds (verify sha256 decodeFrame conformance) s
      (fun report s' => report.status = "PASS" ∧ s' = s) := by
  obtain ⟨target, htarget, hassert⟩ := bind_eq_ok.mp hagreement
  unfold verify
  refine Succeeds.tryCatch (succeeds_bind (succeeds_ofExcept
    (h.verificationSource_eq hcatalog hsource) (succeeds_bind (succeeds_ofExcept hinspect ?_))))
  refine succeeds_bind (succeeds_runLocked ((succeeds_readTarget htarget).mono ?_))
  rintro _ _ ⟨rfl, rfl⟩
  exact succeeds_bind (succeeds_ofExcept hassert (succeeds_pure ⟨rfl, rfl⟩))

end Verifier

/-! ## Synchronizing what is there already -/

section Resync

variable {now : PyDatetime} {s : Session}

theorem writeDelta_of_isEmpty {plan : GoldDeltaPlan} (h : plan.isEmpty = true) :
    writeDelta postgresDatasetId plan = pure () := by
  obtain ⟨⟨hinserts, hupdates⟩, hdeletes⟩ : (plan.inserts = [] ∧ plan.updates = [])
      ∧ plan.deletes = [] := by
    simpa only [GoldDeltaPlan.isEmpty, Bool.and_eq_true, List.isEmpty_iff] using h
  simp only [writeDelta, h, GoldDeltaPlan.mutations, hinserts, hupdates, hdeletes]
  rfl

/-- The delta from a source to its own digests. -/
theorem deltaPlan_self_isEmpty (source : KeyedTable Timestamp (WideRow Float64 × Sha256Hex)) :
    (deltaPlan source (source.map Prod.snd)).isEmpty = true := isEmpty_deltaPlan.mpr rfl

theorem deltaPlan_self_mutations : (deltaPlan source (source.map Prod.snd)).mutations = [] := by
  have h := deltaPlan_self_isEmpty source
  simp only [GoldDeltaPlan.isEmpty, Bool.and_eq_true, List.isEmpty_iff] at h
  rw [GoldDeltaPlan.mutations, h.1.1, h.1.2, List.append_nil]

/-- **Only the time of the synchronization changes**: the result counts no change, and
the replica is what it was but for that time in its state. -/
def Restamps (env : GoldPostgresDeltaSync) (record : GoldCatalogRecord)
    (source : KeyedTable Timestamp (WideRow Float64 × Sha256Hex)) (before : Replica)
    (result : GoldSyncResult) (after : Replica) : Prop :=
  result = ⟨record.buildId, 0, 0, 0, source.rows.length⟩
    ∧ ∃ row, before.syncState postgresDatasetId = some row
      ∧ after = before.setState postgresDatasetId { row with syncedAtUtc := env.now.instant }

theorem HoldsBuild.restamps
    (hholds : HoldsBuild sha256 db source (buildState sha256 record bytes source now)) :
    Restamps env record source db (syncResult record.buildId source (source.map Prod.snd))
      (db.setState postgresDatasetId (buildState sha256 record bytes source env.now).toRow) :=
  ⟨syncResult_self record.buildId, _, hholds.state, rfl⟩

/-- The checks of the locked part let the build through that is there already. -/
theorem verifyTarget_self :
    verifyTarget (some (buildState sha256 record bytes source now))
      (buildState sha256 record bytes source env.now) (source.map Prod.snd)
      (source.map Prod.snd) = pure () := by
  have hcount : ((source.map Prod.snd).rows.length : ℤ) = source.rows.length := by
    rw [← KeyedTable.keys_length, KeyedTable.keys_map, KeyedTable.keys_length]
  have hupgrade : isSchemaUpgrade (some (buildState sha256 record bytes source now))
      (buildState sha256 record bytes source env.now) = false := isSchemaUpgrade_eq_false rfl
  have hstate : ∀ state ∈ some (buildState sha256 record bytes source now),
      ((source.map Prod.snd).rows.length : ℤ) = state.rowCount := by
    rintro state hs
    obtain rfl := Option.some.inj hs
    exact hcount
  simp only [verifyTarget, hupgrade, requireMatchingDigests, require]
  rw [if_pos (fun hp => by cases hp), if_pos (fun hp => by cases hp), if_pos hstate]
  rfl

theorem verifyPlan_self :
    verifyPlan (some (buildState sha256 record bytes source now))
      (buildState sha256 record bytes source env.now) (source.map Prod.snd)
      (deltaPlan source (source.map Prod.snd)) = pure () := by
  have hsame : sameData (buildState sha256 record bytes source now)
      (buildState sha256 record bytes source env.now) = true :=
    (sameData_buildState (fun _ => rfl)).mpr rfl
  simp only [verifyPlan, if_pos hsame, requireMatchingDigests]
  exact if_pos rfl

theorem succeeds_applyDelta_self {state : GoldSyncState}
    (hagree : Agrees sha256 s.replica (source.map Prod.snd)) (hstate : Describes state source) :
    Succeeds (applyDelta sha256 postgresDatasetId (deltaPlan source (source.map Prod.snd)) state) s
      (fun _ s' => s'.replica = s.replica.setState postgresDatasetId state.toRow) := by
  unfold applyDelta
  refine succeeds_bind (succeeds_require rfl (succeeds_bind (succeeds_require ?_ ?_)))
  · rw [deltaPlan_self_mutations]
    rfl
  rw [writeDelta_of_isEmpty (deltaPlan_self_isEmpty source)]
  refine succeeds_bind (succeeds_pure ?_)
  exact succeeds_bind (succeeds_verifyDelta hagree rfl hstate (succeeds_write rfl))

theorem wp_applyDelta_self {state : GoldSyncState} :
    wp (applyDelta sha256 postgresDatasetId (deltaPlan source (source.map Prod.snd)) state)
      ⟨fun _ s' => s'.replica = s.replica.setState postgresDatasetId state.toRow,
        fun _ _ => True, fun _ => True⟩ s := by
  unfold applyDelta
  refine wp_bind (wp_require (fun _ => ?_) (fun _ => trivial))
  refine wp_bind (wp_require (fun _ => ?_) (fun _ => trivial))
  rw [writeDelta_of_isEmpty (deltaPlan_self_isEmpty source)]
  refine wp_bind (wp_pure ?_)
  unfold verifyDelta
  -- the checks after the writes only read
  refine wp_bind (wp_bind (wp_query (fun _ _ => ?_) (fun _ => trivial) trivial))
  refine wp_bind (wp_require (fun _ => ?_) (fun _ => trivial))
  refine wp_bind (wp_query (fun _ _ => ?_) (fun _ => trivial) trivial)
  refine wp_bind (wp_require (fun _ => ?_) (fun _ => trivial))
  refine wp_bind (wp_query (fun _ _ => wp_require (fun _ => ?_) (fun _ => trivial))
    (fun _ => trivial) trivial)
  exact wp_write rfl (fun _ => ⟨trivial, trivial⟩) ⟨trivial, trivial⟩

/-- **The build that is there already is synchronized** without a change, if no effect
fails. -/
theorem succeeds_sync_self
    (hholds : HoldsBuild sha256 s.replica source (buildState sha256 record bytes source now))
    (h : CurrentBuild sha256 decodeFrame env record bytes source)
    (haware : env.now.isAware = true) :
    Succeeds (sync sha256 decodeFrame env) s
      (fun result after => Restamps env record source s.replica result after.replica) := by
  obtain ⟨path, frame, hprepare, hframe, hrows⟩ := h.prepareSync_eq haware
  have hplanned : planGoldDelta sha256 frame (source.map Prod.snd)
      (some (buildState sha256 record bytes source now))
        = .ok (deltaPlan source (source.map Prod.snd)) :=
    planGoldDelta_eq_ok_iff.mpr ⟨source, hrows, (fun hp => nomatch hp), rfl⟩
  refine succeeds_bind (succeeds_ofExcept hprepare (succeeds_runLocked ?_))
  unfold syncLocked
  refine succeeds_bind (succeeds_query (storedState_eq_ok (some _) hholds.state) ?_)
  refine succeeds_bind (succeeds_require (stateCompatible_of_versions rfl rfl) ?_)
  refine succeeds_bind (succeeds_query hholds.index (succeeds_bind (succeeds_query
    hholds.consumer ?_)))
  rw [verifyTarget_self]
  refine succeeds_bind (succeeds_pure ?_)
  refine succeeds_bind (succeeds_ofExcept hframe (succeeds_bind (succeeds_ofExcept hplanned ?_)))
  rw [verifyPlan_self]
  refine succeeds_bind (succeeds_pure ?_)
  refine succeeds_bind ((succeeds_applyDelta_self ⟨hholds.index, hholds.consumer⟩
    ⟨rfl, rfl, rfl⟩).mono (fun _ s' hs' => succeeds_pure ?_))
  rw [hs']
  simpa only [syncResult, deltaPlan, List.length_map] using hholds.restamps

/-- Whatever fails, it is synchronized without a change or not at all. -/
theorem wp_sync_self
    (hholds : HoldsBuild sha256 s.replica source (buildState sha256 record bytes source now))
    (h : CurrentBuild sha256 decodeFrame env record bytes source)
    (haware : env.now.isAware = true) :
    wp (sync sha256 decodeFrame env)
      ⟨fun result after => Restamps env record source s.replica result after.replica,
        fun _ after => after = s, fun after => after = s⟩ s := by
  obtain ⟨path, frame, hprepare, hframe, hrows⟩ := h.prepareSync_eq haware
  have hstored := storedState_eq_ok (some _) hholds.state
  have hplanned : planGoldDelta sha256 frame (source.map Prod.snd)
      (some (buildState sha256 record bytes source now))
        = .ok (deltaPlan source (source.map Prod.snd)) :=
    planGoldDelta_eq_ok_iff.mpr ⟨source, hrows, (fun hp => nomatch hp), rfl⟩
  unfold sync
  refine wp_bind (wp_ofExcept (fun prepared hprepared => ?_) (fun _ _ => rfl))
  obtain rfl := Except.ok.inj (hprepare.symm.trans hprepared)
  refine wp_runLocked ?_ (fun _ => rfl) rfl
  unfold syncLocked
  refine wp_bind (wp_query (fun prior hprior => ?_) (fun _ => trivial) trivial)
  obtain rfl := Except.ok.inj (hstored.symm.trans hprior)
  refine wp_bind (wp_require (fun _ => ?_) (fun _ => trivial))
  refine wp_bind (wp_query (fun targetDigests htarget => ?_) (fun _ => trivial) trivial)
  obtain rfl := Except.ok.inj (hholds.index.symm.trans htarget)
  refine wp_bind (wp_query (fun consumer hconsumer => ?_) (fun _ => trivial) trivial)
  obtain rfl := Except.ok.inj (hholds.consumer.symm.trans hconsumer)
  dsimp only
  rw [verifyTarget_self]
  refine wp_bind (wp_pure ?_)
  refine wp_bind (wp_ofExcept (fun frame' hframe' => ?_) (fun _ _ => trivial))
  obtain rfl := Except.ok.inj (hframe.symm.trans hframe')
  refine wp_bind (wp_ofExcept (fun plan hplan => ?_) (fun _ _ => trivial))
  obtain rfl := Except.ok.inj (hplanned.symm.trans hplan)
  dsimp only
  rw [verifyPlan_self]
  refine wp_bind (wp_pure ?_)
  refine wp_bind (wp_mono wp_applyDelta_self (fun _ s' hs' => wp_pure ?_) (fun _ _ _ => trivial)
    (fun _ _ => trivial))
  dsimp only
  rw [hs']
  simpa only [syncResult, deltaPlan, List.length_map] using hholds.restamps

end Resync

/-! ## Agreement -/

/-- **Synchronizer and verifier agree.** A synchronization that commits leaves a replica
that the verifier passes, for the same record. If the verifier's check passes, the next
synchronization commits, counts no insert, update or delete, and changes nothing but the
time of the synchronization; and if one of its effects fails, it changes nothing. -/
theorem sync_verify_agree (h : ValidatedBuild sha256 decodeFrame env record bytes source)
    (before : Session) :
    wp (sync sha256 decodeFrame env)
      ⟨fun result after => result.sourceBuildId = record.buildId
          ∧ agreement sha256 record (sha256 bytes) (source.map Prod.snd) after.replica = .ok ()
          ∧ ∀ evidence, Succeeds (verify sha256 decodeFrame ⟨env.catalog, env.source, .ok evidence⟩)
              after (fun report s => report.status = "PASS" ∧ s = after),
        fun _ after => after = before, fun after => after = before⟩ before
      ∧ (agreement sha256 record (sha256 bytes) (source.map Prod.snd) before.replica = .ok () →
        env.now.isAware = true →
        Succeeds (sync sha256 decodeFrame env) before
            (fun result after => Restamps env record source before.replica result after.replica)
          ∧ wp (sync sha256 decodeFrame env)
            ⟨fun result after => Restamps env record source before.replica result after.replica,
              fun _ after => after = before, fun after => after = before⟩ before) := by
  constructor
  · refine wp_mono (wp_sync sha256 decodeFrame env before) (fun result after hafter => ?_)
      (fun _ _ h => h) (fun _ h => h)
    obtain ⟨record', bytes', source', hbuild, hresult, hholds⟩ := hafter
    obtain ⟨rfl, rfl, rfl⟩ := h.unique hbuild
    have hagreement := (agreement_eq_ok_iff hbuild.recordDescribes).mpr ⟨env.now, hholds⟩
    exact ⟨hresult, hagreement, fun evidence => succeeds_verify h rfl rfl rfl hagreement⟩
  · intro hagreement haware
    have hdescribes := h.recordDescribes hagreement
    obtain ⟨now, hholds⟩ := (agreement_eq_ok_iff hdescribes).mp hagreement
    have hbuild := h.currentBuild hdescribes
    exact ⟨succeeds_sync_self hholds hbuild haware, wp_sync_self hholds hbuild haware⟩

/-- The first synchronization of a build, and what the verifier and the next one make of
it. -/
theorem sync_verify_agree_sample :
    ∃ source result after,
      ValidatedBuild sampleSha256 sampleDecode (sampleSync (sampleRecord "20260101T000000Z" 1 0) [0])
        (sampleRecord "20260101T000000Z" 1 0) [0] source
      ∧ sync sampleSha256 sampleDecode (sampleSync (sampleRecord "20260101T000000Z" 1 0) [0])
          ⟨emptyReplica, []⟩ [] = (.returned result, after, [])
      ∧ agreement sampleSha256 (sampleRecord "20260101T000000Z" 1 0) (sampleSha256 [0])
          (source.map Prod.snd) after.replica = .ok ()
      ∧ Succeeds (sync sampleSha256 sampleDecode
            (sampleSync (sampleRecord "20260101T000000Z" 1 0) [0])) after
          (fun result s => result.inserted = 0
            ∧ Restamps (sampleSync (sampleRecord "20260101T000000Z" 1 0) [0])
              (sampleRecord "20260101T000000Z" 1 0) source after.replica result s.replica) := by
  obtain ⟨source, result, after, hsource, -, -, hsync, -⟩ := exists_sync_sample
  have hvalid : (sampleRecord "20260101T000000Z" 1 0).validate = .ok () := by decide
  have hwf : WellFormedCatalog [sampleRecord "20260101T000000Z" 1 0] :=
    ⟨List.forall_mem_singleton.mpr (GoldCatalogRecord.validate_eq_ok.mp hvalid), by simp, by decide⟩
  have hbuild : ValidatedBuild sampleSha256 sampleDecode
      (sampleSync (sampleRecord "20260101T000000Z" 1 0) [0])
      (sampleRecord "20260101T000000Z" 1 0) [0] source :=
    ⟨⟨_, rfl, hwf, rfl⟩, rfl, rfl, ⟨"data.parquet", rfl, rfl⟩, ⟨_, rfl, hsource⟩⟩
  have hfirst := (sync_verify_agree hbuild ⟨emptyReplica, []⟩).1 []
  rw [hsync] at hfirst
  obtain ⟨-, hagreement, -⟩ := hfirst
  refine ⟨source, result, after, hbuild, hsync, hagreement, ?_⟩
  exact ((sync_verify_agree hbuild after).2 hagreement rfl).1.mono
    (fun _ _ hs => ⟨by rw [hs.1], hs⟩)
