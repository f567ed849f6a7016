import MacroLoader.AccessControl
import MacroLoader.FeatureCatalog

/-!
# The serving schemas made anew

A reconstruction drops the schemas of the program with everything in them and runs all
migrations again, as the role that owns the schemas. Then it grants the reader what it
reads, as the administrator, checks the schema and commits. The verifier of a replica asks
afterwards what the reader and the writer may do with each table.

It never finds what it requires (`recreate_breaks_roleContract`). The last thing that the
writer has done before the grants is to record a migration, so that it may insert into the
ledger; nothing takes that from it, and the verifier does not allow it. Besides, the last
statements of the reconstruction grant the reader to write to the tables of the
synchronization (`servingGrants`), which the verifier does not allow either.
-/

open AccessControl

/-! ## Names -/

/-- The roles of the program and, by their numbers, all others. -/
inductive RoleName
  /-- `macro_reader` -/
  | reader
  /-- `macro_writer` -/
  | writer
  | other (oid : ℕ)
  deriving DecidableEq, Repr

/-- `_POSTGRES_OWNER_ROLE`. -/
def ownerRole : RoleName := .writer

/-- The schemas of the program and, by their numbers, all others. -/
inductive ServingSchema
  /-- `macro_loader` -/
  | consumer
  /-- `macro_loader_sync` -/
  | sync
  /-- `macro_loader_retired` -/
  | retired
  | other (oid : ℕ)
  deriving DecidableEq, Repr

/-- The tables of the retired schema. -/
inductive RetiredTable
  | fedMacroRaw | fedMacroFeatures | fedPolicyFeaturesDaily | fedPolicySyncState
  | fedPolicyRowHashes | fedLegacyRawColumns
  deriving DecidableEq, Repr

/-- The relations of the program and, by their schemas and numbers, all others. -/
inductive ServingRelation
  /-- `macro_loader.macro_raw` -/
  | consumer
  /-- `macro_loader.macro_features_daily` -/
  | legacyConsumer
  /-- `macro_loader.macro_raw_<series>` -/
  | raw (s : Series)
  /-- `macro_loader.macro_features` -/
  | features
  /-- `macro_loader.macro_features_extended` -/
  | extendedFeatures
  /-- `macro_loader.macro_feature_values` -/
  | featureValues
  /-- `macro_loader.macro_feature_raw_projection` -/
  | rawProjection
  /-- `macro_loader.macro_feature_transform_<series>` -/
  | transform (s : Series)
  /-- `macro_loader_sync.gold_sync_state` -/
  | syncState
  /-- `macro_loader_sync.gold_row_hashes` -/
  | rowHashes
  /-- `macro_loader_sync.schema_migrations` -/
  | schemaMigrations
  /-- `macro_loader_sync.fed_policy_features_daily` -/
  | fedPolicyFeatures
  | retired (t : RetiredTable)
  | other (s : ServingSchema) (oid : ℕ)
  deriving DecidableEq, Repr

/-- The schema a relation is in. -/
def ServingRelation.schema : ServingRelation → ServingSchema
  | .consumer | .legacyConsumer | .raw _ | .features | .extendedFeatures | .featureValues
  | .rawProjection | .transform _ => .consumer
  | .syncState | .rowHashes | .schemaMigrations | .fedPolicyFeatures => .sync
  | .retired _ => .retired
  | .other s _ => s

abbrev ServingStatement := Statement RoleName ServingSchema ServingRelation
abbrev ServingCatalog := Catalog RoleName ServingSchema ServingRelation
abbrev ServingSession := Session RoleName ServingSchema ServingRelation

/-! ## Statements -/

/-- `SELECT, INSERT, UPDATE, DELETE`. -/
def readWrite : List Privilege := [.select, .insert, .update, .delete]

/-- `INSERT, UPDATE, DELETE`. -/
def dml : List Privilege := [.insert, .update, .delete]

/-- `INSERT, UPDATE, DELETE, TRUNCATE`. -/
def tableWrites : List Privilege := [.insert, .update, .delete, .truncate]

abbrev toReader : List (Grantee RoleName) := [.role .reader]
abbrev toWriter : List (Grantee RoleName) := [.role .writer]
abbrev toBoth : List (Grantee RoleName) := [.role .reader, .role .writer]
abbrev toAll : List (Grantee RoleName) := [.everyone, .role .reader, .role .writer]

/-- The raw tables. -/
def rawTables : List ServingRelation := goldSourceSeries.map .raw

/-- `_CONSUMER_DDL`. -/
def consumerDdl : ServingStatement := .create .consumer []

/-- `_FEATURES_VIEW_DDL`. -/
def featuresViewDdl : ServingStatement := .create .features rawTables

/-- `_LEGACY_FEATURES_VIEW_DDL`. -/
def legacyFeaturesViewDdl : ServingStatement := .create .features [.consumer]

/-- `_AVAILABLE_AT_COLUMN_MIGRATION`. -/
def availableAtColumnMigration : List ServingStatement := [.alter .consumer]

/-- `_OHLC_COLUMN_MIGRATION`, and those of other columns. -/
def columnMigration : List ServingStatement := [.alter .consumer]

/-- A view with the comment on it, its owner, and the grants to its readers. -/
def featuresView (ddl : ServingStatement) : List ServingStatement :=
  [ddl, .alter .features, .alterOwner .features ownerRole, .grant [.select] .features toReader,
    .grant [.select] .features toWriter]

/-- `CREATE TABLE IF NOT EXISTS` in the retired schema. -/
def createRetired (t : RetiredTable) : ServingStatement := .create (.retired t) []

/-- The retired schema, which no runtime role is to use. -/
def retiredSchema : List ServingStatement :=
  [.createSchema true .retired none, .alterSchemaOwner .retired ownerRole,
    .revokeOnSchema schemaPrivileges .retired toAll]

/-- `_FED_POLICY_RENAME_MIGRATION`. -/
def fedPolicyRenameMigration : List ServingStatement :=
  List.flatten [retiredSchema,
    [createRetired .fedLegacyRawColumns, .alterOwner (.retired .fedLegacyRawColumns) ownerRole,
      .revoke tablePrivileges (.retired .fedLegacyRawColumns) toAll,
      .plain "DO: archive the retired columns of macro_raw that are there",
      .plain "DO: drop the retired columns of macro_raw that are there"]]

/-- `_CONSUMER_LAYOUT_MIGRATION`. -/
def consumerLayoutMigration : List ServingStatement :=
  [.drop true .consumer, consumerDdl, .grant [.select] .consumer toReader,
    .grant readWrite .consumer toWriter, .revoke dml .consumer toReader]

/-- `_CONSUMER_RENAME_MIGRATION`. -/
def consumerRenameMigration : List ServingStatement := [.renameOver .legacyConsumer .consumer]

/-- `_RAW_ONLY_LAYOUT_MIGRATION`. -/
def rawOnlyLayoutMigration : List ServingStatement :=
  [.drop true .features, .drop true .consumer, consumerDdl, .use [.delete] .syncState [],
    .use [.delete] .rowHashes [], .grant [.select] .consumer toReader,
    .grant readWrite .consumer toWriter, .revoke dml .consumer toReader]

/-- `_LEGACY_FEATURES_VIEW_REBUILD_MIGRATION`. -/
def legacyFeaturesViewRebuildMigration : List ServingStatement :=
  .drop true .features :: featuresView legacyFeaturesViewDdl

/-- What a refresh function is made by. -/
def refreshFunction (name : String) : List ServingStatement :=
  [.plain ("CREATE OR REPLACE FUNCTION " ++ name), .plain ("ALTER FUNCTION OWNER TO " ++ name),
    .plain ("REVOKE ALL ON FUNCTION FROM PUBLIC " ++ name)]

/-- `_FEATURES_VIEW_REFRESH_MIGRATION`. -/
def featuresViewRefreshMigration : List ServingStatement :=
  List.flatten [
    [.alter .consumer, .plain "DROP FUNCTION IF EXISTS refresh_macro_features"],
    refreshFunction "refresh_macro_features_explicit",
    [.grantOnSchema [.usage] .consumer toBoth, .grantOnSchema [.usage] .sync toBoth,
      .grant readWrite .syncState toWriter, .grant readWrite .rowHashes toWriter,
      .grant [.select] .schemaMigrations toWriter, .revoke tablePrivileges .features [.everyone],
      .grant [.select] .features toBoth,
      .plain "GRANT EXECUTE ON FUNCTION refresh_macro_features_explicit"]]

/-- The retired tables, in the order in which they are made. -/
def retiredTables : List RetiredTable :=
  [.fedMacroRaw, .fedMacroFeatures, .fedPolicyFeaturesDaily, .fedPolicySyncState,
    .fedPolicyRowHashes, .fedLegacyRawColumns]

/-- `_RETIRED_FED_DRIFT_CLEANUP_MIGRATION`, with which `_RETIRED_FED_ARCHIVE_MIGRATION` begins. -/
def retiredFedDriftCleanupMigration : List ServingStatement :=
  List.flatten [retiredSchema, retiredTables.map createRetired,
    retiredTables.map (fun t => .alterOwner (.retired t) ownerRole),
    [.plain "DO: archive the retired columns of macro_raw",
      .plain "DO: archive fed_policy_features_daily",
      .plain "DO: archive the retired columns of macro_features",
      .use [.insert, .select, .update] (.retired .fedPolicySyncState) [.syncState],
      .use [.insert, .select, .update] (.retired .fedPolicyRowHashes) [.rowHashes],
      .revokeAllIn .retired toAll, .use [.delete, .select] .syncState [],
      .use [.delete, .select] .rowHashes [], .drop true .fedPolicyFeatures]]

/-- `_RETIRED_FED_ARCHIVE_MIGRATION`. -/
def retiredFedArchiveMigration : List ServingStatement :=
  List.flatten [retiredFedDriftCleanupMigration,
    [.drop true .features, .alter .consumer, legacyFeaturesViewDdl, .alter .features,
      .alterOwner .features ownerRole, .grant [.select] .features toBoth]]

/-- The statements of `_feature_raw_table_migrations` about one raw table. -/
def rawTableMigration (s : Series) : List ServingStatement :=
  [.create (.raw s) [], .use [.insert, .select, .update] (.raw s) [.consumer],
    .alterOwner (.raw s) ownerRole, .grant [.select] (.raw s) toReader,
    .grant readWrite (.raw s) toWriter, .revoke dml (.raw s) toReader]

/-- `_FEATURE_RAW_TABLE_MIGRATION`. -/
def featureRawTableMigration : List ServingStatement :=
  List.flatten [[.drop true .features], goldSourceSeries.flatMap rawTableMigration,
    [.drop false .consumer, .drop true .features], featuresView featuresViewDdl]

/-- A private view: nobody is to read it. -/
def privateView (v : ServingRelation) (sources : List ServingRelation) : List ServingStatement :=
  [.create v sources, .alterOwner v ownerRole, .revoke tablePrivileges v toAll]

/-- `_EXTENDED_FEATURES_MIGRATION`. -/
def extendedFeaturesMigration : List ServingStatement :=
  List.flatten [privateView .rawProjection rawTables,
    extendedRawSeries.flatMap (fun s => privateView (.transform s) [.raw s]),
    [featuresViewDdl, .alter .features, .alterOwner .features ownerRole,
      .grant [.select] .features toBoth,
      .create .extendedFeatures (.rawProjection :: extendedRawSeries.map .transform),
      .alter .extendedFeatures, .alterOwner .extendedFeatures ownerRole,
      .grant [.select] .extendedFeatures toBoth],
    refreshFunction "refresh_macro_features_explicit",
    [.plain "GRANT EXECUTE ON FUNCTION refresh_macro_features_explicit",
      .revoke tablePrivileges .extendedFeatures [.everyone],
      .grant [.select] .extendedFeatures toBoth]]

/-- A long view with its indexes, comment, and grants: nobody is to write to it. -/
def longView (v : ServingRelation) : List ServingStatement :=
  [.create v rawTables, .alterOwner v ownerRole, .alter v, .alter v, .alter v,
    .revoke tablePrivileges v [.everyone], .grant [.select] v toBoth,
    .revoke tableWrites v toBoth]

/-- `_FEATURE_VALUES_MIGRATION`. -/
def featureValuesMigration : List ServingStatement :=
  List.flatten [longView .featureValues, refreshFunction "refresh_macro_feature_values",
    refreshFunction "refresh_macro_features_explicit",
    [.plain "GRANT EXECUTE ON FUNCTION refresh_macro_features_explicit"]]

/-- `_FEATURE_VALUE_REFRESH_FUNCTION` and `_FEATURE_VALUE_REFRESH_CALL`. -/
def featureValueRefreshMigration : List ServingStatement :=
  [.plain "CREATE OR REPLACE FUNCTION refresh_macro_feature_values",
    .plain "SELECT macro_loader.refresh_macro_feature_values()"]

/-- `_RETIRE_WIDE_FEATURE_VIEWS_MIGRATION`. -/
def retireWideFeatureViewsMigration : List ServingStatement :=
  List.flatten [[.drop true .extendedFeatures, .drop true .features],
    extendedRawSeries.map (fun s => .drop true (.transform s)),
    [.drop true .rawProjection, .rename .featureValues .features,
      .plain "ALTER INDEX macro_feature_values_timestamp_feature_uidx",
      .plain "ALTER INDEX macro_feature_values_feature_timestamp_idx", .alter .features,
      .plain "DROP FUNCTION IF EXISTS refresh_macro_feature_values"],
    refreshFunction "refresh_macro_features_explicit",
    [.plain "GRANT EXECUTE ON FUNCTION refresh_macro_features_explicit"]]

/-- `_FEATURE_VALUES_SOURCE_OBSERVATION_REBUILD_MIGRATION` and
`_FEATURE_VALUES_NULL_RESET_REBUILD_MIGRATION`, which differ in the query of the view. -/
def featureValuesRebuildMigration : List ServingStatement :=
  List.flatten [[.drop false .features], longView .features, [.alter .features]]

/-- **`_MIGRATIONS`.** -/
def schemaMigrations : List (List ServingStatement) :=
  [[consumerDdl], [.create .syncState []], [.create .rowHashes []], [.plain "SELECT 1"],
    [.plain "SELECT 1"], [.plain "SELECT 1"], fedPolicyRenameMigration, consumerLayoutMigration,
    consumerRenameMigration, featuresView legacyFeaturesViewDdl, rawOnlyLayoutMigration,
    legacyFeaturesViewRebuildMigration, featuresViewRefreshMigration,
    legacyFeaturesViewRebuildMigration, legacyFeaturesViewRebuildMigration, [.plain "SELECT 1"],
    [.plain "SELECT 1"], legacyFeaturesViewRebuildMigration,
    availableAtColumnMigration ++ legacyFeaturesViewRebuildMigration, retiredFedArchiveMigration,
    legacyFeaturesViewRebuildMigration, legacyFeaturesViewRebuildMigration,
    legacyFeaturesViewRebuildMigration,
    availableAtColumnMigration ++ columnMigration ++ legacyFeaturesViewRebuildMigration,
    columnMigration ++ legacyFeaturesViewRebuildMigration, legacyFeaturesViewRebuildMigration,
    legacyFeaturesViewRebuildMigration, columnMigration ++ legacyFeaturesViewRebuildMigration,
    columnMigration ++ legacyFeaturesViewRebuildMigration,
    columnMigration ++ legacyFeaturesViewRebuildMigration, featureRawTableMigration,
    extendedFeaturesMigration, retiredFedDriftCleanupMigration, featureValuesMigration,
    featureValueRefreshMigration, retireWideFeatureViewsMigration, featureValuesRebuildMigration,
    featureValuesRebuildMigration]

/-! ## The reconstruction -/

/-- `_session_configuration`. -/
def sessionConfiguration : List ServingStatement :=
  [.plain "SET application_name", .plain "SET TIME ZONE", .plain "SET lock_timeout",
    .plain "SET statement_timeout", .plain "SET idle_in_transaction_session_timeout",
    .plain "SET jit = off"]

/-- A schema that is made for the owner, and that the reader may use. -/
def servingSchema (s : ServingSchema) : List ServingStatement :=
  [.createSchema false s (some ownerRole), .revokeOnSchema schemaPrivileges s [.everyone],
    .revokeOnSchema [.create] s toReader, .grantOnSchema [.usage] s toReader]

/-- `INSERT INTO schema_migrations (version, applied_at_utc)`. -/
def recordMigration : ServingStatement := .use [.insert] .schemaMigrations []

/-- The migrations, each with its record. -/
def recordedMigrations (migrations : List (List ServingStatement)) : List ServingStatement :=
  migrations.flatMap (fun statements => statements ++ [recordMigration])

/-- What is granted after the migrations. -/
def servingGrants : List ServingStatement :=
  List.flatten [rawTables.map (fun t => .grant [.select] t toReader),
    [.grant readWrite .syncState toReader, .grant readWrite .rowHashes toReader,
      .grant [.select] .schemaMigrations toReader]]

/-- The statements of `recreate`. -/
def recreateStatements : List ServingStatement :=
  List.flatten [sessionConfiguration, [.dropSchema .consumer, .dropSchema .sync],
    servingSchema .consumer, servingSchema .sync,
    [.setRole ownerRole, .create .schemaMigrations []], recordedMigrations schemaMigrations,
    [.resetRole], servingGrants]

/-- **The server**, the administrator that is logged in, and the part of
`_assert_schema_contract` that is not about grants. -/
structure ServingServer extends Server RoleName ServingSchema ServingRelation where
  admin : RoleName
  schemaOf_eq : schemaOf = ServingRelation.schema
  assertObjects : ServingCatalog → Except Failure Unit

section Recreate

variable (server : ServingServer)

/-- The reader and the writer may read a relation, and not everyone may. -/
def assertReadGrants (entry : Entry RoleName) : Except Failure Unit := do
  permit (entry.allows server.roles .reader .select)
  permit (entry.allows server.roles .writer .select)
  permit (!entry.allowsEveryone .select)

/-- `_assert_feature_values_table_contract`, of which this is about the grants: neither the
reader nor everyone may write to the features. -/
def assertFeatureValuesTableContract (db : ServingCatalog) : Except Failure Unit := do
  let entry ← present (db.relations.lookup .features)
  assertReadGrants server entry
  permit (!tableWrites.any (entry.allows server.roles .reader))
  permit (!tableWrites.any entry.allowsEveryone)

/-- `_assert_schema_contract`: the objects, and who may read the raw tables and the features. -/
def assertSchemaContract (db : ServingCatalog) : Except Failure Unit := do
  server.assertObjects db
  rawTables.forM (fun t => do assertReadGrants server (← present (db.relations.lookup t)))
  assertFeatureValuesTableContract server db

/-- `PostgresGoldSchemaReconstructor.recreate`, up to its end. -/
def recreateSession (db : ServingCatalog) : Except Failure ServingSession := do
  let session ← executeAll server.toServer ⟨db, server.admin, server.admin, []⟩ recreateStatements
  assertSchemaContract server session.catalog
  execute server.toServer session (.plain "COMMIT")

/-- **`PostgresGoldSchemaReconstructor.recreate`**: what it returns, and the database after
it. Unless it commits, the database is what it was. -/
def recreate (db : ServingCatalog) : Except PyError Unit × ServingCatalog :=
  match recreateSession server db with
  | .ok session => (.ok (), session.catalog)
  | .error _ =>
    (.error ⟨.postgresGoldRepositoryError, "PostgreSQL Gold schema reconstruction failed"⟩, db)

end Recreate

/-! ## The verifier -/

/-- The tables of `_SCHEMA_SPECIFICATION`. -/
def schemaSpecification : List ServingRelation :=
  rawTables ++ [.syncState, .rowHashes, .schemaMigrations]

/-- What the verifier requires of a role and a table: whether it has the privileges of
`readWrite`, one by one. -/
def requiredPrivileges (table : ServingRelation) : RoleName → List Bool
  | .reader => [true, false, false, false]
  | _ =>
    let writerHasDml := decide (table ≠ .schemaMigrations)
    [true, writerHasDml, writerHasDml, writerHasDml]

/-- `has_table_privilege`, for the privileges of `readWrite`. -/
def effectivePrivileges (roles : Roles RoleName) (db : ServingCatalog) (r : RoleName)
    (table : ServingRelation) : Option (List Bool) :=
  readWrite.mapM (fun p => db.hasTablePrivilege roles r table p)

/-- The last loop of `_assert_roles`. -/
def assertTableGrants (roles : Roles RoleName) (db : ServingCatalog) : Except PyError Unit :=
  schemaSpecification.forM (fun table => [RoleName.reader, .writer].forM (fun r =>
    match effectivePrivileges roles db r table with
    | none => .error ⟨.databaseError, "undefined table"⟩
    | some row =>
      check (row = requiredPrivileges table r) (.valueError "runtime table grants differ")))

/-- **The role contract**: the reader and the writer have the required privileges on each
table of the specification, and no others. -/
def RoleContract (roles : Roles RoleName) (db : ServingCatalog) : Prop :=
  ∀ table ∈ schemaSpecification, ∀ r ∈ [RoleName.reader, .writer],
    effectivePrivileges roles db r table = some (requiredPrivileges table r)

/-- The effective privileges are those that the role has, one by one. -/
theorem effectivePrivileges_eq_some {roles : Roles RoleName} {db : ServingCatalog} {r : RoleName}
    {table : ServingRelation} {row : List Bool} (h : effectivePrivileges roles db r table = some row) :
    List.Forall₂ (fun p b => db.hasTablePrivilege roles r table p = some b) readWrite row := by
  unfold effectivePrivileges at h
  generalize readWrite = ps at h ⊢
  induction ps generalizing row with
  | nil =>
    obtain rfl := Option.some.inj h
    exact .nil
  | cons p rest ih =>
    rw [List.mapM_cons] at h
    obtain ⟨b, hb, h⟩ := Option.bind_eq_some_iff.mp h
    obtain ⟨tail, htail, h⟩ := Option.bind_eq_some_iff.mp h
    obtain rfl := Option.some.inj h
    exact .cons hb (ih htail)

theorem assertTableGrants_eq_ok {roles : Roles RoleName} {db : ServingCatalog} :
    assertTableGrants roles db = .ok () ↔ RoleContract roles db := by
  rw [assertTableGrants, forM_eq_ok]
  refine forall₂_congr (fun table _ => ?_)
  rw [forM_eq_ok]
  refine forall₂_congr (fun r _ => ?_)
  cases effectivePrivileges roles db r table with
  | none => simp
  | some row => rw [check_eq_ok, Option.some.injEq]

/-! ## What a reconstruction leaves -/

/-- The last statement of the migrations is a record, and none of them changes the role. -/
theorem recordedMigrations_eq : ∃ statements : List ServingStatement,
    recordedMigrations schemaMigrations = statements ++ [recordMigration]
      ∧ ∀ st ∈ statements, st.keepsRole = true := by
  have hkeeps : ∀ st ∈ recordedMigrations schemaMigrations, st.keepsRole = true := by
    decide +kernel
  have hlast : schemaMigrations = schemaMigrations.dropLast ++ [featureValuesRebuildMigration] := rfl
  have hsplit : recordedMigrations schemaMigrations
      = (recordedMigrations schemaMigrations.dropLast ++ featureValuesRebuildMigration)
        ++ [recordMigration] := by
    conv_lhs => rw [hlast]
    rw [recordedMigrations, List.flatMap_append, ← recordedMigrations, List.flatMap_singleton,
      List.append_assoc]
  refine ⟨_, hsplit, fun st hst => hkeeps st ?_⟩
  rw [hsplit]
  exact List.mem_append_left _ hst

/-- What follows the migrations takes nothing away. -/
theorem takesNothing_servingGrants :
    ∀ st ∈ Statement.resetRole :: servingGrants, st.takesNothing = true := by
  decide +kernel

section Result

variable {server : ServingServer} {db : ServingCatalog}

/-- **The states of a reconstruction that commits**: the one before the last record of a
migration, in which the session acts as the owner; the one after it; and the one after the
grants, which is checked and committed. -/
theorem recreateSession_eq_ok {session : ServingSession}
    (h : recreateSession server db = .ok session) : ∃ before migrated granted : ServingSession,
      before.current = ownerRole
      ∧ execute server.toServer before recordMigration = .ok migrated
      ∧ migrated.login = server.admin
      ∧ executeAll server.toServer migrated (.resetRole :: servingGrants) = .ok granted
      ∧ execute server.toServer granted (.plain "COMMIT") = .ok session := by
  obtain ⟨granted, hall, h⟩ := bind_eq_ok.mp h
  obtain ⟨-, -, hcommit⟩ := bind_eq_ok.mp h
  obtain ⟨statements, hrecorded, hkeeps⟩ := recordedMigrations_eq
  have hsplit : recreateStatements
      = (sessionConfiguration ++ [.dropSchema .consumer, .dropSchema .sync]
          ++ servingSchema .consumer ++ servingSchema .sync)
        ++ (.setRole ownerRole :: ((.create .schemaMigrations [] :: statements)
          ++ (recordMigration :: .resetRole :: servingGrants))) := by
    simp only [recreateStatements, hrecorded, List.flatten_cons, List.flatten_nil, List.append_assoc,
      List.cons_append, List.nil_append, List.append_nil]
  rw [hsplit] at hall
  obtain ⟨made, hmade, hall⟩ := executeAll_append.mp hall
  obtain ⟨owner, howner, hall⟩ := executeAll_cons.mp hall
  obtain ⟨before, hbefore, hall⟩ := executeAll_append.mp hall
  obtain ⟨migrated, hmigrated, hgranted⟩ := executeAll_cons.mp hall
  have hadmin : made.login = server.admin := (executeAll_current (by decide) hmade).2
  obtain ⟨-, howner, hlogin⟩ := execute_eq_ok howner
  obtain ⟨hcurrent, hlogin'⟩ :=
    executeAll_current (List.forall_mem_cons.mpr ⟨rfl, hkeeps⟩) hbefore
  obtain ⟨-, -, hlogin''⟩ := execute_eq_ok hmigrated
  refine ⟨before, migrated, granted, hcurrent.trans howner, hmigrated, ?_, hgranted, hcommit⟩
  rw [hlogin'', hlogin', hlogin, hadmin]

/-- **The writer may insert into the ledger** after a reconstruction that commits. -/
theorem writer_inserts_schemaMigrations (h : (recreate server db).1 = .ok ()) :
    (recreate server db).2.hasTablePrivilege server.roles .writer .schemaMigrations .insert
      = some true := by
  unfold recreate at h ⊢
  cases hsession : recreateSession server db with
  | error failure => rw [hsession] at h; cases h
  | ok session =>
    obtain ⟨before, migrated, granted, hcurrent, hrecord, -, hgranted, hcommit⟩ :=
      recreateSession_eq_ok hsession
    have hinsert := hasTablePrivilege_of_use hrecord (List.mem_singleton_self _)
    rw [hcurrent] at hinsert
    exact hasTablePrivilege_execute rfl hcommit
      (hasTablePrivilege_executeAll takesNothing_servingGrants hgranted hinsert)

/-- What the verifier requires is not what such a database has. -/
theorem not_roleContract_of_insert {roles : Roles RoleName}
    (h : db.hasTablePrivilege roles .writer .schemaMigrations .insert = some true) :
    ¬ RoleContract roles db := by
  intro hcontract
  have hrow := hcontract .schemaMigrations (by decide) .writer (by decide)
  -- the second of the four is the privilege to insert
  obtain _ | ⟨-, hrest⟩ := effectivePrivileges_eq_some hrow
  obtain _ | ⟨hinsert, -⟩ := hrest
  cases h.symm.trans hinsert

/-- **No reconstruction passes the verification**: if it commits, then the verifier finds
other privileges than those it requires. -/
theorem recreate_breaks_roleContract (h : (recreate server db).1 = .ok ()) :
    ¬ RoleContract server.roles (recreate server db).2
      ∧ assertTableGrants server.roles (recreate server db).2 ≠ .ok () := by
  have hbreaks := not_roleContract_of_insert (writer_inserts_schemaMigrations h)
  exact ⟨hbreaks, fun hok => hbreaks (assertTableGrants_eq_ok.mp hok)⟩

end Result

/-! ## A reconstruction that commits -/

/-- The roles of a server with an administrator, and a group that the writer is in. -/
def groupedRoles : Roles RoleName where
  superuser r := decide (r = .other 10)
  inherits r r' := decide (r = .writer) && decide (r' = .other 16384)
  everywhere _ _ := false

/-- A server with these roles, where nothing fails for a reason of its own. -/
def groupedServer : ServingServer where
  roles := groupedRoles
  schemaOf := ServingRelation.schema
  fails _ _ := none
  admin := .other 10
  schemaOf_eq := rfl
  assertObjects _ := .ok ()

/-- An empty database, where what the writer makes is also for the group:
`ALTER DEFAULT PRIVILEGES FOR ROLE macro_writer GRANT ALL ON TABLES` and `ON SCHEMAS`. -/
def groupedDatabase : ServingCatalog where
  schemas := []
  relations := []
  defaults := [
    ⟨.writer, none, false, ownerAcl .writer tablePrivileges
      ++ tablePrivileges.map (fun p => ⟨.role (.other 16384), p, .writer, false⟩)⟩,
    ⟨.writer, none, true, ownerAcl .writer schemaPrivileges
      ++ schemaPrivileges.map (fun p => ⟨.role (.other 16384), p, .writer, false⟩)⟩]

theorem recreate_fst_eq_ok {server : ServingServer} {db : ServingCatalog}
    (h : (recreateSession server db).isOk = true) : (recreate server db).1 = .ok () := by
  unfold recreate
  cases hsession : recreateSession server db with
  | error failure => rw [hsession] at h; cases h
  | ok session => rfl

theorem recreate_grouped : (recreate groupedServer groupedDatabase).1 = .ok () :=
  recreate_fst_eq_ok (by decide +kernel)

theorem recreate_breaks_grouped :
    ¬ RoleContract groupedServer.roles (recreate groupedServer groupedDatabase).2
      ∧ assertTableGrants groupedServer.roles (recreate groupedServer groupedDatabase).2 ≠ .ok () :=
  recreate_breaks_roleContract recreate_grouped

/-- On this database a reconstruction commits and breaks the role contract. -/
theorem recreate_grouped_breaks :
    ¬ ((recreate groupedServer groupedDatabase).1 = .ok () →
      RoleContract groupedServer.roles (recreate groupedServer groupedDatabase).2) := fun h =>
  not_roleContract_of_insert (writer_inserts_schemaMigrations recreate_grouped) (h recreate_grouped)
