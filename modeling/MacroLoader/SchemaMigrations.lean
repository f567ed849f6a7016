import MacroLoader.Program
import MacroLoader.KeyedTable
import MacroLoader.PythonValues
import MacroLoader.FeatureCatalog

/-!
# The migrations of the serving schema

A ledger in the database records the versions of the schema migrations that have
been applied. The migrator runs the missing ones in one transaction, in ascending
order, checks the schema that comes of it and commits. Statements that publish
views a later version drops are left out on the way, depending on the version,
the text, and what the database had before.

What a statement does to the schema is up to the server, and so is what the final
check says of it. Only the migrator writes to the ledger.
-/

open Program

/-! ## The script -/

/-- **What the migrator runs**: `_MIGRATIONS`, `_FEATURES_VIEW_DDL`,
`_OWNERSHIP_MIGRATIONS` and `_FEATURE_VIEW_PUBLICATION_VERSION`. -/
structure MigrationScript where
  migrations : List (List String)
  featuresViewDdl : String
  ownershipMigrations : List String
  featureViewPublicationVersion : ℕ

/-- The migrations with their versions. -/
def MigrationScript.versioned (script : MigrationScript) : List (List String × ℕ) :=
  script.migrations.zipIdx 1

/-- `expected_versions`. -/
def MigrationScript.expectedVersions (script : MigrationScript) : List ℕ :=
  List.range' 1 script.migrations.length

/-- `_CONSUMER`. -/
def consumerRelation : String := "\"macro_loader\".\"macro_raw\""

/-- `_FEATURES_VIEW`. -/
def featuresViewRelation : String := "\"macro_loader\".\"macro_features\""

/-! ## Statements that are left out -/

/-- Whether a character belongs to a word, as `\b` has it of an ASCII text, which every
migration is. -/
def isWordChar (c : Char) : Bool := c.isAlphanum || c == '_'

/-- Whether a word occurs in a text, after some character, with no word character
on either side of it. -/
def containsWord (word : List Char) : Option Char → List Char → Bool
  | _, [] => false
  | before, c :: rest =>
    (!(before.any isWordChar) && word.isPrefixOf (c :: rest)
        && !(((c :: rest).drop word.length).head?.any isWordChar))
      || containsWord word (some c) rest

/-- Whether a text occurs in a text. -/
def containsText (pattern : List Char) (text : List Char) : Bool :=
  text.tails.any pattern.isPrefixOf

/-- `text.startswith(pattern)`. -/
def textStartsWith (pattern text : String) : Bool := pattern.toList.isPrefixOf text.toList

/-- `_is_features_view_publication_statement`. -/
def isFeaturesViewPublicationStatement (statement : String) : Bool :=
  ["CREATE MATERIALIZED VIEW IF NOT EXISTS " ++ featuresViewRelation,
    "COMMENT ON MATERIALIZED VIEW " ++ featuresViewRelation,
    "ALTER MATERIALIZED VIEW " ++ featuresViewRelation,
    "GRANT SELECT ON " ++ featuresViewRelation,
    "REVOKE ALL ON " ++ featuresViewRelation,
    "DROP MATERIALIZED VIEW IF EXISTS " ++ featuresViewRelation].any (textStartsWith · statement)

/-- The relations that are dropped by a later version. -/
def retiredRelations : List String :=
  ["macro_features_extended", "macro_feature_raw_projection"]
    ++ extendedRawSeries.map (fun s => "macro_feature_transform_" ++ s.id) ++ ["macro_features"]

/-- `_is_retired_feature_view_statement`. -/
def isRetiredFeatureViewStatement (statement : String) : Bool :=
  containsText "macro_loader.refresh_macro_features_explicit()".toList statement.toList
    || (retiredRelations.any (fun relation => containsWord relation.toList none statement.toList)
      && (containsText "MATERIALIZED VIEW".toList statement.toList
        || textStartsWith "GRANT " statement || textStartsWith "REVOKE " statement))

/-- `_defer_intermediate_feature_view_statement`. -/
def deferIntermediateFeatureViewStatement (version : ℕ) (statement : String) : Bool :=
  decide (24 ≤ version) && decide (version < 31) && isFeaturesViewPublicationStatement statement

/-! ## The database -/

/-- The ledger, if its table exists, and everything else in the database. -/
structure MigrationDatabase (σ : Type) where
  schema : σ
  /-- The recorded versions, with the time at which each was applied. -/
  ledger : Option (KeyedTable ℤ Timestamp)

/-- **The server**: what a statement does to the schema, or why it fails, which
relations there are, and whether the schema is the one the program expects. -/
structure MigrationServer (σ : Type) where
  execute : String → σ → Except PyError σ
  hasRelation : σ → String → Bool
  /-- `_assert_schema_contract`. -/
  assertSchemaContract : MigrationDatabase σ → Except PyError Unit

/-- What a migrator did to the database. -/
inductive MigrationEvent
  | execute (version : ℕ) (statement : String)
  | record (version : ℕ)
  | setOwner (statement : String)
  deriving DecidableEq

/-- The version an event belongs to. -/
def MigrationEvent.version? : MigrationEvent → Option ℕ
  | execute version _ | record version => some version
  | setOwner _ => none

/-- A connection: the database, and what was done to it. -/
structure MigrationSession (σ : Type) where
  database : MigrationDatabase σ
  events : List MigrationEvent

namespace MigrationDatabase

variable {σ : Type}

/-- The recorded versions, none if there is no ledger yet. -/
def recorded (db : MigrationDatabase σ) : KeyedTable ℤ Timestamp := db.ledger.getD .empty

end MigrationDatabase

/-! ## The migrator -/

section Migrator

variable {σ : Type} (script : MigrationScript) (server : MigrationServer σ) (now : Timestamp)

/-- Run a program in a transaction: unless it returns, the database is what it was
before. The events that it has sent stay sent. -/
def inTransaction {α : Type} (m : Program (MigrationSession σ) PyError α) :
    Program (MigrationSession σ) PyError α :=
  undoing (fun s s' => { s' with database := s.database }) m

/-- Execute a statement of the script. -/
def executeText (event : MigrationEvent) (statement : String) :
    Program (MigrationSession σ) PyError Unit :=
  effect (fun s =>
    match server.execute statement s.database.schema with
    | .ok schema => (.ok (), ⟨{ s.database with schema := schema }, s.events ++ [event]⟩)
    | .error e => (.error e, s))

/-- Whether the features view exists already, asked before the statement that
creates it. -/
def featuresViewPresent (statement : String) : Program (MigrationSession σ) PyError Bool :=
  if statement = script.featuresViewDdl then
    query (fun s => .ok (server.hasRelation s.database.schema featuresViewRelation))
  else pure false

/-- One statement of a migration: it is executed unless it is left out. -/
def migrateStatement (freshInstall : Bool) (version : ℕ) (statement : String) :
    Program (MigrationSession σ) PyError Unit :=
  let early := decide (version < script.featureViewPublicationVersion)
  let retired := early && isRetiredFeatureViewStatement statement
    && statement != "DROP MATERIALIZED VIEW IF EXISTS " ++ featuresViewRelation ++ " CASCADE"
  onlyIf (!(deferIntermediateFeatureViewStatement version statement) && !retired) do
    let present ← featuresViewPresent script server statement
    onlyIf (!present) do
      -- `SET LOCAL join_collapse_limit = 1`
      onlyIf (textStartsWith "CREATE MATERIALIZED VIEW IF NOT EXISTS " statement)
        (query (fun _ => .ok ()))
      onlyIf (!(freshInstall && early && isFeaturesViewPublicationStatement statement))
        (executeText server (.execute version statement) statement)

/-- Record a version: `INSERT INTO … VALUES (version, CURRENT_TIMESTAMP)`. -/
def recordVersion (version : ℕ) : Program (MigrationSession σ) PyError Unit :=
  effect (fun s =>
    match s.database.ledger with
    | none => (.error ⟨.databaseError, "undefined table"⟩, s)
    | some ledger =>
      if (ledger.get? version).isSome then (.error ⟨.databaseError, "unique violation"⟩, s)
      else (.ok (), ⟨{ s.database with ledger := some (ledger.insert version now) },
        s.events ++ [.record version]⟩))

/-- The body of the loop over the migrations, for a version that is not recorded. -/
def applyMigration (freshInstall : Bool) (migration : List String × ℕ) :
    Program (MigrationSession σ) PyError Unit := do
  forEach migration.1 (migrateStatement script server freshInstall migration.2)
  recordVersion now migration.2

/-- What the migrator does in its transaction. -/
def migrateSchema : Program (MigrationSession σ) PyError Unit := do
  -- `CREATE TABLE IF NOT EXISTS`
  write (fun s => { s with database := { s.database with ledger := some s.database.recorded } })
  let applied ← query (fun s => .ok s.database.recorded.keys)
  let existing ← query (fun s => .ok (server.hasRelation s.database.schema consumerRelation
    || server.hasRelation s.database.schema featuresViewRelation))
  require (∀ v ∈ applied, v ∈ script.expectedVersions.map Nat.cast)
    (.valueError "PostgreSQL schema migration ledger contains an unknown version")
  forEach script.versioned (fun migration =>
    onlyIf (decide ((migration.2 : ℤ) ∉ applied))
      (applyMigration script server now (applied.isEmpty && !existing) migration))
  forEach script.ownershipMigrations (fun statement =>
    executeText server (.setOwner statement) statement)
  query (fun s => server.assertSchemaContract s.database)

/-- **`PostgresGoldSchemaMigrator.migrate`.** -/
def migrate : Program (MigrationSession σ) PyError Unit := do
  query (fun _ => .ok ())
  tryCatch
    (inTransaction do
      migrateSchema script server now
      query (fun _ => .ok ()))
    (fun e =>
      if e.kind = .postgresGoldRepositoryError then throw e
      else throw ⟨.postgresGoldRepositoryError, "PostgreSQL Gold schema migration failed"⟩)

end Migrator

/-- Whether a statement of some version can be left out. -/
def mayBeLeftOut (script : MigrationScript) (version : ℕ) (statement : String) : Bool :=
  deferIntermediateFeatureViewStatement version statement
    || (decide (version < script.featureViewPublicationVersion)
      && (isRetiredFeatureViewStatement statement || isFeaturesViewPublicationStatement statement))
    || statement == script.featuresViewDdl

/-! ## What was done -/

/-- The statements that were executed are statements of the migration in their order, and
none is missing but those that can be left out. -/
def Executed (script : MigrationScript) (version : ℕ) (statements executed : List String) : Prop :=
  executed.Sublist statements
    ∧ (statements.filter (fun st => !(mayBeLeftOut script version st))).Sublist executed

/-- What a migration with some version did, given the statements executed. -/
def blockEvents (block : ℕ × List String) : List MigrationEvent :=
  block.2.map (.execute block.1) ++ [.record block.1]

section Spec

variable {σ : Type} {script : MigrationScript} {server : MigrationServer σ} {now : Timestamp}
  {s₀ s : MigrationSession σ} {P : MigrationEvent → Prop}

/-- What was done since some state satisfies a condition. -/
def Adds (P : MigrationEvent → Prop) (s s' : MigrationSession σ) : Prop :=
  ∃ added, s'.events = s.events ++ added ∧ ∀ e ∈ added, P e

theorem adds_refl (P : MigrationEvent → Prop) (s : MigrationSession σ) : Adds P s s :=
  ⟨[], (List.append_nil _).symm, fun _ he => nomatch he⟩

theorem Adds.append (h : Adds P s₀ s) {s' : MigrationSession σ} {event : MigrationEvent}
    (hevents : s'.events = s.events ++ [event]) (hevent : P event) : Adds P s₀ s' := by
  obtain ⟨added, hadded, hall⟩ := h
  refine ⟨added ++ [event], by rw [hevents, hadded, List.append_assoc], fun e he => ?_⟩
  rcases List.mem_append.mp he with he | he
  · exact hall e he
  · rwa [List.mem_singleton.mp he]

theorem wp_inTransaction {α : Type} {m : Program (MigrationSession σ) PyError α}
    {Q : Post (MigrationSession σ) PyError α}
    (h : wp m ⟨Q.returned, fun e s' => Q.raised e { s' with database := s.database },
      fun s' => Q.crashed { s' with database := s.database }⟩ s) : wp (inTransaction m) Q s :=
  wp_undoing h

/-- A statement leaves the ledger alone. -/
theorem wp_executeText {event : MigrationEvent} {statement : String} (h : Adds P s₀ s)
    (hevent : P event) :
    wp (executeText server event statement) (Post.keeping (Adds P s₀) (fun _ s' =>
      s'.database.ledger = s.database.ledger ∧ s'.events = s.events ++ [event])) s := by
  refine wp_effect_keeping h ?_ (fun _ hok => ?_)
  · cases server.execute statement s.database.schema with
    | error e => exact h
    | ok schema => exact h.append rfl hevent
  · cases hexecute : server.execute statement s.database.schema with
    | error e => rw [hexecute] at hok; cases hok
    | ok schema => exact ⟨rfl, rfl⟩

/-- **A statement of a migration** is executed or left out. -/
theorem wp_migrateStatement {freshInstall : Bool} {version : ℕ} {statement : String}
    (h : Adds P s₀ s) (hevent : P (.execute version statement)) :
    wp (migrateStatement script server freshInstall version statement)
      (Post.keeping (Adds P s₀) (fun _ s' => s'.database.ledger = s.database.ledger
        ∧ (s'.events = s.events ∧ mayBeLeftOut script version statement = true
          ∨ s'.events = s.events ++ [.execute version statement]))) s := by
  refine wp_onlyIf_keeping (fun _ => ?_) (fun hout => ⟨h, rfl, .inl ⟨rfl, ?_⟩⟩)
  swap
  · simp only [mayBeLeftOut]
    cases hdefer : deferIntermediateFeatureViewStatement version statement <;> simp_all
  have hpresent : wp (featuresViewPresent script server statement)
      (Post.keeping (Adds P s₀) (fun present s' =>
        s' = s ∧ (present = true → statement = script.featuresViewDdl))) s := by
    unfold featuresViewPresent
    split_ifs with hddl
    · exact wp_query_keeping h (fun _ _ => ⟨rfl, fun _ => hddl⟩)
    · exact wp_pure_keeping h ⟨rfl, fun hpresent => nomatch hpresent⟩
  refine wp_bind_keeping hpresent (fun present s₁ _ ⟨hs₁, hddl⟩ => ?_)
  subst hs₁
  refine wp_onlyIf_keeping (fun _ => ?_) (fun hout => ⟨h, rfl, .inl ⟨rfl, ?_⟩⟩)
  swap
  · rw [mayBeLeftOut, hddl (by simpa using hout), beq_self_eq_true, Bool.or_true]
  have hlimit : wp (onlyIf (textStartsWith "CREATE MATERIALIZED VIEW IF NOT EXISTS " statement)
      (query (fun _ => .ok ()) : Program (MigrationSession σ) PyError Unit))
      (Post.keeping (Adds P s₀) (fun _ s' => s' = s₁)) s₁ :=
    wp_onlyIf_keeping (fun _ => wp_query_keeping h (fun _ _ => rfl)) (fun _ => ⟨h, rfl⟩)
  refine wp_bind_keeping hlimit (fun _ s₂ _ hs₂ => ?_)
  subst hs₂
  refine wp_onlyIf_keeping (fun _ => ?_) (fun hout => ⟨h, rfl, .inl ⟨rfl, ?_⟩⟩)
  swap
  · simp only [mayBeLeftOut]
    simp_all
  exact wp_keeping_mono (wp_executeText h hevent) (fun _ _ _ hs' => ⟨hs'.1, .inr hs'.2⟩)

/-- The statements of a migration, those left out apart, are executed in order. -/
theorem wp_migrateStatements {freshInstall : Bool} {version : ℕ} {statements : List String}
    (h : Adds P s₀ s) (hevent : ∀ statement, P (.execute version statement)) :
    wp (forEach statements (migrateStatement script server freshInstall version))
      (Post.keeping (Adds P s₀) (fun _ s' => s'.database.ledger = s.database.ledger
        ∧ ∃ executed : List String, Executed script version statements executed
          ∧ s'.events = s.events ++ executed.map (.execute version))) s := by
  refine wp_forEach (fun rest s' => Adds P s₀ s' ∧ s'.database.ledger = s.database.ledger
      ∧ ∃ done executed : List String, statements = done ++ rest
        ∧ Executed script version done executed ∧ s'.events = s.events ++ executed.map (.execute version))
    ⟨h, rfl, [], [], rfl, ⟨List.Sublist.slnil, List.Sublist.slnil⟩, (List.append_nil _).symm⟩
    (fun statement rest s' hs' => ?_) (fun s' hs' => ?_)
  · obtain ⟨hadds, hledger, done, executed, hdone, hsub, hevents⟩ := hs'
    have hstep : statements = (done ++ [statement]) ++ rest := by
      rw [hdone, List.append_assoc]
      rfl
    refine wp_keeping_mono (wp_migrateStatement hadds (hevent statement))
      (fun _ s'' _ hs'' => ?_)
    obtain ⟨hledger', ⟨hskip, hout⟩ | hexecute⟩ := hs''
    · refine ⟨hledger'.trans hledger, done ++ [statement], executed, hstep,
        ⟨hsub.1.trans (List.sublist_append_left _ _), ?_⟩, hskip.trans hevents⟩
      rw [List.filter_append, List.filter_cons_of_neg (by simp [hout]), List.filter_nil,
        List.append_nil]
      exact hsub.2
    · refine ⟨hledger'.trans hledger, done ++ [statement], executed ++ [statement], hstep,
        ⟨hsub.1.append (List.Sublist.refl _), ?_⟩, ?_⟩
      · rw [List.filter_append]
        exact hsub.2.append List.filter_sublist
      rw [hexecute, hevents, List.map_append, List.append_assoc]
      rfl
  · obtain ⟨hadds, hledger, done, executed, hdone, hsub, hevents⟩ := hs'
    rw [List.append_nil] at hdone
    exact ⟨hadds, hledger, executed, hdone ▸ hsub, hevents⟩

/-- **A migration** executes statements of its own and is recorded. -/
theorem wp_applyMigration {freshInstall : Bool} {migration : List String × ℕ}
    {ledger : KeyedTable ℤ Timestamp} (h : Adds P s₀ s)
    (hevent : ∀ e : MigrationEvent, e.version? = some migration.2 → P e)
    (hledger : s.database.ledger = some ledger) :
    wp (applyMigration script server now freshInstall migration)
      (Post.keeping (Adds P s₀) (fun _ s' =>
        s'.database.ledger = some (ledger.insert migration.2 now)
          ∧ ∃ executed : List String, Executed script migration.2 migration.1 executed
            ∧ s'.events = s.events ++ blockEvents (migration.2, executed))) s := by
  refine wp_bind_keeping (wp_migrateStatements h (fun _ => hevent _ rfl)) (fun _ s₁ hadds hs₁ => ?_)
  obtain ⟨hsame, executed, hsub, hevents⟩ := hs₁
  rw [hledger] at hsame
  refine wp_effect_keeping hadds ?_ (fun _ hok => ?_)
  · rw [hsame]
    dsimp only
    split_ifs
    · exact hadds
    · exact hadds.append rfl (hevent _ rfl)
  · rw [hsame] at hok ⊢
    dsimp only at hok ⊢
    split_ifs at hok ⊢ with hpresent
    refine ⟨rfl, executed, hsub, ?_⟩
    rw [hevents, blockEvents, List.append_assoc]

/-! ## The law of the ledger -/

/-- **What a migrator that commits has done**: there was no unknown version, the
ledger has all versions and no others, the ones that were recorded as they were,
and the other ones were processed, once each and in ascending order. -/
structure Migrated (script : MigrationScript) (server : MigrationServer σ) (now : Timestamp)
    (s s' : MigrationSession σ) : Prop where
  known : ∀ v ∈ s.database.recorded.keys, v ∈ script.expectedVersions.map Nat.cast
  versions : s'.database.ledger.map KeyedTable.keys = some (script.expectedVersions.map Nat.cast)
  kept : ∀ v ∈ s.database.recorded.keys,
    s'.database.recorded.get? v = s.database.recorded.get? v
  processed : ∃ blocks : List (ℕ × List String),
    blocks.map Prod.fst
        = script.expectedVersions.filter (fun v : ℕ => decide ((v : ℤ) ∉ s.database.recorded.keys))
      ∧ (∀ b ∈ blocks, ∃ statements, (statements, b.1) ∈ script.versioned
          ∧ Executed script b.1 statements b.2)
      ∧ s'.events = s.events ++ blocks.flatMap blockEvents
          ++ script.ownershipMigrations.map MigrationEvent.setOwner
  contract : server.assertSchemaContract s'.database = .ok ()

/-- What a migrator does for a version belongs to one that was missing. -/
def OfMissing (script : MigrationScript) (s : MigrationSession σ) (e : MigrationEvent) : Prop :=
  ∀ v, e.version? = some v → v ∈ script.expectedVersions ∧ (v : ℤ) ∉ s.database.recorded.keys

theorem map_snd_versioned (script : MigrationScript) :
    script.versioned.map Prod.snd = script.expectedVersions := List.zipIdx_map_snd 1 script.migrations

theorem expectedVersions_pairwise (script : MigrationScript) :
    (script.expectedVersions.map (Nat.cast : ℕ → ℤ)).Pairwise (· < ·) := by
  rw [List.pairwise_map]
  exact (List.pairwise_lt_range' 1).imp (fun h => by exact_mod_cast h)

/-- After some migrations of the script. -/
structure MigratedUpTo (script : MigrationScript) (now : Timestamp) (s : MigrationSession σ)
    (rest : List (List String × ℕ)) (s' : MigrationSession σ) : Prop where
  ledger : ∃ ledger done, s'.database.ledger = some ledger ∧ script.versioned = done ++ rest
    ∧ (∀ v, ledger.get? v = (s.database.recorded.get? v).or
        (if v ∈ done.map (fun m => (m.2 : ℤ)) then some now else none))
    ∧ ∃ blocks : List (ℕ × List String),
      blocks.map Prod.fst = (done.map Prod.snd).filter
          (fun v : ℕ => decide ((v : ℤ) ∉ s.database.recorded.keys))
        ∧ (∀ b ∈ blocks, ∃ statements, (statements, b.1) ∈ script.versioned
            ∧ Executed script b.1 statements b.2)
        ∧ s'.events = s.events ++ blocks.flatMap blockEvents

/-- **One turn of the loop.** -/
theorem wp_migration {freshInstall : Bool} {migration : List String × ℕ}
    {rest : List (List String × ℕ)} {s' : MigrationSession σ} (hadds : Adds (OfMissing script s) s s')
    (h : MigratedUpTo script now s (migration :: rest) s') :
    wp (onlyIf (decide ((migration.2 : ℤ) ∉ s.database.recorded.keys))
        (applyMigration script server now freshInstall migration))
      (Post.keeping (Adds (OfMissing script s) s) (fun _ => MigratedUpTo script now s rest)) s' := by
  obtain ⟨ledger, done, hledger, hdone, hget, blocks, hblocks, hsub, hevents⟩ := h.ledger
  have hstep : script.versioned = (done ++ [migration]) ++ rest := by
    rw [hdone, List.append_assoc]
    rfl
  have hmem : ∀ v : ℤ, v ∈ (done ++ [migration]).map (fun m => (m.2 : ℤ))
      ↔ v ∈ done.map (fun m => (m.2 : ℤ)) ∨ v = migration.2 := fun v => by
    rw [List.map_append, List.mem_append, List.map_singleton, List.mem_singleton]
  refine wp_onlyIf_keeping (fun hmissing => ?_) (fun hrecorded => ⟨hadds, ?_⟩)
  · have hmissing : (migration.2 : ℤ) ∉ s.database.recorded.keys := of_decide_eq_true hmissing
    refine wp_keeping_mono (wp_applyMigration hadds (fun e he v hv => ?_) hledger)
      (fun _ s'' _ hs'' => ?_)
    · rw [he] at hv
      rw [← Option.some.inj hv]
      refine ⟨?_, hmissing⟩
      rw [← map_snd_versioned, hdone, List.map_append]
      exact List.mem_append_right _ List.mem_cons_self
    · obtain ⟨hledger', executed, hexecuted, hevents'⟩ := hs''
      refine ⟨_, done ++ [migration], hledger', hstep, fun v => ?_,
        blocks ++ [(migration.2, executed)], ?_, ?_, ?_⟩
      · have hnone : s.database.recorded.get? migration.2 = none :=
          Option.not_isSome_iff_eq_none.mp (fun h => hmissing (KeyedTable.mem_keys_iff.mpr h))
        rw [KeyedTable.get?_insert, hget, if_congr (hmem v) rfl rfl]
        by_cases hv : v = migration.2
        · rw [if_pos hv, if_pos (.inr hv), hv, hnone]
          rfl
        · rw [if_neg hv, if_congr (or_iff_left hv) rfl rfl]
      · rw [List.map_append, hblocks, List.map_append, List.filter_append]
        simp [hmissing]
      · intro b hb
        rcases List.mem_append.mp hb with hb | hb
        · exact hsub b hb
        · rw [List.mem_singleton.mp hb]
          exact ⟨migration.1, by rw [hdone]; exact List.mem_append_right _ List.mem_cons_self,
            hexecuted⟩
      · rw [hevents', hevents, List.flatMap_append, List.append_assoc]
        simp
  · have hrecorded : (migration.2 : ℤ) ∈ s.database.recorded.keys :=
      not_not.mp (of_decide_eq_false hrecorded)
    refine ⟨_, done ++ [migration], hledger, hstep, fun v => ?_, blocks, ?_, hsub, hevents⟩
    · obtain ⟨at_, hat⟩ := Option.isSome_iff_exists.mp (KeyedTable.mem_keys_iff.mp hrecorded)
      rw [hget, if_congr (hmem v) rfl rfl]
      by_cases hv : v = migration.2
      · rw [hv, hat]
        rfl
      · rw [if_congr (or_iff_left hv) rfl rfl]
    · rw [hblocks, List.map_append, List.filter_append]
      simp [hrecorded]

/-- The owners are set last, and the ledger stays as it is. -/
theorem wp_setOwners {s₁ : MigrationSession σ} {statements : List String}
    (h : Adds (OfMissing script s) s s₁) :
    wp (forEach statements (fun statement => executeText server (.setOwner statement) statement))
      (Post.keeping (Adds (OfMissing script s) s) (fun _ s' =>
        s'.database.ledger = s₁.database.ledger
          ∧ s'.events = s₁.events ++ statements.map MigrationEvent.setOwner)) s₁ := by
  refine wp_forEach (fun rest s' => Adds (OfMissing script s) s s'
      ∧ s'.database.ledger = s₁.database.ledger
      ∧ ∃ done, statements = done ++ rest ∧ s'.events = s₁.events ++ done.map .setOwner)
    ⟨h, rfl, [], rfl, (List.append_nil _).symm⟩ (fun statement rest s' hs' => ?_)
    (fun s' hs' => ?_)
  · obtain ⟨hadds, hledger, done, hdone, hevents⟩ := hs'
    refine wp_keeping_mono (wp_executeText hadds (fun v hv => nomatch hv)) (fun _ s'' _ hs'' => ?_)
    refine ⟨hs''.1.trans hledger, done ++ [statement], by rw [hdone, List.append_assoc]; rfl, ?_⟩
    rw [hs''.2, hevents, List.map_append, List.append_assoc]
    rfl
  · obtain ⟨hadds, hledger, done, hdone, hevents⟩ := hs'
    rw [List.append_nil] at hdone
    exact ⟨hadds, hledger, hdone ▸ hevents⟩

/-- **The transaction of the migrator.** -/
theorem wp_migrateSchema (s : MigrationSession σ) :
    wp (migrateSchema script server now)
      (Post.keeping (Adds (OfMissing script s) s) (fun _ => Migrated script server now s)) s := by
  have hstart : Adds (OfMissing script s) s s := adds_refl _ s
  have hcreated : Adds (OfMissing script s) s
      ⟨{ s.database with ledger := some s.database.recorded }, s.events⟩ := hstart
  refine wp_bind_write hstart hcreated ?_
  refine wp_bind_query hcreated (fun applied happlied => ?_)
  obtain rfl : s.database.recorded.keys = applied := Except.ok.inj happlied
  refine wp_bind_query hcreated (fun existing _ => ?_)
  refine wp_bind_require hcreated (fun hknown => ?_)
  have hloop : wp (forEach script.versioned (fun migration =>
      onlyIf (decide ((migration.2 : ℤ) ∉ s.database.recorded.keys))
        (applyMigration script server now (s.database.recorded.keys.isEmpty && !existing)
          migration)))
      (Post.keeping (Adds (OfMissing script s) s) (fun _ => MigratedUpTo script now s []))
      ⟨{ s.database with ledger := some s.database.recorded }, s.events⟩ := by
    refine wp_forEach (fun rest s' => Adds (OfMissing script s) s s' ∧ MigratedUpTo script now s rest s')
      ⟨hcreated, ⟨s.database.recorded, [], rfl, rfl, fun v => ?_, [], rfl, ?_, ?_⟩⟩
      (fun migration rest s' hs' => wp_migration hs'.1 hs'.2) (fun _ hs' => hs')
    · rw [List.map_nil, if_neg List.not_mem_nil, Option.or_none]
    · exact fun b hb => nomatch hb
    · exact (List.append_nil _).symm
  refine wp_bind_keeping hloop (fun _ s₁ hadds h₁ => ?_)
  refine wp_bind_keeping (wp_setOwners hadds) (fun _ s₂ hadds' h₂ => ?_)
  refine wp_query_keeping hadds' (fun _ hcontract => ?_)
  obtain ⟨ledger, done, hledger, hdone, hget, blocks, hblocks, hsub, hevents⟩ := h₁.ledger
  rw [List.append_nil] at hdone
  have hversions : done.map (fun m => (m.2 : ℤ)) = script.expectedVersions.map Nat.cast := by
    rw [← map_snd_versioned, hdone, List.map_map]
    rfl
  have hfinal : s₂.database.ledger = some ledger := h₂.1.trans hledger
  refine ⟨hknown, ?_, fun v hv => ?_, ⟨blocks, ?_, hsub, ?_⟩, hcontract⟩
  · rw [hfinal, Option.map_some]
    refine congrArg some (ledger.keys_pairwise.eq_of_mem_iff (expectedVersions_pairwise script)
      (fun v => ?_))
    rw [KeyedTable.mem_keys_iff, hget, hversions]
    by_cases hv : v ∈ script.expectedVersions.map Nat.cast
    · rw [if_pos hv]
      exact iff_of_true (by cases s.database.recorded.get? v <;> rfl) hv
    · -- an unknown version is not recorded
      rw [if_neg hv, Option.or_none, ← KeyedTable.mem_keys_iff]
      exact iff_of_false (fun h => hv (hknown v h)) hv
  · obtain ⟨at_, hat⟩ := Option.isSome_iff_exists.mp (KeyedTable.mem_keys_iff.mp hv)
    rw [MigrationDatabase.recorded, hfinal, Option.getD_some, hget, hat]
    rfl
  · rw [hblocks, ← hdone, map_snd_versioned]
  · rw [h₂.2, hevents]

/-- Whatever a migrator that does not commit did, the database is as it was. -/
def NotMigrated (script : MigrationScript) (s s' : MigrationSession σ) : Prop :=
  s'.database = s.database ∧ Adds (OfMissing script s) s s'

/-- **The migrator commits, or leaves the database as it was.** -/
theorem wp_migrate (s : MigrationSession σ) :
    wp (migrate script server now) ⟨fun _ s' => Migrated script server now s s'
        ∧ Adds (OfMissing script s) s s',
      fun _ => NotMigrated script s, NotMigrated script s⟩ s := by
  have hstart : NotMigrated script s s := ⟨rfl, adds_refl _ s⟩
  refine wp_bind (wp_query (fun _ _ => ?_) (fun _ => hstart) hstart)
  have hhandler : ∀ (e : PyError) (s' : MigrationSession σ), NotMigrated script s s' →
      wp (if e.kind = .postgresGoldRepositoryError then throw e
          else throw ⟨.postgresGoldRepositoryError, "PostgreSQL Gold schema migration failed"⟩ :
            Program (MigrationSession σ) PyError Unit)
        ⟨fun _ s' => Migrated script server now s s' ∧ Adds (OfMissing script s) s s',
          fun _ => NotMigrated script s, NotMigrated script s⟩ s' := by
    intro e s' hs'
    split_ifs
    · exact wp_throw hs'
    · exact wp_throw hs'
  refine wp_tryCatch (wp_inTransaction ?_)
  refine wp_bind (wp_mono (wp_migrateSchema s) (fun _ s' hs' => ?_)
    (fun e s' hs' => hhandler e _ ⟨rfl, hs'⟩) (fun s' hs' => ⟨rfl, hs'⟩))
  exact wp_query (fun _ _ => ⟨hs'.2, hs'.1⟩) (fun e => hhandler e _ ⟨rfl, hs'.1⟩) ⟨rfl, hs'.1⟩

/-- The same of a run. -/
theorem migrate_run (script : MigrationScript) (server : MigrationServer σ) (now : Timestamp)
    (s : MigrationSession σ) (faults : List (Fault PyError)) :
    let atEnd := migrate script server now s faults
    Adds (OfMissing script s) s atEnd.2.1
      ∧ (atEnd.1 = .returned () → Migrated script server now s atEnd.2.1)
      ∧ (atEnd.1 ≠ .returned () → atEnd.2.1.database = s.database) := by
  intro atEnd
  have hrun : Post.At _ atEnd := @wp_migrate σ script server now s faults
  rcases atEnd with ⟨a | e | _, s', rest⟩
  · exact ⟨hrun.2, fun _ => hrun.1, fun h => absurd rfl h⟩
  · exact ⟨hrun.2, fun h => (nomatch h), fun _ => hrun.1⟩
  · exact ⟨hrun.2, fun h => (nomatch h), fun _ => hrun.1⟩

/-- The versions that are recorded afterwards are all versions. -/
theorem Migrated.recorded_keys {s' : MigrationSession σ} (h : Migrated script server now s s') :
    s'.database.recorded.keys = script.expectedVersions.map Nat.cast := by
  obtain ⟨ledger, hledger, hkeys⟩ := Option.map_eq_some_iff.mp h.versions
  rw [MigrationDatabase.recorded, hledger, Option.getD_some, hkeys]

/-- A migrator that finds all versions recorded has nothing to do for any. -/
theorem migrate_run_again (server : MigrationServer σ) (now : Timestamp)
    (faults : List (Fault PyError))
    (hkeys : s.database.recorded.keys = script.expectedVersions.map Nat.cast) :
    let atEnd := migrate script server now s faults
    atEnd.2.1.database.recorded = s.database.recorded
      ∧ ∃ added, atEnd.2.1.events = s.events ++ added ∧ ∀ e ∈ added, e.version? = none := by
  intro atEnd
  obtain ⟨⟨added, hadded, hall⟩, hreturned, hother⟩ := migrate_run script server now s faults
  refine ⟨?_, added, hadded, fun e he => ?_⟩
  · by_cases h : atEnd.1 = .returned ()
    · have hmigrated := hreturned h
      ext v : 1
      by_cases hv : v ∈ s.database.recorded.keys
      · exact hmigrated.kept v hv
      · have hv' : v ∉ atEnd.2.1.database.recorded.keys := by
          rwa [hmigrated.recorded_keys, ← hkeys]
        rw [KeyedTable.mem_keys_iff, Option.not_isSome_iff_eq_none] at hv hv'
        rw [hv, hv']
    · rw [hother h]
  · cases hversion : e.version? with
    | none => rfl
    | some v =>
      obtain ⟨hexpected, hmissing⟩ := hall e he v hversion
      exact absurd (hkeys ▸ List.mem_map_of_mem hexpected) hmissing

end Spec

/-- A script of three versions, of which the second one was recorded. -/
def exampleScript : MigrationScript := ⟨[["a"], ["b"], ["c", "d"]], "", ["e"], 1⟩

/-- A server that takes every statement. -/
def exampleServer : MigrationServer (List String) :=
  ⟨fun statement schema => .ok (schema ++ [statement]), fun _ _ => false, fun _ => .ok ()⟩
