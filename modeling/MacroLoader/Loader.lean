import MacroLoader.DailyRuns
import MacroLoader.GoldSyncSource

/-!
# From the files to the database

The pipeline writes files, and the synchronizer, in another process, brings the database to
what the files say is current. Neither knows of the other: a synchronization finds the lake
as the last command has left it. Whatever fails in it, it leaves the lake alone, and it leaves
the database as it was, or holding exactly the rows of the current build
(`wp_goldSyncPostgres`); and what it reads of a build that the publisher has promoted is what
was published (`GoldProgram.PublishedAs.currentBuild`).
-/

open Program

/-! ## The lake and the database -/

/-- The files, and the database with the statements that were executed on it. -/
structure Loader where
  lake : MedallionLake
  session : Session

namespace Loader

/-- No files, and a database that holds nothing. -/
def empty : Loader := ⟨.empty, ⟨emptyReplica, []⟩⟩

/-- The files. -/
def lakePart : StatePart Loader MedallionLake where
  get s := s.lake
  set lake s := { s with lake := lake }
  get_set _ _ := rfl
  set_get _ := rfl
  set_set _ _ _ := rfl

/-- The database. -/
def sessionPart : StatePart Loader Session where
  get s := s.session
  set session s := { s with session := session }
  get_set _ _ := rfl
  set_get _ := rfl
  set_set _ _ _ := rfl

end Loader

/-- Run on a connection of its own, on which nothing has been executed yet. -/
def onDatabase {α : Type} (m : Transaction α) : Program Loader PyError α := do
  update (fun s => { s with session := ⟨s.session.replica, []⟩ })
  onPart Loader.sessionPart m

/-- What a synchronization is given from outside: whether the schema of the database passes
the preflight, the clock, and where the lake is. -/
structure SyncInputs where
  preflightSchema : Except PyError Unit
  now : PyDatetime
  datasetRoot : List String

/-- The synchronizer before a lake. -/
def SyncInputs.env (inputs : SyncInputs) (formats : GoldFormats) (lake : GoldLake) :
    GoldPostgresDeltaSync :=
  { lakeSync formats lake inputs.datasetRoot inputs.now with
    preflightSchema := inputs.preflightSchema }

/-- **`gold-sync-postgres`**: the files are read, and the database is brought to them. -/
def goldSyncPostgres (formats : GoldFormats) (inputs : SyncInputs) :
    Program Loader PyError GoldSyncResult := do
  let lake ← query (fun s => .ok s.lake.gold.lake)
  onDatabase (sync formats.sha256 (readFrame formats) (inputs.env formats lake))

/-- `PostgresGoldSchemaReconstructor.recreate`, of which only the data is looked at: one
transaction drops the schemas with all that they hold, and creates them anew. -/
def recreateSchema : Program Loader PyError Unit :=
  onDatabase (tryCatch
    (atomically (do
      Transaction.fetch (fun _ => .ok ())
      write (fun session => ⟨emptyReplica, session.statements⟩)
      Transaction.fetch (fun _ => .ok ())))
    (fun _ => throw ⟨.postgresGoldRepositoryError,
      "PostgreSQL Gold schema reconstruction failed"⟩))

/-- **What is assembled is written without loss**: a frame file reads back as the frame. -/
def GoldFormats.KeepsAssembled (formats : GoldFormats) (writeCsv : List SilverRow → Bytes) :
    Prop :=
  ∀ silverBySeries build,
    assembleGoldFrame formats.sha256 writeCsv silverBySeries = .ok build →
      formats.decodeFrame (formats.encodeFrame build.frame) = .ok build.frame

instance finite_goldColumn : Finite GoldColumn :=
  Finite.of_surjective rawFeatureColumns.get (fun c => List.mem_iff_get.mp (mem_rawFeatureColumns c))

instance countable_goldFrame : Countable GoldFrame :=
  Function.Injective.countable (f := GoldFrame.rows) (fun ⟨_⟩ ⟨_⟩ h => congrArg GoldFrame.mk h)

/-- **Pictures are drawn of every frame**: as PNG. -/
def GoldFormats.RendersPng (formats : GoldFormats) : Prop :=
  ∀ frame, ∃ png, formats.renderProfile frame = .ok png ∧ isPng png = true

/-- Some format of frames loses none. -/
theorem exists_keepsAssembled : ∃ formats : GoldFormats,
    (∀ writeCsv, formats.KeepsAssembled writeCsv) ∧ formats.RendersPng := by
  obtain ⟨format⟩ := FileFormat.nonempty GoldFrame
  exact ⟨{ sampleFormats with
    encodeFrame := format.encode
    decodeFrame := format.decode }, fun _ _ build _ => format.readBack build.frame,
    fun _ => ⟨pngSignature, rfl, by decide⟩⟩

/-! ## What a synchronization leaves -/

theorem current_of_selected {records : List GoldCatalogRecord} {record : GoldCatalogRecord}
    (h : selectCurrentSyncRecord records = .ok record) :
    record ∈ records ∧ record.current = true := by
  obtain ⟨record', hstrict, _, -, _, -, h⟩ := by
    simpa only [selectCurrentSyncRecord, bind_eq_ok, check_eq_ok] using h
  cases h
  unfold strictCurrent singleCurrent at hstrict
  split at hstrict
  · cases hstrict
  · cases hstrict
  · next current hsingle =>
    split_ifs at hstrict
    obtain rfl := Except.ok.inj hstrict
    split at hsingle
    · cases hsingle
    · next r hfilter =>
      obtain rfl := Option.some.inj (Except.ok.inj hsingle)
      exact List.mem_filter.mp (hfilter ▸ List.mem_singleton_self r)
    · cases hsingle

section Stored

variable {pipeline : DailyMedallionPipeline} {inputs : SyncInputs} {s s' : Loader}

/-- **The database holds a published build**: its rows, with the state of the build, at some
time of synchronization. -/
def HoldsGold (formats : GoldFormats) (db : Replica) (record : GoldCatalogRecord)
    (gold : GoldFrameBuild) : Prop :=
  ∃ source now, sourceRowsAndDigests formats.sha256 gold.frame = .ok source
    ∧ HoldsBuild formats.sha256 db source
      (buildState formats.sha256 record (formats.encodeFrame gold.frame) source now)

/-- A database that holds a build is not empty. -/
theorem HoldsGold.ne_emptyReplica {formats : GoldFormats} {db : Replica}
    {record : GoldCatalogRecord} {gold : GoldFrameBuild} (h : HoldsGold formats db record gold) :
    db ≠ emptyReplica := by
  rintro rfl
  obtain ⟨source, now, -, hholds⟩ := h
  cases hholds.state

/-- What the synchronizer reads of a published build is what was published. -/
theorem GoldProgram.PublishedAs.currentBuild {formats : GoldFormats}
    {call : GoldProgram.PublishCall} {session : GoldSession} {record : GoldCatalogRecord}
    {frame : GoldFrame} {lake : GoldLake} {bytes : Bytes}
    {source : KeyedTable Timestamp (WideRow Float64 × Sha256Hex)}
    (h : GoldProgram.PublishedAs formats call session record) (hcall : call.frame = .ok frame)
    (hframe : formats.decodeFrame (formats.encodeFrame frame) = .ok frame)
    (hbuilds : lake.builds record.buildId = session.lake.builds record.buildId)
    (hcurrent : CurrentBuild formats.sha256 (readFrame formats) (inputs.env formats lake) record
      bytes source) :
    bytes = formats.encodeFrame frame ∧ sourceRowsAndDigests formats.sha256 frame = .ok source := by
  obtain ⟨-, -, written, candidate, artifact, manifest, plot, reread, hpublished⟩ := h
  obtain rfl : written = frame := Except.ok.inj (hpublished.frame.symm.trans hcall)
  have hreadable := (hpublished.isReadable hframe).1.congr hbuilds
  obtain ⟨hpath, hbytes, -⟩ :=
    GoldProgram.readSourceFrame_isReadable inputs.datasetRoot hreadable
  obtain ⟨path, hpath', hbytes'⟩ := hcurrent.file
  obtain rfl := Except.ok.inj (hpath.symm.trans hpath')
  obtain rfl := Except.ok.inj (hbytes.symm.trans hbytes')
  obtain ⟨frame', hread, -, hrows⟩ := hcurrent.rows
  obtain rfl := Except.ok.inj (hreadable.readFrame.symm.trans hread)
  exact ⟨rfl, hrows⟩

theorem wp_onDatabase {α : Type} {m : Transaction α} {Q : Post Loader PyError α}
    (h : wp m ⟨fun a t => Q.returned a { s with session := t },
      fun e t => Q.raised e { s with session := t }, fun t => Q.crashed { s with session := t }⟩
      ⟨s.session.replica, []⟩) : wp (onDatabase m) Q s :=
  wp_bind (wp_update (wp_onPart Loader.sessionPart h))

/-- Nothing that is stored has changed. -/
structure SameStored (s s' : Loader) : Prop where
  lake : s'.lake = s.lake
  replica : s'.session.replica = s.session.replica

/-- **A synchronization leaves the lake alone**, and where it does not return, the database
as well; where it returns, the database holds the current build. -/
theorem wp_goldSyncPostgres (formats : GoldFormats) (inputs : SyncInputs) (s : Loader) :
    wp (goldSyncPostgres formats inputs)
      ⟨fun result s' => s'.lake = s.lake ∧ ∃ record bytes source,
          CurrentBuild formats.sha256 (readFrame formats) (inputs.env formats s.lake.gold.lake)
            record bytes source
          ∧ result.sourceBuildId = record.buildId
          ∧ HoldsBuild formats.sha256 s'.session.replica source
            (buildState formats.sha256 record bytes source inputs.now),
        fun _ => SameStored s, SameStored s⟩ s := by
  refine wp_bind (wp_query (fun lake hlake => ?_) (fun _ => ⟨rfl, rfl⟩) ⟨rfl, rfl⟩)
  obtain rfl := Except.ok.inj hlake
  refine wp_onDatabase (wp_mono (wp_sync formats.sha256 (readFrame formats)
    (inputs.env formats s.lake.gold.lake) _) (fun result t h => ⟨rfl, h⟩) ?_ ?_)
  · rintro _ _ rfl
    exact ⟨rfl, rfl⟩
  · rintro _ rfl
    exact ⟨rfl, rfl⟩

/-- **The schemas are made anew, or nothing has happened.** -/
theorem wp_recreateSchema (s : Loader) :
    wp recreateSchema ⟨fun _ s' => s'.lake = s.lake ∧ s'.session.replica = emptyReplica,
      fun _ => SameStored s, SameStored s⟩ s := by
  have hsame : SameStored s { s with session := ⟨s.session.replica, []⟩ } := ⟨rfl, rfl⟩
  refine wp_onDatabase (wp_tryCatch (wp_atomically ?_))
  refine wp_bind (wp_query (fun _ _ => ?_) (fun _ => wp_throw hsame) hsame)
  refine wp_bind (wp_write ?_ (fun _ => ⟨wp_throw hsame, wp_throw hsame⟩) ⟨hsame, hsame⟩)
  exact wp_query (fun _ _ => ⟨rfl, rfl⟩) (fun _ => wp_throw hsame) hsame

end Stored
