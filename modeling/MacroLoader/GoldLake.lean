import MacroLoader.Program
import MacroLoader.GoldManifest

/-!
# The Gold files, and the programs that write them

The files of Gold are the catalog, the directories of the builds, and two files
at the root that repeat what the catalog says is current. They have no
transactions: every file is replaced on its own, by a rename that takes effect
or does not, and a program that is cut leaves the files as they are at that
moment.

A session is the files together with what has been done to them so far: the
catalogs that have been written, each with the step that wrote it, and the
deletions of the sweeper, each with the catalog that was on disk at that moment.
No program reads this history. It is there so that what is to hold at every
moment of every run can be said about the end of one.
-/

/-- The files of a build. -/
inductive GoldArtifact
  | data | manifest | plot
  deriving DecidableEq, Repr

/-- The name of a file in the directory of its build. -/
def GoldArtifact.fileName : GoldArtifact → String
  | data => "data.parquet"
  | manifest => "manifest.json"
  | plot => "feature_profile.png"

/-- The path of a file of a build, relative to the root of the dataset. -/
def artifactPath (artifact : GoldArtifact) (buildId : String) : String :=
  "versions/build_id=" ++ buildId ++ "/" ++ artifact.fileName

/-- The directory of a build: the files that are there. -/
abbrev BuildDirectory := GoldArtifact → Option Bytes

/-- **The Gold files.** -/
structure GoldLake where
  /-- `manifest.parquet`, if there is one. -/
  catalog : Option (List GoldCatalogRecord)
  /-- The directories of the builds. -/
  builds : String → Option BuildDirectory
  /-- `manifest.json`. -/
  rootJson : Option Bytes
  /-- `feature_profile.png`. -/
  rootProfile : Option Bytes

/-- The content of a file of a build. -/
def GoldLake.file (lake : GoldLake) (buildId : String) (artifact : GoldArtifact) : Option Bytes :=
  (lake.builds buildId).bind (fun directory => directory artifact)

/-- The records that are on disk. -/
def GoldLake.records (lake : GoldLake) : List GoldCatalogRecord := lake.catalog.getD []

/-- The steps that write the catalog. -/
inductive CatalogStep
  | staleFailed | registered | promoted | attemptFailed | marked
  deriving DecidableEq, Repr

/-- What is remembered of a session. -/
inductive GoldEvent
  /-- A catalog was written. -/
  | wrote (step : CatalogStep) (records : List GoldCatalogRecord)
  /-- The sweeper was called, with the catalog that was on disk. -/
  | sweeping (buildId : String) (onDisk : List GoldCatalogRecord)
  /-- The sweeper removed a file, with the catalog that was on disk. -/
  | removed (buildId : String) (artifact : GoldArtifact) (onDisk : List GoldCatalogRecord)

/-- **A session**: the files, and what has been done so far, the last first. -/
structure GoldSession where
  lake : GoldLake
  events : List GoldEvent

/-- A program on the Gold files. -/
abbrev GoldProgram := Program GoldSession PyError

namespace GoldProgram

open Program

variable (formats : GoldFormats)

/-- A call that changes no file but may fail: of the event sink, of a fault
injector, of an operation on a temporary file. -/
def signal (_event : String) : GoldProgram Unit := query (fun _ => .ok ())

/-- `LakePaths.gold_build_root`, which raises for a text that is no build id. -/
def goldBuildRoot (buildId : String) : GoldProgram Unit :=
  require (hasBuildIdShape buildId = true) (.valueError ("invalid Gold build_id: " ++ buildId))

/-! ## Files -/

/-- `path.is_file()`. -/
def isFile (buildId : String) (artifact : GoldArtifact) : GoldProgram Bool :=
  query (fun s => .ok (s.lake.file buildId artifact).isSome)

/-- `path.read_bytes()`. -/
def readFile (buildId : String) (artifact : GoldArtifact) : GoldProgram Bytes :=
  query (fun s =>
    match s.lake.file buildId artifact with
    | some payload => .ok payload
    | none => .error (.osError "No such file or directory"))

/-- The session with a directory put in the place of another. -/
def setBuild (buildId : String) (directory : Option BuildDirectory) (s : GoldSession) :
    GoldSession :=
  { s with lake.builds := Function.update s.lake.builds buildId directory }

/-- The session with a file of a build written, in a directory that is made if
there is none. -/
def setFile (buildId : String) (artifact : GoldArtifact) (payload : Option Bytes)
    (s : GoldSession) : GoldSession :=
  setBuild buildId
    (some (Function.update ((s.lake.builds buildId).getD (fun _ => none)) artifact payload)) s

/-- `os.mkdir`, which refuses a directory that exists. -/
def makeBuildDirectory (buildId : String) : GoldProgram Unit :=
  effect (fun s =>
    match s.lake.builds buildId with
    | some _ => (.error (.osError ("Gold build already exists: " ++ buildId)), s)
    | none => (.ok (), setBuild buildId (some (fun _ => none)) s))

/-- `_create_bytes`, which refuses a file that exists. -/
def createBytes (buildId : String) (artifact : GoldArtifact) (payload : Bytes) :
    GoldProgram Unit :=
  effect (fun s =>
    match s.lake.file buildId artifact with
    | some _ => (.error (.osError "File exists"), s)
    | none => (.ok (), setFile buildId artifact (some payload) s))

/-- `path.unlink(missing_ok=True)` on a file of a build. -/
def unlinkFile (buildId : String) (artifact : GoldArtifact) : GoldProgram Unit :=
  write (fun s =>
    match s.lake.file buildId artifact with
    | some _ => setFile buildId artifact none s
    | none => s)

/-- `build_root.rmdir()`, which refuses a directory that is not empty. -/
def removeBuildDirectory (buildId : String) : GoldProgram Unit :=
  effect (fun s =>
    if [GoldArtifact.data, .manifest, .plot].any (fun a => (s.lake.file buildId a).isSome) then
      (.error (.osError "Directory not empty"), s)
    else (.ok (), setBuild buildId none s))

/-- A step whose error is ignored. -/
def ignoringErrors (m : GoldProgram Unit) : GoldProgram Unit := tryCatch m (fun _ => pure ())

/-! ## The catalog -/

/-- `GoldCatalogRepository.read`. -/
def readRecords : GoldProgram (List GoldCatalogRecord) :=
  query (fun s => readCatalog s.lake.catalog)

/-- The session with a catalog written. -/
def setCatalog (step : CatalogStep) (rows : List GoldCatalogRecord) (s : GoldSession) :
    GoldSession :=
  { s with
    lake.catalog := some rows
    events := .wrote step rows :: s.events }

/-- `GoldCatalogRepository.replace`: the checks, then one rename. -/
def replaceCatalog (step : CatalogStep) (records : List GoldCatalogRecord) : GoldProgram Unit := do
  let rows ← ofExcept (catalogFrame records)
  write (setCatalog step rows)

/-! ## The root views -/

/-- `_utc_text` of the root views. -/
def viewText (value : PyDatetime) : Except PyError String :=
  utcText "Gold catalog materialized-view datetime must be timezone-aware" value

/-- `_utc_text` of the root views on a date-time that may be absent. -/
def viewText? : Option PyDatetime → Except PyError Json
  | none => .ok .null
  | some value => (viewText value).map .string

/-- The value of a status. -/
def statusValue : GoldBuildStatus → String
  | .building => "building"
  | .complete => "complete"
  | .failed => "failed"

/-- `_catalog_json`. -/
def catalogJson (record : GoldCatalogRecord) : Except PyError Bytes := do
  let completed ← viewText? record.completedAtUtc
  let maximum ← viewText? record.maxTimestamp
  let minimum ← viewText? record.minTimestamp
  let pruned ← viewText? record.prunedAtUtc
  let started ← viewText record.startedAtUtc
  return formats.dumps (.object
    [("build_id", .string record.buildId),
      ("build_manifest_path", .ofString? record.buildManifestPath),
      ("completed_at_utc", completed), ("current", .bool record.current),
      ("data_path", .ofString? record.dataPath), ("dataset_id", .string record.datasetId),
      ("feature_version", .int record.featureVersion), ("max_timestamp", maximum),
      ("min_timestamp", minimum), ("plot_path", .ofString? record.plotPath),
      ("pruned_at_utc", pruned),
      ("row_count", match record.rowCount with | none => .null | some n => .int n),
      ("schema_version", .int record.schemaVersion), ("started_at_utc", .string started),
      ("status", .string (statusValue record.status))])

/-- `_physical_paths`: the paths of a record are those of its build. -/
def physicalPaths (record : GoldCatalogRecord) : GoldProgram Unit := do
  require (record.dataPath = some (artifactPath .data record.buildId)
      ∧ record.buildManifestPath = some (artifactPath .manifest record.buildId)
      ∧ record.plotPath = some (artifactPath .plot record.buildId))
    (.valueError "Gold current catalog artifact path shape mismatch")
  goldBuildRoot record.buildId

/-- The root views when no build is current. -/
def clearViews : GoldProgram Unit := do
  write (fun s => { s with lake.rootJson := none })
  write (fun s => { s with lake.rootProfile := none })
  signal "after_clear"

/-- The root views of a current build. -/
def showBuild (record : GoldCatalogRecord) : GoldProgram Unit := do
  require (record.selectableComplete = true)
    (.valueError "Gold current row is not a selectable complete build")
  physicalPaths record
  let data ← isFile record.buildId .data
  let manifest ← isFile record.buildId .manifest
  let plot ← isFile record.buildId .plot
  require (data = true ∧ manifest = true ∧ plot = true)
    (.osError "Gold current bundle is physically incomplete")
  let plotBytes ← readFile record.buildId .plot
  require (isPng plotBytes = true) (.valueError "Gold current feature profile is not a PNG")
  let rootJson ← ofExcept (catalogJson formats record)
  signal "before_root_json"
  write (fun s => { s with lake.rootJson := some rootJson })
  signal "after_root_json"
  write (fun s => { s with lake.rootProfile := some plotBytes })
  signal "after_root_profile"

/-- **`GoldMaterializedViewWriter.refresh`.** -/
def refreshViews (records : List GoldCatalogRecord) : GoldProgram Unit :=
  match records.filter (·.current) with
  | [] => clearViews
  | [record] => showBuild formats record
  | _ => throw (.valueError "Gold catalog contains multiple current rows")

/-! ## What the programs leave alone -/

section Frame

variable {R : GoldSession → GoldSession → Prop} [Std.Refl R]

theorem moves_signal (event : String) : Moves R (signal event) := moves_query _

theorem moves_goldBuildRoot (buildId : String) : Moves R (goldBuildRoot buildId) := moves_require

theorem moves_isFile (buildId : String) (artifact : GoldArtifact) :
    Moves R (isFile buildId artifact) := moves_query _

theorem moves_readFile (buildId : String) (artifact : GoldArtifact) :
    Moves R (readFile buildId artifact) := moves_query _

end Frame

/-- The same but for the directory of one build. -/
structure OnlyBuild (buildId : String) (s s' : GoldSession) : Prop where
  events_eq : s'.events = s.events
  catalog_eq : s'.lake.catalog = s.lake.catalog
  rootJson_eq : s'.lake.rootJson = s.lake.rootJson
  rootProfile_eq : s'.lake.rootProfile = s.lake.rootProfile
  builds_eq : ∀ other, other ≠ buildId → s'.lake.builds other = s.lake.builds other

instance (buildId : String) : Std.Refl (OnlyBuild buildId) :=
  ⟨fun _ => ⟨rfl, rfl, rfl, rfl, fun _ _ => rfl⟩⟩

instance (buildId : String) : IsTrans GoldSession (OnlyBuild buildId) :=
  ⟨fun _ _ _ h h' => ⟨h'.events_eq.trans h.events_eq, h'.catalog_eq.trans h.catalog_eq,
    h'.rootJson_eq.trans h.rootJson_eq, h'.rootProfile_eq.trans h.rootProfile_eq,
    fun other hne => (h'.builds_eq other hne).trans (h.builds_eq other hne)⟩⟩

theorem onlyBuild_setBuild (buildId : String) (directory : Option BuildDirectory)
    (s : GoldSession) : OnlyBuild buildId s (setBuild buildId directory s) :=
  ⟨rfl, rfl, rfl, rfl, fun _ hne => Function.update_of_ne hne _ _⟩

theorem onlyBuild_setFile (buildId : String) (artifact : GoldArtifact) (payload : Option Bytes)
    (s : GoldSession) : OnlyBuild buildId s (setFile buildId artifact payload s) :=
  onlyBuild_setBuild buildId _ s

@[simp] theorem file_setFile (buildId : String) (artifact : GoldArtifact)
    (payload : Option Bytes) (s : GoldSession) :
    (setFile buildId artifact payload s).lake.file buildId artifact = payload := by
  simp [setFile, setBuild, GoldLake.file]

theorem file_setFile_of_ne {buildId : String} {artifact other : GoldArtifact}
    (hne : other ≠ artifact) (payload : Option Bytes) (s : GoldSession) :
    (setFile buildId artifact payload s).lake.file buildId other = s.lake.file buildId other := by
  unfold setFile setBuild GoldLake.file
  dsimp only
  rw [Function.update_self, Option.bind_some, Function.update_of_ne hne]
  cases s.lake.builds buildId <;> rfl

section Build

variable (buildId : String)

theorem moves_makeBuildDirectory : Moves (OnlyBuild buildId) (makeBuildDirectory buildId) := by
  refine moves_effect (fun s => ?_)
  split
  · exact Std.Refl.refl s
  · exact onlyBuild_setBuild buildId _ s

theorem moves_unlinkFile (artifact : GoldArtifact) :
    Moves (OnlyBuild buildId) (unlinkFile buildId artifact) := by
  refine moves_write (fun s => ?_)
  split
  · exact onlyBuild_setFile buildId artifact none s
  · exact Std.Refl.refl s

theorem moves_removeBuildDirectory :
    Moves (OnlyBuild buildId) (removeBuildDirectory buildId) := by
  refine moves_effect (fun s => ?_)
  split_ifs
  · exact Std.Refl.refl s
  · exact onlyBuild_setBuild buildId none s

end Build

/-- The same but for the root views. -/
structure OnlyViews (s s' : GoldSession) : Prop where
  events_eq : s'.events = s.events
  catalog_eq : s'.lake.catalog = s.lake.catalog
  builds_eq : s'.lake.builds = s.lake.builds

instance : Std.Refl OnlyViews := ⟨fun _ => ⟨rfl, rfl, rfl⟩⟩

instance : IsTrans GoldSession OnlyViews :=
  ⟨fun _ _ _ h h' => ⟨h'.events_eq.trans h.events_eq, h'.catalog_eq.trans h.catalog_eq,
    h'.builds_eq.trans h.builds_eq⟩⟩

theorem moves_showBuild (record : GoldCatalogRecord) :
    Moves OnlyViews (showBuild formats record) := by
  unfold showBuild physicalPaths
  repeat' first
    | exact moves_require
    | exact moves_goldBuildRoot _
    | exact moves_isFile _ _
    | exact moves_readFile _ _
    | exact moves_ofExcept _
    | exact moves_signal _
    | exact moves_write (fun _ => ⟨rfl, rfl, rfl⟩)
    | refine moves_bind ?_ (fun _ => ?_)

/-- **A refresh changes nothing but the root views**, whatever fails. -/
theorem moves_refreshViews (records : List GoldCatalogRecord) :
    Moves OnlyViews (refreshViews formats records) := by
  unfold refreshViews
  split
  · exact moves_bind (moves_write (fun _ => ⟨rfl, rfl, rfl⟩)) (fun _ =>
      moves_bind (moves_write (fun _ => ⟨rfl, rfl, rfl⟩)) (fun _ => moves_signal _))
  · exact moves_showBuild formats _
  · exact moves_throw _

end GoldProgram
