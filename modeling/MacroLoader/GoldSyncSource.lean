import MacroLoader.GoldFrameAssembly
import MacroLoader.GoldHistory
import MacroLoader.SyncProgress

/-!
# The published build as the synchronizer reads it

The synchronizer runs in another process than the publisher, and shares nothing
with it but the files. It checks them again, with checks of its own: the paths
of the record, every entry of the manifest, the digests. Between what the
publisher promises and what the reader asks for stands `IsPublished`, which a
publication establishes (`wp_publish`) and which is all that the reader needs
(`IsPublished.isReadable`).
-/

/-! ## Paths -/

/-- A text between its slashes. -/
def splitSlash : List Char → List (List Char)
  | [] => [[]]
  | c :: rest =>
    if c = '/' then [] :: splitSlash rest
    else
      match splitSlash rest with
      | [] => [[c]]
      | part :: parts => (c :: part) :: parts

/-- `Path(text).parts`: an empty part and `.` stand for nothing. -/
def pathParts (text : String) : List String :=
  ((splitSlash text.toList).map String.ofList).filter (fun part => part ≠ "" ∧ part ≠ ".")

/-- One part further down, or up. -/
def enter (directory : List String) (part : String) : List String :=
  if part = ".." then directory.dropLast else directory ++ [part]

theorem splitSlash_of_not_mem {part : List Char} (h : '/' ∉ part) : splitSlash part = [part] := by
  induction part with
  | nil => rfl
  | cons c part ih =>
    rw [List.mem_cons, not_or] at h
    rw [splitSlash, if_neg (Ne.symm h.1), ih h.2]

theorem splitSlash_append {part : List Char} (h : '/' ∉ part) (rest : List Char) :
    splitSlash (part ++ '/' :: rest) = part :: splitSlash rest := by
  induction part with
  | nil => rfl
  | cons c part ih =>
    rw [List.mem_cons, not_or] at h
    rw [List.cons_append, splitSlash, if_neg (Ne.symm h.1), ih h.2]

/-- The directories of the builds have names of one part. -/
theorem slash_not_mem_of_isBuildId {buildId : String} (h : isBuildId buildId = true) :
    '/' ∉ buildId.toList := by
  have hshape := hasBuildIdShape_of_isBuildId h
  simp only [hasBuildIdShape, Bool.and_eq_true, beq_iff_eq] at hshape
  obtain ⟨⟨⟨⟨hlength, hdate⟩, ht⟩, hclock⟩, hz⟩ := hshape
  intro hmem
  obtain ⟨i, hi, hget⟩ := List.mem_iff_getElem.mp hmem
  -- the character is a digit of the date, the T, a digit of the time, or the Z
  rcases (by omega : i < 8 ∨ i = 8 ∨ (9 ≤ i ∧ i < 15) ∨ i = 15) with hi' | rfl | hi' | rfl
  · have := List.all_eq_true.mp hdate '/' (List.mem_iff_getElem.mpr
      ⟨i, by rw [List.length_take]; omega, by rw [List.getElem_take, hget]⟩)
    exact absurd this (by decide)
  · rw [List.getElem?_eq_getElem hi, hget] at ht
    exact absurd ht (by decide)
  · have := List.all_eq_true.mp hclock '/' (List.mem_iff_getElem.mpr
      ⟨i - 9, by rw [List.length_take, List.length_drop]; omega, by
        rw [List.getElem_take, List.getElem_drop]
        simpa only [show 9 + (i - 9) = i by omega] using hget⟩)
    exact absurd this (by decide)
  · rw [List.getElem?_eq_getElem hi, hget] at hz
    exact absurd hz (by decide)

/-- The directory of a build and the name of a file in it. -/
def artifactParts (artifact : GoldArtifact) (buildId : String) : List String :=
  ["versions", "build_id=" ++ buildId, artifact.fileName]

theorem toList_artifactPath (buildId : String) (artifact : GoldArtifact) :
    (artifactPath artifact buildId).toList
      = "versions".toList ++ '/' :: (("build_id=" ++ buildId).toList
        ++ '/' :: artifact.fileName.toList) := by
  unfold artifactPath
  generalize artifact.fileName = name
  simp

/-- **The path of a file of a build** has the parts that it is made of. -/
theorem pathParts_artifactPath {buildId : String} (h : '/' ∉ buildId.toList)
    (artifact : GoldArtifact) :
    pathParts (artifactPath artifact buildId) = artifactParts artifact buildId := by
  have hname : '/' ∉ artifact.fileName.toList := by cases artifact <;> simp [GoldArtifact.fileName]
  have hdirectory : '/' ∉ ("build_id=" ++ buildId).toList := by simpa using h
  have hversions : '/' ∉ "versions".toList := by simp
  rw [pathParts, toList_artifactPath, splitSlash_append hversions, splitSlash_append hdirectory,
    splitSlash_of_not_mem hname]
  simp only [List.map_cons, List.map_nil, String.ofList_toList]
  -- none of the three parts is empty or a dot
  refine List.filter_eq_self.mpr (fun part hpart => ?_)
  simp only [List.mem_cons, List.not_mem_nil, or_false] at hpart
  rcases hpart with rfl | rfl | rfl
  · simp
  · have hdot : "build_id=" ++ buildId ≠ "." := fun heq => by
      simpa using congrArg String.toList heq
    simp [hdot]
  · cases artifact <;> simp [GoldArtifact.fileName]

/-! ## The source -/

section Source

variable (formats : GoldFormats) (lake : GoldLake) (datasetRoot : List String)

/-- `_resolve`: the parts of a path below the root of the dataset. -/
def resolve (relativeDataPath : String) : Except PyError (List String) := do
  check (relativeDataPath.toList.head? ≠ some '/')
    (.valueError "Gold sync data path must be relative to the Gold dataset root")
  let candidate := (pathParts relativeDataPath).foldl enter datasetRoot
  check (datasetRoot <+: candidate)
    (.valueError "Gold sync data path escapes the Gold dataset root")
  return candidate.drop datasetRoot.length

/-- The content of a file below the root of the dataset, if it is one of a build. -/
def GoldLake.fileAt (parts : List String) : Option Bytes :=
  match parts with
  | [versions, directory, name] =>
    if versions = "versions" ∧ "build_id=".toList.isPrefixOf directory.toList = true then
      ([GoldArtifact.data, .manifest, .plot].find? (fun a => a.fileName == name)).bind
        (lake.file (String.ofList (directory.toList.drop 9)))
    else none
  | _ => none

/-- `path.read_bytes()`, of a path that has to be a file. -/
def readPath (parts : List String) : Except PyError Bytes :=
  match lake.fileAt parts with
  | some payload => .ok payload
  | none => .error (.osError "No such file or directory")

/-- `GoldBuildStore.read_path`, of the bytes of the file. -/
def readFrame (payload : Bytes) : Except PyError GoldFrame := do
  let frame ← formats.decodeFrame payload
  frame.validate
  return frame

/-- `_timestamp_text`. -/
def timestampText : Option PyDatetime → Except PyError (Option String)
  | none => .ok none
  | some value => (utcText "Gold catalog timestamp must be timezone-aware" value).map some

/-- `_valid_input_dates`. -/
def validInputDates (item : Json) : Bool :=
  if item.hasNone "min_observation_date" || item.hasNone "max_observation_date" then
    item.hasNone "min_observation_date" && item.hasNone "max_observation_date"
  else
    match (item.get? "min_observation_date").bind Json.asString?,
      (item.get? "max_observation_date").bind Json.asString? with
    | some minimum, some maximum =>
      match readDateText minimum, readDateText maximum with
      | some minimum, some maximum => decide (minimum ≤ maximum)
      | _, _ => false
    | _, _ => false

/-- Whether an entry of the provenance is valid. -/
def validInput (item : Json) : Bool :=
  ((item.get? "row_count").bind Json.asInt?).any (fun n => decide (0 ≤ n))
    && ((item.get? "sha256").bind Json.asString?).any isSha256Hex
    && validInputDates item

/-- Whether a JSON value is an object. -/
def Json.isObject : Json → Bool
  | object _ => true
  | _ => false

/-- The items of a JSON value that is an array. -/
def Json.asArray? : Json → Option (List Json)
  | array items => some items
  | _ => none

/-- `payload.get(key) == number`, of a number that may be `None`. -/
def Json.hasInt? (value : Json) (key : String) : Option ℤ → Bool
  | none => value.hasNone key
  | some number => value.hasInt key number

/-- The entries that have to be those of the record, by key. -/
def expectedFields (payload : Json) (record : GoldCatalogRecord) : List (String × Bool) :=
  [("dataset_id", payload.hasString "dataset_id" record.datasetId),
    ("build_id", payload.hasString "build_id" record.buildId),
    ("artifact_state", payload.hasString "artifact_state" "built"),
    ("manifest_version", payload.hasInt "manifest_version" currentManifestVersion),
    ("schema_version", payload.hasInt "schema_version" record.schemaVersion),
    ("feature_version", payload.hasInt "feature_version" record.featureVersion),
    ("row_count", payload.hasInt? "row_count" record.rowCount),
    ("columns", payload.hasStrings "columns" goldColumnNames),
    ("data_path", payload.hasString "data_path" (artifactPath .data record.buildId)),
    ("plot_path", payload.hasString "plot_path" (artifactPath .plot record.buildId))]

/-- `_validate_manifest`. -/
def validateManifest (payload : Json) (record : GoldCatalogRecord) : Except PyError Unit := do
  (expectedFields payload record).forM (fun field =>
    check (field.2 = true) (.valueError ("Gold build manifest " ++ field.1 ++ " mismatch")))
  check (record.dataPath = some (artifactPath .data record.buildId)
      ∧ record.buildManifestPath = some (artifactPath .manifest record.buildId))
    (.valueError "Gold catalog path differs from selected build identity")
  check (record.schemaVersion = goldSchemaVersion ∧ record.featureVersion = goldFeatureVersion)
    (.valueError "Gold catalog semantic version is unsupported")
  check (((payload.get? "data_sha256").bind Json.asString?).any isSha256Hex = true)
    (.valueError "Gold build manifest data SHA-256 is invalid")
  check (((payload.get? "feature_set_hash").bind Json.asString?).any isSha256Hex = true)
    (.valueError "Gold build manifest feature set hash is invalid")
  check (((payload.get? "git_commit_hash").bind Json.asString?).any isGitHash = true)
    (.valueError "Gold build manifest Git identity is invalid")
  let minimum ← timestampText record.minTimestamp
  check (payload.hasString? "min_timestamp" minimum = true)
    (.valueError "Gold build manifest minimum timestamp mismatch")
  let maximum ← timestampText record.maxTimestamp
  check (payload.hasString? "max_timestamp" maximum = true)
    (.valueError "Gold build manifest maximum timestamp mismatch")
  let inputs := (payload.get? "inputs").bind Json.asArray?
  check (inputs.map (fun items => (items.filter Json.isObject).map
      (fun item => (item.get? "series_id").bind Json.asString?))
        = some (goldSourceSeries.map (fun s => some s.id)))
    (.valueError "Gold build manifest input provenance is not certified")
  check (∀ items ∈ inputs, items.length = goldSourceSeries.length
      ∧ items.all (fun item => item.isObject && validInput item) = true)
    (.valueError "Gold build manifest input provenance is invalid")

/-- **`FilesystemGoldFrameSource._validate_bundle`.** -/
def validateGoldBundle (record : GoldCatalogRecord) : Except PyError Unit := do
  check (record.artifactPathsComplete = true)
    (.valueError "Gold catalog record has incomplete artifact paths")
  let data ← resolve datasetRoot (record.dataPath.getD "")
  let manifest ← resolve datasetRoot (record.buildManifestPath.getD "")
  let plot ← resolve datasetRoot (record.plotPath.getD "")
  check (hasBuildIdShape record.buildId = true)
    (.valueError ("invalid Gold build_id: " ++ record.buildId))
  check (data = artifactParts .data record.buildId ∧ manifest = artifactParts .manifest record.buildId
      ∧ plot = artifactParts .plot record.buildId)
    (.valueError "Gold catalog artifact path does not match selected build")
  check ((lake.fileAt data).isSome = true ∧ (lake.fileAt manifest).isSome = true
      ∧ (lake.fileAt plot).isSome = true)
    (.osError "Gold selected bundle artifact is missing")
  let text ← readPath lake manifest
  let payload ← formats.loads text
  check (payload.isObject = true) (.valueError "Gold build manifest must be an object")
  validateManifest payload record
  let stored ← readPath lake data
  let _ ← readFrame formats stored
  check (payload.hasString "data_sha256" (formats.sha256 stored) = true)
    (.valueError "Gold selected data SHA-256 differs from build manifest")
  check (payload.hasString "feature_set_hash"
      (featureSetSha256 formats record.schemaVersion record.featureVersion) = true)
    (.valueError "Gold selected feature set hash differs from build manifest")

/-- **`FilesystemGoldFrameSource`**, on the files as they are. -/
def filesystemGoldFrameSource : GoldSource where
  validateBundle := validateGoldBundle formats lake datasetRoot
  readBytes relativeDataPath := do
    let parts ← resolve datasetRoot relativeDataPath
    readPath lake parts

end Source

/-! ## The files of a build -/

section Files

variable {buildId : String} {lake : GoldLake}

theorem foldl_enter {directory parts : List String} (h : ".." ∉ parts) :
    parts.foldl enter directory = directory ++ parts := by
  induction parts generalizing directory with
  | nil => simp
  | cons part parts ih =>
    rw [List.mem_cons, not_or] at h
    rw [List.foldl_cons, enter, if_neg (Ne.symm h.1), ih h.2, List.append_assoc]
    rfl

/-- **The path of a file of a build resolves** to the file. -/
theorem resolve_artifactPath (datasetRoot : List String) (h : isBuildId buildId = true)
    (artifact : GoldArtifact) :
    resolve datasetRoot (artifactPath artifact buildId) = .ok (artifactParts artifact buildId) := by
  have hhead : (artifactPath artifact buildId).toList.head? ≠ some '/' := by
    rw [toList_artifactPath]
    simp
  have hup : ".." ∉ artifactParts artifact buildId := by
    have hdirectory : ".." ≠ "build_id=" ++ buildId := fun heq => by
      simpa using congrArg String.toList heq
    cases artifact <;> simp [artifactParts, GoldArtifact.fileName, hdirectory]
  unfold resolve
  rw [pathParts_artifactPath (slash_not_mem_of_isBuildId h), foldl_enter hup]
  simp only [bind_eq_ok, check_eq_ok, exists_const, List.prefix_append, List.drop_left]
  exact ⟨hhead, trivial, rfl⟩

theorem fileAt_artifactParts (lake : GoldLake) (buildId : String) (artifact : GoldArtifact) :
    lake.fileAt (artifactParts artifact buildId) = lake.file buildId artifact := by
  have hname : [GoldArtifact.data, .manifest, .plot].find? (fun a => a.fileName == artifact.fileName)
      = some artifact := by cases artifact <;> simp [GoldArtifact.fileName]
  have hprefix : "build_id=".toList.isPrefixOf ("build_id=" ++ buildId).toList = true := by simp
  have hdrop : ("build_id=" ++ buildId).toList.drop 9 = buildId.toList := by simp
  show (if "versions" = "versions" ∧ "build_id=".toList.isPrefixOf ("build_id=" ++ buildId).toList = true
    then _ else none) = _
  rw [if_pos ⟨rfl, hprefix⟩, hname, hdrop, String.ofList_toList]
  rfl

theorem readPath_artifactParts {artifact : GoldArtifact} {payload : Bytes}
    (h : lake.file buildId artifact = some payload) :
    readPath lake (artifactParts artifact buildId) = .ok payload := by
  rw [readPath, fileAt_artifactParts, h]

end Files

/-! ## The manifest -/

/-- The two ways to write a bound as text are the same. -/
theorem timestampText_of_sidecarText {value : Option PyDatetime} {text : Option String}
    (h : sidecarText? value = .ok text) : timestampText value = .ok text := by
  cases value with
  | none => exact h
  | some value =>
    cases haware : value.isAware with
    | false => simp [sidecarText?, sidecarText, utcText, haware, Except.map] at h
    | true =>
      rw [← h]
      simp [timestampText, sidecarText?, sidecarText, utcText, haware]

section Manifest

variable {formats : GoldFormats} {frame : GoldFrame} {buildId dataPath plotPath : String}
  {startedAt completedAt : PyDatetime} {dataSha256 : Sha256Hex}
  {inputs : List SilverInputSignature} {manifest : GoldBuildManifest}

/-- **A manifest that was built**: everything that a reader looks up in it. -/
structure IsManifest (formats : GoldFormats) (frame : GoldFrame) (buildId dataPath plotPath : String)
    (dataSha256 : Sha256Hex) (inputs : List SilverInputSignature) (manifest : GoldBuildManifest) :
    Prop where
  datasetId : manifest.datasetId = postgresDatasetId
  buildId : manifest.buildId = buildId
  artifactState : manifest.artifactState = "built"
  manifestVersion : manifest.manifestVersion = currentManifestVersion
  schemaVersion : manifest.schemaVersion = goldSchemaVersion
  featureVersion : manifest.featureVersion = goldFeatureVersion
  rowCount : manifest.rowCount = frame.rows.length
  columns : manifest.columns = goldColumnNames
  bounds : ∃ bounds, frame.bounds = .ok bounds
    ∧ timestampText bounds.1 = .ok manifest.minTimestamp
    ∧ timestampText bounds.2 = .ok manifest.maxTimestamp
  dataPath : manifest.dataPath = dataPath
  dataSha256 : manifest.dataSha256 = dataSha256
  featureSetHash : manifest.featureSetHash
    = featureSetSha256 formats goldSchemaVersion goldFeatureVersion
  gitCommitHash : manifest.gitCommitHash = formats.gitCommitHash
  inputs : manifest.inputs = inputs
  plotPath : manifest.plotPath = plotPath

theorem isManifest_of_ok (hinputs : inputs ≠ [])
    (h : buildManifest formats frame buildId startedAt completedAt dataPath dataSha256 plotPath
      inputs = .ok manifest) :
    IsManifest formats frame buildId dataPath plotPath dataSha256 inputs manifest := by
  have hempty : inputs.isEmpty = false := by simpa using hinputs
  unfold buildManifest at h
  simp only [bind_eq_ok, check_eq_ok, exists_const, hempty, Bool.false_eq_true, ↓reduceIte] at h
  obtain ⟨_, -, _, -, -, bounds, hbounds, _, -, minText, hmin, maxText, hmax, h⟩ := h
  cases h
  exact {
    datasetId := rfl, buildId := rfl, artifactState := rfl
    manifestVersion := rfl, schemaVersion := rfl, featureVersion := rfl, rowCount := rfl, columns := rfl
    bounds := ⟨bounds, hbounds, timestampText_of_sidecarText hmin, timestampText_of_sidecarText hmax⟩
    dataPath := rfl, dataSha256 := rfl, featureSetHash := rfl, gitCommitHash := rfl, inputs := rfl
    plotPath := rfl }

section Lookup

variable {value : Json} {key text : String}

theorem hasString_of_get? (h : value.get? key = some (.string text)) :
    value.hasString key text = true := by
  simp [Json.hasString, h, Json.asString?]

theorem hasInt_of_get? {number : ℤ} (h : value.get? key = some (.int number)) :
    value.hasInt key number = true := by
  simp [Json.hasInt, h, Json.asInt?]

theorem hasStrings_of_get? {texts : List String}
    (h : value.get? key = some (.array (texts.map .string))) : value.hasStrings key texts = true := by
  simp [Json.hasStrings, h, List.map_map, Function.comp_def, Json.asString?]

theorem hasString?_of_get? {text : Option String} (h : value.get? key = some (.ofString? text)) :
    value.hasString? key text = true := by
  cases text with
  | none => simp [Json.hasString?, Json.hasNone, h, Json.ofString?]
  | some text => exact hasString_of_get? h

end Lookup

/-- **The entries of a manifest**, as they are looked up. -/
theorem get?_asDict (m : GoldBuildManifest) :
    m.asDict.get? "dataset_id" = some (.string m.datasetId)
      ∧ m.asDict.get? "build_id" = some (.string m.buildId)
      ∧ m.asDict.get? "artifact_state" = some (.string m.artifactState)
      ∧ m.asDict.get? "manifest_version" = some (.int m.manifestVersion)
      ∧ m.asDict.get? "schema_version" = some (.int m.schemaVersion)
      ∧ m.asDict.get? "feature_version" = some (.int m.featureVersion)
      ∧ m.asDict.get? "row_count" = some (.int m.rowCount)
      ∧ m.asDict.get? "columns" = some (.array (m.columns.map .string))
      ∧ m.asDict.get? "data_path" = some (.string m.dataPath)
      ∧ m.asDict.get? "plot_path" = some (.string m.plotPath)
      ∧ m.asDict.get? "data_sha256" = some (.string m.dataSha256)
      ∧ m.asDict.get? "feature_set_hash" = some (.string m.featureSetHash)
      ∧ m.asDict.get? "git_commit_hash" = some (.string m.gitCommitHash)
      ∧ m.asDict.get? "min_timestamp" = some (.ofString? m.minTimestamp)
      ∧ m.asDict.get? "max_timestamp" = some (.ofString? m.maxTimestamp)
      ∧ m.asDict.get? "inputs" = some (.array (m.inputs.map SilverInputSignature.asDict)) :=
  ⟨rfl, rfl, rfl, rfl, rfl, rfl, rfl, rfl, rfl, rfl, rfl, rfl, rfl, rfl, rfl, rfl⟩

/-- **The provenance of a series is valid** to the reader: its dates are both there or
both not, and their texts are read back. -/
theorem validInput_asDict {seriesId : String} {signature : SilverInputSignature}
    (h : IsSignature seriesId signature) : validInput signature.asDict = true := by
  have hcount : ((signature.asDict.get? "row_count").bind Json.asInt?) = some signature.rowCount := rfl
  have hdigest : ((signature.asDict.get? "sha256").bind Json.asString?) = some signature.sha256 := rfl
  have hmin : signature.asDict.get? "min_observation_date"
      = some (.ofString? (signature.minObservationDate.map dateText)) := rfl
  have hmax : signature.asDict.get? "max_observation_date"
      = some (.ofString? (signature.maxObservationDate.map dateText)) := rfl
  have hdates : validInputDates signature.asDict = true := by
    unfold validInputDates Json.hasNone
    rw [hmin, hmax]
    obtain ⟨-, -, -, htogether, hordered, hreadable⟩ := h
    cases hminimum : signature.minObservationDate with
    | none =>
      rw [hminimum] at htogether
      have hmaximum : signature.maxObservationDate = none := by simpa using htogether.symm
      rw [hmaximum]
      rfl
    | some a =>
      rw [hminimum] at htogether
      obtain ⟨b, hmaximum⟩ := Option.isSome_iff_exists.mp htogether.symm
      rw [hmaximum]
      have hread : ∀ d, signature.minObservationDate = some d ∨ signature.maxObservationDate = some d →
          readDateText (dateText d) = some d := by
        intro d hd
        obtain ⟨h₁, h₂⟩ := hreadable d hd
        obtain ⟨hy₁, hy₂⟩ := year_bounds h₁ h₂
        exact readDateText_dateText hy₁ hy₂
      show (match readDateText (dateText a), readDateText (dateText b) with
        | some minimum, some maximum => decide (minimum ≤ maximum)
        | _, _ => false) = true
      rw [hread a (.inl hminimum), hread b (.inr hmaximum)]
      exact decide_eq_true (hordered a hminimum b hmaximum)
  simp [validInput, hcount, hdigest, hdates, h.rowCount_nonneg, h.digest]

/-- **The provenance of all series is valid** to the reader, and certified. -/
theorem inputs_asDict {inputs : List SilverInputSignature}
    (h : List.Forall₂ (fun s signature => IsSignature s.id signature) goldSourceSeries inputs) :
    ((inputs.map SilverInputSignature.asDict).filter Json.isObject).map
        (fun item => (item.get? "series_id").bind Json.asString?)
        = goldSourceSeries.map (fun s => some s.id)
      ∧ (inputs.map SilverInputSignature.asDict).length = goldSourceSeries.length
      ∧ (inputs.map SilverInputSignature.asDict).all
        (fun item => item.isObject && validInput item) = true := by
  refine ⟨?_, ?_, ?_⟩
  · rw [List.filter_eq_self.mpr (by simp [SilverInputSignature.asDict, Json.isObject]),
      List.map_map, eq_comm, ← List.forall₂_eq_eq_eq, List.forall₂_map_left_iff,
      List.forall₂_map_right_iff]
    exact h.imp (fun s signature hs => congrArg some hs.seriesId_eq.symm)
  · rw [List.length_map, h.length_eq]
  · simp only [List.all_map, List.all_eq_true, Function.comp_apply, Bool.and_eq_true]
    intro signature hsignature
    obtain ⟨s, -, hs⟩ := forall₂_exists_left h hsignature
    exact ⟨rfl, validInput_asDict hs⟩

/-- **The reader accepts a manifest that was built** for the record of the build. -/
theorem validateManifest_isManifest {record : GoldCatalogRecord}
    (h : IsManifest formats frame record.buildId (artifactPath .data record.buildId)
      (artifactPath .plot record.buildId) dataSha256 inputs manifest)
    (hinputs : List.Forall₂ (fun s signature => IsSignature s.id signature) goldSourceSeries inputs)
    (hdataset : record.datasetId = postgresDatasetId)
    (hschema : record.schemaVersion = goldSchemaVersion)
    (hfeature : record.featureVersion = goldFeatureVersion)
    (hcount : record.rowCount = some (frame.rows.length : ℤ))
    (hbounds : frame.bounds = .ok (record.minTimestamp, record.maxTimestamp))
    (hdata : record.dataPath = some (artifactPath .data record.buildId))
    (hmanifest : record.buildManifestPath = some (artifactPath .manifest record.buildId)) :
    validateManifest manifest.asDict record = .ok () := by
  obtain ⟨kdataset, kbuild, kstate, kversion, kschema, kfeature, kcount, kcolumns, kdata, kplot,
    kdigest, kfeatures, kgit, kmin, kmax, kinputs⟩ := get?_asDict manifest
  obtain ⟨bounds, hb, hmin, hmax⟩ := h.bounds
  obtain rfl := Except.ok.inj (hbounds.symm.trans hb)
  obtain ⟨hcertified, hlength, hvalid⟩ := inputs_asDict hinputs
  have hfields : ∀ field ∈ expectedFields manifest.asDict record, field.2 = true := by
    intro field hfield
    simp only [expectedFields, List.mem_cons, List.not_mem_nil, or_false] at hfield
    rcases hfield with rfl | rfl | rfl | rfl | rfl | rfl | rfl | rfl | rfl | rfl
    · exact hasString_of_get? (kdataset.trans (by rw [h.datasetId, hdataset]))
    · exact hasString_of_get? (kbuild.trans (by rw [h.buildId]))
    · exact hasString_of_get? (kstate.trans (by rw [h.artifactState]))
    · exact hasInt_of_get? (kversion.trans (by rw [h.manifestVersion]))
    · exact hasInt_of_get? (kschema.trans (by rw [h.schemaVersion, hschema]))
    · exact hasInt_of_get? (kfeature.trans (by rw [h.featureVersion, hfeature]))
    · rw [hcount]
      exact hasInt_of_get? (kcount.trans (by rw [h.rowCount]))
    · exact hasStrings_of_get? (kcolumns.trans (by rw [h.columns]))
    · exact hasString_of_get? (kdata.trans (by rw [h.dataPath]))
    · exact hasString_of_get? (kplot.trans (by rw [h.plotPath]))
  have hsha : isSha256Hex manifest.dataSha256 = true := h.dataSha256 ▸ dataSha256.2
  have hset : isSha256Hex manifest.featureSetHash = true := h.featureSetHash ▸ (featureSetSha256 _ _ _).2
  have hgit : isGitHash manifest.gitCommitHash = true := h.gitCommitHash ▸ formats.gitCommitHash.2
  unfold validateManifest
  simp only [bind_eq_ok, forM_eq_ok, check_eq_ok, exists_const, kdigest, kfeatures, kgit, kinputs,
    h.inputs, Option.bind_some, Json.asString?, Json.asArray?, Option.any_some, Option.map_some,
    Option.mem_def, Option.some.injEq, forall_eq']
  exact ⟨hfields, ⟨hdata, hmanifest⟩, ⟨hschema, hfeature⟩, hsha, hset, hgit, _, hmin,
    hasString?_of_get? kmin, _, hmax, hasString?_of_get? kmax, hcertified, hlength, hvalid⟩

end Manifest

/-! ## The published build -/

namespace GoldFrame

variable {frame : GoldFrame}

theorem loadBound_eq_ok {t : Option Timestamp} {bound : Option PyDatetime}
    (h : loadBound t = .ok bound) :
    bound = t.map PyDatetime.utc ∧ ∀ instant ∈ t, loadDatetime instant = .ok instant := by
  cases t with
  | none =>
    cases h
    exact ⟨rfl, fun _ h => (nomatch h)⟩
  | some t =>
    cases ht : loadDatetime t with
    | error e =>
      rw [loadBound, ht] at h
      cases h
    | ok t' =>
      obtain rfl := loadDatetime_eq_ok ht
      rw [loadBound, ht] at h
      cases h
      exact ⟨rfl, fun _ h => Option.some.inj h ▸ ht⟩

/-- The bounds of a frame are those of its timestamps, and if they can be read then
so can every timestamp between them. -/
theorem bounds_eq_ok {bounds : Option PyDatetime × Option PyDatetime}
    (h : frame.bounds = .ok bounds) :
    bounds = (frame.timestamps.min?.map PyDatetime.utc, frame.timestamps.max?.map PyDatetime.utc)
      ∧ ∀ t ∈ frame.timestamps, loadDatetime t = .ok t := by
  unfold GoldFrame.bounds at h
  simp only [bind_eq_ok] at h
  obtain ⟨minimum, hmin, maximum, hmax, h⟩ := h
  cases h
  obtain ⟨rfl, hmin'⟩ := loadBound_eq_ok hmin
  obtain ⟨rfl, hmax'⟩ := loadBound_eq_ok hmax
  refine ⟨rfl, fun t ht => ?_⟩
  obtain ⟨a, ha⟩ := Option.isSome_iff_exists.mp (List.isSome_min?_of_mem ht)
  obtain ⟨b, hb⟩ := Option.isSome_iff_exists.mp (List.isSome_max?_of_mem ht)
  have hat := (List.min?_eq_some_iff.mp ha).2 t ht
  have htb := (List.max?_eq_some_iff.mp hb).2 t ht
  have hloaded := hmin' a ha
  have hloaded' := hmax' b hb
  unfold loadDatetime at hloaded hloaded' ⊢
  split_ifs at hloaded hloaded' with h₁ h₂
  rw [if_pos ⟨h₁.1.trans hat, htb.trans h₂.2⟩]

end GoldFrame

/-- **The rows of an assembled frame have digests**: the timestamps are readable and
distinct, and the cells are finite. -/
theorem IsAssembled.sourceRowsAndDigests {frame : GoldFrame} (h : IsAssembled frame)
    {bounds : Option PyDatetime × Option PyDatetime} (hbounds : frame.bounds = .ok bounds)
    (sha256 : Bytes → Sha256Hex) : ∃ source, sourceRowsAndDigests sha256 frame = .ok source := by
  have hkeys : (frame.rows.filterMap (fun r => r.1.map (fun t => (t, r.2)))).map Prod.fst
      = frame.timestamps := by
    rw [GoldFrame.timestamps, List.map_filterMap]
    exact congrArg (List.filterMap · frame.rows) (funext (fun r => by cases r.1 <;> rfl))
  have hnodup : frame.timestamps.Nodup := by
    have hsome : frame.rows.map Prod.fst = frame.timestamps.map some := by
      rw [GoldFrame.timestamps, List.map_filterMap, ← List.filterMap_eq_map]
      refine List.filterMap_congr (fun r hr => ?_)
      obtain ⟨t, ht⟩ := Option.isSome_iff_exists.mp (h.isSome r hr)
      simp [ht]
    exact List.Nodup.of_map _ (hsome ▸ h.nodup)
  have htable : sourceTable frame
      = .ok (KeyedTable.ofRows (frame.rows.filterMap (fun r => r.1.map (fun t => (t, r.2))))) := by
    have hnull : ¬ frame.rows.any (fun r => r.1.isNone) = true := by
      rw [Bool.not_eq_true, List.any_eq_false]
      exact fun r hr => by simpa using Option.isSome_iff_ne_none.mp (h.isSome r hr)
    rw [sourceTable, if_neg hnull, if_neg (by rwa [hkeys, not_not])]
  refine sourceRowsAndDigests_isOk sha256 htable (fun t row hrow => ?_)
  rw [KeyedTable.get?_ofRows (hkeys ▸ hnodup)] at hrow
  have hmem := KeyedTable.mem_of_lookupRows hrow
  obtain ⟨r, hr, hrt⟩ := List.mem_filterMap.mp hmem
  obtain ⟨t', ht', heq⟩ := Option.map_eq_some_iff.mp hrt
  cases heq
  refine ⟨(GoldFrame.bounds_eq_ok hbounds).2 t (List.mem_filterMap.mpr ⟨r, hr, ht'⟩), ?_⟩
  refine ⟨fun c => (r.2 c).map (fun x => if x.isZero then Float64.zero else x), ?_⟩
  rw [canonicalRow_eq_ok_iff]
  intro c
  cases hc : r.2 c with
  | none => rfl
  | some x =>
    rw [canonicalCell, canonicalFloat, if_pos (h.finite r hr c x hc)]
    rfl

namespace GoldProgram

section Published

variable {formats : GoldFormats} {call : PublishCall} {s : GoldSession} {record : GoldCatalogRecord}
  {written reread : GoldFrame} {candidate : GoldPublicationBundle} {artifact : GoldBuildArtifact}
  {manifest : GoldBuildManifest} {plot : Bytes}

/-- **What the reader looks at of a published build**, in the terms of the record. -/
structure IsReadable (formats : GoldFormats) (lake : GoldLake) (record : GoldCatalogRecord)
    (frame : GoldFrame) (manifest : GoldBuildManifest) : Prop where
  isId : isBuildId record.buildId = true
  data : lake.file record.buildId .data = some (formats.encodeFrame frame)
  manifestFile : lake.file record.buildId .manifest = some (manifestBytes formats manifest)
  plot : (lake.file record.buildId .plot).isSome = true
  paths : record.dataPath = some (artifactPath .data record.buildId)
    ∧ record.buildManifestPath = some (artifactPath .manifest record.buildId)
    ∧ record.plotPath = some (artifactPath .plot record.buildId)
  dataset : record.datasetId = postgresDatasetId
  versions : record.schemaVersion = goldSchemaVersion ∧ record.featureVersion = goldFeatureVersion
  decode : formats.decodeFrame (formats.encodeFrame frame) = .ok frame
  valid : frame.validate = .ok ()
  rowCount : record.rowCount = some (frame.rows.length : ℤ)
  bounds : frame.bounds = .ok (record.minTimestamp, record.maxTimestamp)

/-- **A published build is readable**, if the format of frames reads back what it
writes. -/
theorem IsPublished.isReadable
    (h : IsPublished formats call s record written candidate artifact manifest plot reread)
    (hframe : formats.decodeFrame (formats.encodeFrame written) = .ok written) :
    IsReadable formats s.lake record written manifest
      ∧ IsManifest formats written record.buildId (artifactPath .data record.buildId)
        (artifactPath .plot record.buildId) (formats.sha256 (formats.encodeFrame written))
        call.inputs manifest := by
  obtain ⟨-, hc, hrecord⟩ := h
  have hb := hc.bundle
  obtain rfl : written = reread := Except.ok.inj (hframe.symm.trans hb.decode)
  have hmanifest := isManifest_of_ok hc.inputs_ne hc.manifest_eq
  have hid := hc.buildId_eq
  have hcandidate := hc.candidate_eq
  have hpath : artifact.dataPath = artifactPath .data record.buildId := hid ▸ hb.path
  rw [hpath, ← hb.digest] at hmanifest
  refine ⟨⟨?_, ?_, ?_, ?_, ?_, ?_, ?_, hframe, hb.valid, ?_, ?_⟩, hmanifest⟩
  · exact hid ▸ hb.isId
  · exact hid ▸ hb.file
  · exact hid ▸ hb.manifestFile
  · rw [← hid, hb.plotFile]
    rfl
  all_goals rw [hrecord, hcandidate]
  · exact ⟨rfl, rfl, rfl⟩
  · rfl
  · exact ⟨hmanifest.schemaVersion, hmanifest.featureVersion⟩
  · exact congrArg some hb.rowCount.symm
  · exact hb.bounds

/-- The manifest of a published build, in the terms of the record. -/
theorem IsPublished.buildManifest_eq
    (h : IsPublished formats call s record written candidate artifact manifest plot reread)
    (hframe : formats.decodeFrame (formats.encodeFrame written) = .ok written) :
    buildManifest formats written record.buildId record.startedAtUtc candidate.completedAtUtc
      (artifactPath .data record.buildId) (formats.sha256 (formats.encodeFrame written))
      (artifactPath .plot record.buildId) call.inputs = .ok manifest := by
  obtain ⟨-, hc, -⟩ := h
  have hb := hc.bundle
  obtain rfl : written = reread := Except.ok.inj (hframe.symm.trans hb.decode)
  have hmanifest := hc.manifest_eq
  rwa [hb.path, ← hb.digest, hc.buildId_eq] at hmanifest

/-- The same files are as readable. -/
theorem IsReadable.congr {lake lake' : GoldLake} {frame : GoldFrame}
    (h : IsReadable formats lake record frame manifest)
    (hbuilds : lake'.builds record.buildId = lake.builds record.buildId) :
    IsReadable formats lake' record frame manifest := by
  have hfile : ∀ a, lake'.file record.buildId a = lake.file record.buildId a := fun a =>
    congrArg (fun directory : Option BuildDirectory => directory.bind (fun files => files a)) hbuilds
  exact { h with
    data := (hfile _).trans h.data
    manifestFile := (hfile _).trans h.manifestFile
    plot := (congrArg Option.isSome (hfile _)).trans h.plot }

section Readable

variable {lake : GoldLake} {frame : GoldFrame} {inputs : List SilverInputSignature}

theorem IsReadable.readFrame (h : IsReadable formats lake record frame manifest) :
    readFrame formats (formats.encodeFrame frame) = .ok frame :=
  bind_eq_ok.mpr ⟨frame, h.decode, bind_eq_ok.mpr ⟨(), h.valid, rfl⟩⟩

theorem IsReadable.artifactPathsComplete (h : IsReadable formats lake record frame manifest) :
    record.artifactPathsComplete = true := by
  obtain ⟨hdata, hmanifest, hplot⟩ := h.paths
  have hne : ∀ a, artifactPath a record.buildId ≠ "" := fun a heq => by
    have := congrArg String.toList heq
    rw [toList_artifactPath] at this
    simp at this
  simp [GoldCatalogRecord.artifactPathsComplete, GoldCatalogRecord.pathPresent, hdata, hmanifest,
    hplot, hne]

/-- **The reader accepts a published build.** -/
theorem validateGoldBundle_isReadable (datasetRoot : List String)
    (h : IsReadable formats lake record frame manifest)
    (hmanifest : IsManifest formats frame record.buildId (artifactPath .data record.buildId)
      (artifactPath .plot record.buildId) (formats.sha256 (formats.encodeFrame frame)) inputs
      manifest)
    (hinputs : List.Forall₂ (fun s signature => IsSignature s.id signature) goldSourceSeries inputs)
    (hjson : formats.loads (manifestBytes formats manifest) = .ok manifest.asDict) :
    validateGoldBundle formats lake datasetRoot record = .ok () := by
  obtain ⟨hdata, hman, hplot⟩ := h.paths
  have hresolve := fun artifact => resolve_artifactPath datasetRoot h.isId artifact
  obtain ⟨-, -, -, -, -, -, -, -, -, -, kdigest, kfeatures, -⟩ := get?_asDict manifest
  have hvalid := validateManifest_isManifest hmanifest hinputs h.dataset h.versions.1 h.versions.2
    h.rowCount h.bounds hdata hman
  have hdigest : manifest.asDict.hasString "data_sha256"
      (formats.sha256 (formats.encodeFrame frame)) = true :=
    hasString_of_get? (kdigest.trans (by rw [hmanifest.dataSha256]))
  have hfeatures : manifest.asDict.hasString "feature_set_hash"
      (featureSetSha256 formats record.schemaVersion record.featureVersion) = true :=
    hasString_of_get? (kfeatures.trans (by
      rw [hmanifest.featureSetHash, h.versions.1, h.versions.2]))
  unfold validateGoldBundle
  simp only [bind_eq_ok, check_eq_ok, exists_const, hdata, hman, hplot, Option.getD_some, hresolve,
    Except.ok.injEq, exists_eq_left', fileAt_artifactParts]
  refine ⟨h.artifactPathsComplete, hasBuildIdShape_of_isBuildId h.isId, ⟨trivial, trivial, trivial⟩, ?_, _,
    readPath_artifactParts h.manifestFile, _, hjson, rfl, (), hvalid, _,
    readPath_artifactParts h.data, frame, h.readFrame, hdigest, hfeatures⟩
  exact ⟨by rw [h.data]; rfl, by rw [h.manifestFile]; rfl, h.plot⟩

theorem IsReadable.metadata (h : IsReadable formats lake record frame manifest) :
    validateFrameMetadata frame record = .ok () := by
  obtain ⟨hbounds, -⟩ := GoldFrame.bounds_eq_ok h.bounds
  obtain ⟨hmin, hmax⟩ := Prod.mk.inj hbounds
  unfold validateFrameMetadata
  rw [h.rowCount]
  dsimp only
  rw [if_neg (by simp), if_neg (by simp [hmin, hmax])]

/-- **The data file is found** under the path of the record, and the frame that is
read back is the published one, with the metadata of the record. -/
theorem readSourceFrame_isReadable (datasetRoot : List String)
    (h : IsReadable formats lake record frame manifest) :
    requiredDataPath record = .ok (artifactPath .data record.buildId)
      ∧ (filesystemGoldFrameSource formats lake datasetRoot).readBytes
        (artifactPath .data record.buildId) = .ok (formats.encodeFrame frame)
      ∧ readSourceFrame (readFrame formats) (filesystemGoldFrameSource formats lake datasetRoot)
        (artifactPath .data record.buildId) record = .ok frame := by
  have hpath : requiredDataPath record = .ok (artifactPath .data record.buildId) := by
    have hcomplete := h.artifactPathsComplete
    simp only [GoldCatalogRecord.artifactPathsComplete, Bool.and_eq_true, h.paths.1,
      GoldCatalogRecord.pathPresent, Option.any_some, bne_iff_ne] at hcomplete
    rw [requiredDataPath, h.paths.1]
    exact if_neg hcomplete.1.1
  have hbytes : (filesystemGoldFrameSource formats lake datasetRoot).readBytes
      (artifactPath .data record.buildId) = .ok (formats.encodeFrame frame) :=
    bind_eq_ok.mpr ⟨_, resolve_artifactPath datasetRoot h.isId .data, readPath_artifactParts h.data⟩
  exact ⟨hpath, hbytes, bind_eq_ok.mpr ⟨_, hbytes, bind_eq_ok.mpr ⟨_, h.readFrame, bind_eq_ok.mpr
    ⟨(), h.metadata, rfl⟩⟩⟩⟩

end Readable

end Published

end GoldProgram

/-! ## What is promoted is accepted -/

/-- A synchronizer that reads Gold files, before a database of the right schema. -/
def lakeSync (formats : GoldFormats) (lake : GoldLake) (datasetRoot : List String)
    (now : PyDatetime) : GoldPostgresDeltaSync where
  catalog := readCatalog lake.catalog
  source := filesystemGoldFrameSource formats lake datasetRoot
  preflightSchema := .ok ()
  now := now

/-- The current record of a catalog is the one that a synchronizer selects. -/
theorem selectCurrentSyncRecord_of_current {records : List GoldCatalogRecord}
    {record : GoldCatalogRecord} (hwf : WellFormedCatalog records) (hrecord : record ∈ records)
    (hcurrent : record.current = true) (hdataset : record.datasetId = postgresDatasetId)
    (hversions : record.schemaVersion = goldSchemaVersion
      ∧ record.featureVersion = goldFeatureVersion) :
    selectCurrentSyncRecord records = .ok record := by
  have hmatches : (GoldCompatibility.mk goldSchemaVersion goldFeatureVersion).matches record = true := by
    simp [GoldCompatibility.matches, hversions]
  have hselectable := (hwf.records_wellFormed record hrecord).selectable_of_current hcurrent
  have hstrict : strictCurrent records ⟨goldSchemaVersion, goldFeatureVersion⟩ = .ok record := by
    simp [strictCurrent, singleCurrent, hwf.filter_current hrecord hcurrent, hselectable, hmatches]
  exact bind_eq_ok.mpr ⟨record, hstrict, bind_eq_ok.mpr ⟨(), check_eq_ok.mpr hdataset,
    bind_eq_ok.mpr ⟨(), check_eq_ok.mpr hmatches, rfl⟩⟩⟩

/-! ## A sample -/

/-- One observation of every series on one day. -/
def sampleSilver (s : Series) : Option SilverFrame :=
  some
    { hasSilverSchema := true
      rows := [{
        observationDate := some 0
        seriesId := some s.id
        value := some Float64.one
        bar := fun _ => some Float64.one
        unit := some s.contract.unit
        provider := none
        sourceId := some s.contract.sourceId
        fetchedAtUtc := some 0 }] }

/-- A digest of zeros. -/
def sampleDigest (_ : Bytes) : Sha256Hex :=
  ⟨"0000000000000000000000000000000000000000000000000000000000000000", by decide⟩

/-- What is assembled of it. -/
def sampleAssembly : GoldFrameBuild :=
  match assembleGoldFrame sampleDigest (fun _ => []) sampleSilver with
  | .ok build => build
  | .error _ => ⟨⟨[]⟩, 0, 0, []⟩

/-- The manifest of its build. -/
def sampleManifest : GoldBuildManifest where
  datasetId := postgresDatasetId
  buildId := "19700101T000030Z"
  artifactState := "built"
  manifestVersion := currentManifestVersion
  schemaVersion := goldSchemaVersion
  featureVersion := goldFeatureVersion
  startedAtUtc := instantText 30000000
  completedAtUtc := instantText 30000000
  rowCount := 1
  columns := goldColumnNames
  minTimestamp := some (instantText 0)
  maxTimestamp := some (instantText 0)
  dataPath := artifactPath .data "19700101T000030Z"
  dataSha256 := sampleDigest []
  featureSetHash := sampleDigest []
  gitCommitHash := sampleFormats.gitCommitHash
  inputs := sampleAssembly.inputs
  plotPath := artifactPath .plot "19700101T000030Z"

/-- Formats that read back what is written of the sample. -/
def sampleReadable : GoldFormats :=
  { sampleFormats with
    sha256 := sampleDigest
    decodeFrame := fun _ => .ok sampleAssembly.frame
    loads := fun _ => .ok sampleManifest.asDict }

/-- The publication of the sample. -/
def sampleAccepted : GoldProgram.PublishCall :=
  { samplePublication 30 with
    frame := .ok sampleAssembly.frame
    inputs := sampleAssembly.inputs }

/-- A session before the first publication. -/
def emptySession : GoldSession where
  lake := { catalog := none, builds := fun _ => none, rootJson := none, rootProfile := none }
  events := []


theorem sampleAssembly_eq_ok :
    assembleGoldFrame sampleDigest (fun _ => []) sampleSilver = .ok sampleAssembly := by
  have hok : (match assembleGoldFrame sampleDigest (fun _ => []) sampleSilver with
    | .ok _ => true
    | .error _ => false) = true := by decide +kernel
  unfold sampleAssembly
  cases h : assembleGoldFrame sampleDigest (fun _ => []) sampleSilver with
  | ok build => rfl
  | error e => rw [h] at hok; cases hok

/-- Whether a publication returns the record of the sample. -/
def returnsSample : Outcome PyError GoldCatalogRecord → Bool
  | .returned record => decide (record.buildId = "19700101T000030Z"
      ∧ record.startedAtUtc = .utc 30000000 ∧ record.completedAtUtc = some (.utc 30000000))
  | _ => false

/-- The publication of the sample returns. -/
theorem sample_returned : ∃ record published rest,
    GoldProgram.publish sampleReadable sampleAccepted emptySession [] = (.returned record, published, rest)
      ∧ record.buildId = "19700101T000030Z" ∧ record.startedAtUtc = .utc 30000000
      ∧ record.completedAtUtc = some (.utc 30000000) := by
  have hrun : returnsSample (GoldProgram.publish sampleReadable sampleAccepted emptySession []).1
      = true := by decide +kernel
  rcases heq : GoldProgram.publish sampleReadable sampleAccepted emptySession [] with
    ⟨_ | _ | _, published, rest⟩
  · rw [heq] at hrun
    exact ⟨_, published, rest, rfl, of_decide_eq_true hrun⟩
  · rw [heq] at hrun
    cases hrun
  · rw [heq] at hrun
    cases hrun

/-- The manifest of the sample is the one that is read back. -/
theorem manifest_sample {manifest : GoldBuildManifest}
    (h : buildManifest sampleReadable sampleAssembly.frame "19700101T000030Z" (.utc 30000000)
      (.utc 30000000) (artifactPath .data "19700101T000030Z") (sampleDigest [])
      (artifactPath .plot "19700101T000030Z") sampleAssembly.inputs = .ok manifest) :
    manifest = sampleManifest := by
  have hempty : sampleAssembly.inputs.isEmpty = false := by decide +kernel
  have hbounds : sampleAssembly.frame.bounds = .ok (some (.utc 0), some (.utc 0)) := by rfl
  have hcount : sampleAssembly.frame.rows.length = 1 := by decide +kernel
  unfold buildManifest at h
  simp only [bind_eq_ok, check_eq_ok, exists_const, hempty, Bool.false_eq_true, ↓reduceIte, hbounds] at h
  obtain ⟨_, hstarted, _, hcompleted, -, bounds, hbounds, _, -, minText, hmin, maxText, hmax, h⟩ := h
  cases hstarted
  cases hcompleted
  cases hbounds
  cases hmin
  cases hmax
  cases h
  unfold sampleManifest
  rw [hcount]
  rfl

/-! ## The theorem -/

/-- **What the publisher promotes the synchronizer accepts.** A publication of an
assembled frame that returns has its record in the catalog file, as the current
one. As long as the files of the build are those that were published, the reader
accepts them for the record, the frame it reads is the published one, a delta to it
can be planned from any state of the index, and while the catalog has the record a
synchronization gets as far as the database. -/
theorem published_build_accepted (formats : GoldFormats) (writeCsv : List SilverRow → Bytes)
    (silverBySeries : Series → Option SilverFrame) (build : GoldFrameBuild)
    (hbuild : assembleGoldFrame formats.sha256 writeCsv silverBySeries = .ok build)
    (hframe : formats.decodeFrame (formats.encodeFrame build.frame) = .ok build.frame)
    (call : GoldProgram.PublishCall)
    (hcall : call.frame = .ok build.frame ∧ call.inputs = build.inputs)
    (session published : GoldSession) (faults rest : List (Fault PyError))
    (record : GoldCatalogRecord)
    (hpublish : GoldProgram.publish formats call session faults
      = (.returned record, published, rest))
    (hjson : ∀ completedAt ∈ record.completedAtUtc, ∀ manifest,
      buildManifest formats build.frame record.buildId record.startedAtUtc completedAt
        (artifactPath .data record.buildId) (formats.sha256 (formats.encodeFrame build.frame))
        (artifactPath .plot record.buildId) build.inputs = .ok manifest →
      formats.loads (formats.dumps manifest.asDict) = .ok manifest.asDict) :
    (readCatalog published.lake.catalog = .ok published.lake.records
        ∧ record ∈ published.lake.records ∧ record.current = true)
      ∧ ∀ lake datasetRoot, lake.builds record.buildId = published.lake.builds record.buildId →
        validateGoldBundle formats lake datasetRoot record = .ok ()
          ∧ readSourceFrame (readFrame formats) (filesystemGoldFrameSource formats lake datasetRoot)
            (artifactPath .data record.buildId) record = .ok build.frame
          ∧ (∀ target syncState, (syncState = none → target.rows = []) →
            ∃ plan, planGoldDelta formats.sha256 build.frame target syncState = .ok plan)
          ∧ ∀ records now, readCatalog lake.catalog = .ok records → record ∈ records →
            now.isAware = true → ∃ desired,
              prepareSync formats.sha256 (lakeSync formats lake datasetRoot now)
                = .ok (record, artifactPath .data record.buildId, desired) := by
  have hleads : Leads session session := .refl
  have hreturn := GoldProgram.wp_publish formats call hleads faults
  rw [hpublish] at hreturn
  obtain ⟨-, -, hrecord, hcurrent, hwf, written, candidate, artifact, manifest, plot, reread,
    hpublished⟩ := hreturn
  obtain rfl : written = build.frame := Except.ok.inj (hpublished.frame.symm.trans hcall.1)
  obtain ⟨hassembled, -, -, hinputs⟩ := assembleGoldFrame_spec hbuild
  obtain ⟨hreadable, hmanifest⟩ := hpublished.isReadable hframe
  have hread := hjson candidate.completedAtUtc (by rw [hpublished.record_eq]; rfl) manifest
    (hcall.2 ▸ hpublished.buildManifest_eq hframe)
  refine ⟨⟨hwf.readCatalog, hrecord, hcurrent⟩, fun lake datasetRoot hbuilds => ?_⟩
  have hlake := hreadable.congr hbuilds
  have hvalid := GoldProgram.validateGoldBundle_isReadable datasetRoot hlake hmanifest
    (hcall.2 ▸ hinputs) hread
  obtain ⟨hpath, hbytes, hsource⟩ := GoldProgram.readSourceFrame_isReadable datasetRoot hlake
  obtain ⟨source, hrows⟩ := hassembled.sourceRowsAndDigests hlake.bounds formats.sha256
  refine ⟨hvalid, hsource, fun target syncState hstate => ?_, fun records now hcatalog hmem haware => ?_⟩
  · exact ⟨_, planGoldDelta_eq_ok_iff.mpr ⟨source, hrows, hstate, rfl⟩⟩
  · have hselect := selectCurrentSyncRecord_of_current (readCatalog_eq_ok hcatalog).2 hmem hcurrent
      hlake.dataset hlake.versions
    have hcurrentBuild : CurrentBuild formats.sha256 (readFrame formats)
        (lakeSync formats lake datasetRoot now) record (formats.encodeFrame build.frame) source :=
      { selected := ⟨records, hcatalog, hselect⟩
        bundle := by
          show validateBundle (filesystemGoldFrameSource formats lake datasetRoot) record = .ok ()
          rw [validateBundle]
          dsimp only [filesystemGoldFrameSource]
          rw [hvalid]
        preflight := rfl
        file := ⟨_, hpath, hbytes⟩
        rows := ⟨build.frame, hlake.readFrame, hlake.metadata, hrows⟩ }
    obtain ⟨path, frame, hprepare, -, -⟩ := hcurrentBuild.prepareSync_eq haware
    obtain ⟨bytes, -, -, -, hpath', -⟩ := prepareSync_eq_ok hprepare
    obtain rfl := Except.ok.inj (hpath.symm.trans hpath')
    exact ⟨_, hprepare⟩

/-- The published sample is accepted from its own files. -/
theorem published_build_accepted_sample : ∃ record published rest,
    GoldProgram.publish sampleReadable sampleAccepted emptySession [] = (.returned record, published, rest)
      ∧ validateGoldBundle sampleReadable published.lake [] record = .ok ()
      ∧ ∃ desired, prepareSync sampleReadable.sha256 (lakeSync sampleReadable published.lake [] (.utc 0))
        = .ok (record, artifactPath .data record.buildId, desired) := by
  obtain ⟨record, published, rest, hreturned, hid, hstarted, hcompleted⟩ := sample_returned
  have hjson : ∀ completedAt ∈ record.completedAtUtc, ∀ manifest,
      buildManifest sampleReadable sampleAssembly.frame record.buildId record.startedAtUtc completedAt
        (artifactPath .data record.buildId) (sampleDigest [])
        (artifactPath .plot record.buildId) sampleAssembly.inputs = .ok manifest →
      sampleReadable.loads (sampleReadable.dumps manifest.asDict) = .ok manifest.asDict := by
    rw [hcompleted, hid, hstarted]
    intro completedAt hmem manifest hmanifest
    obtain rfl := Option.some.inj hmem
    rw [manifest_sample hmanifest]
    rfl
  obtain ⟨⟨hcatalog, hrecord, -⟩, haccepted⟩ := published_build_accepted sampleReadable (fun _ => [])
    sampleSilver sampleAssembly sampleAssembly_eq_ok rfl sampleAccepted ⟨rfl, rfl⟩ emptySession
    published [] rest record hreturned hjson
  obtain ⟨hvalid, -, -, hprepare⟩ := haccepted _ [] rfl
  exact ⟨record, published, rest, hreturned, hvalid, hprepare _ (.utc 0) hcatalog hrecord rfl⟩
