import MacroLoader.GoldLake

/-!
# Building a bundle

A bundle is built in a directory of its own, which must not exist before. The
data file comes first, then the picture, then the manifest, and each is read
back and compared with what was to be written. Nothing outside the directory is
touched: whatever goes wrong, and wherever, the catalog, the root views and the
bundles of the other builds are as they were (`wp_createAndValidate`).
-/

/-- `GoldBuildArtifact`: the data file of a build. -/
structure GoldBuildArtifact where
  buildId : String
  dataPath : String
  dataSha256 : Sha256Hex
  rowCount : ℤ
  minTimestamp : Option PyDatetime
  maxTimestamp : Option PyDatetime

/-- `GoldSidecarArtifacts`: the manifest and the picture of a build. -/
structure GoldSidecarArtifacts where
  manifest : GoldBuildManifest
  manifestPath : String
  plotPath : String
  manifestSha256 : Sha256Hex
  plotSha256 : Sha256Hex

/-- `GoldPublicationBundle`: a validated candidate for the catalog. -/
structure GoldPublicationBundle where
  buildId : String
  completedAtUtc : PyDatetime
  schemaVersion : ℤ
  featureVersion : ℤ
  rowCount : ℤ
  minTimestamp : Option PyDatetime
  maxTimestamp : Option PyDatetime
  dataPath : String
  buildManifestPath : String
  plotPath : String

namespace GoldProgram

open Program

variable (formats : GoldFormats)

/-! ## The data file -/

/-- `_validate_build_id`. -/
def validateBuildId (buildId : String) : GoldProgram Unit :=
  require (isBuildId buildId = true) (.valueError "build_id must match YYYYMMDDTHHMMSSZ")

/-- `shutil.rmtree(build_dir, ignore_errors=True)` of a directory that holds the
data file at most: whatever cannot be removed stays. -/
def removeBuildTree (buildId : String) : GoldProgram Unit := do
  ignoringErrors (unlinkFile buildId .data)
  ignoringErrors (removeBuildDirectory buildId)

/-- `GoldBuildStore.create` in the new directory. -/
def writeData (frame : GoldFrame) (buildId : String) : GoldProgram GoldBuildArtifact := do
  signal "after_directory"
  let payload := formats.encodeFrame frame
  signal "after_temp"
  write (setFile buildId .data (some payload))
  signal "after_replace"
  let reread ← readFile buildId .data
  let rereadFrame ← ofExcept (formats.decodeFrame reread)
  ofExcept rereadFrame.validate
  let stored ← readFile buildId .data
  require (formats.sha256 stored = formats.sha256 payload)
    (.osError "Gold data SHA-256 mismatch after durable write")
  let bounds ← ofExcept rereadFrame.bounds
  return {
    buildId := buildId
    dataPath := artifactPath .data buildId
    dataSha256 := formats.sha256 payload
    rowCount := rereadFrame.rows.length
    minTimestamp := bounds.1
    maxTimestamp := bounds.2 }

/-- **`GoldBuildStore.create`**, of a frame or of the error of a frame whose columns
or types are not the canonical ones. -/
def createData (frame : Except PyError GoldFrame) (buildId : String) :
    GoldProgram GoldBuildArtifact := do
  let frame ← ofExcept frame
  ofExcept frame.validate
  validateBuildId buildId
  goldBuildRoot buildId
  makeBuildDirectory buildId
  tryCatch (writeData formats frame buildId) (fun e => do
    signal "unlink"
    removeBuildTree buildId
    throw e)

/-- `GoldBuildStore.read_build`. -/
def readBuild (buildId : String) : GoldProgram GoldFrame := do
  validateBuildId buildId
  let present ← isFile buildId .data
  require (present = true) (.osError "No such file or directory")
  let payload ← readFile buildId .data
  let frame ← ofExcept (formats.decodeFrame payload)
  ofExcept frame.validate
  return frame

/-! ## The sidecars -/

/-- `_validated_frame`: the data file again, compared with the artifact. -/
def validatedFrame (artifact : GoldBuildArtifact) : GoldProgram GoldFrame := do
  goldBuildRoot artifact.buildId
  require (artifact.dataPath = artifactPath .data artifact.buildId)
    (.valueError "Gold build artifact data path mismatch")
  let present ← isFile artifact.buildId .data
  require (present = true) (.osError "No such file or directory")
  let payload ← readFile artifact.buildId .data
  require (formats.sha256 payload = artifact.dataSha256)
    (.valueError "Gold build artifact data SHA-256 mismatch")
  let frame ← readBuild formats artifact.buildId
  let bounds ← ofExcept frame.bounds
  require ((frame.rows.length : ℤ) = artifact.rowCount)
    (.valueError "Gold build artifact row count mismatch")
  require (bounds = (artifact.minTimestamp, artifact.maxTimestamp))
    (.valueError "Gold build artifact timestamp bounds mismatch")
  return frame

/-- `_canonical_json` of a manifest: `to_json_bytes`. -/
def manifestBytes (manifest : GoldBuildManifest) : Bytes := formats.dumps manifest.asDict

/-- `GoldSidecarStore.validate_bundle`. -/
def validateBundleFiles (artifact : GoldBuildArtifact) (sidecars : GoldSidecarArtifacts) :
    GoldProgram Unit := do
  let _ ← validatedFrame formats artifact
  let buildId := artifact.buildId
  let manifest := sidecars.manifest
  require (sidecars.manifestPath = artifactPath .manifest buildId)
    (.valueError "Gold build manifest path mismatch")
  require (sidecars.plotPath = artifactPath .plot buildId)
    (.valueError "Gold feature profile path mismatch")
  let manifestPresent ← isFile buildId .manifest
  let plotPresent ← isFile buildId .plot
  require (manifestPresent = true ∧ plotPresent = true)
    (.osError "Gold build bundle is incomplete")
  let payload ← readFile buildId .manifest
  require (payload = manifestBytes formats manifest)
    (.valueError "Gold build manifest bytes mismatch")
  require (formats.sha256 payload = sidecars.manifestSha256)
    (.valueError "Gold build manifest SHA-256 mismatch")
  let plot ← readFile buildId .plot
  require (isPng plot = true) (.valueError "Gold feature profile is not a PNG")
  require (formats.sha256 plot = sidecars.plotSha256)
    (.valueError "Gold feature profile SHA-256 mismatch")
  let parsed ← ofExcept (formats.loads payload)
  require (parsed.keys = expectedManifestKeys)
    (.valueError "Gold build manifest key set mismatch")
  require (manifest.artifactState = "built")
    (.valueError "Gold build sidecar artifact_state must be built")
  require ((parsed.get? "status").isNone = true)
    (.valueError "Gold build manifest must not contain publication status")
  require (manifest.buildId = buildId) (.valueError "Gold build identity mismatch")
  require (manifest.dataPath = artifact.dataPath) (.valueError "Gold build data path mismatch")
  require (manifest.plotPath = sidecars.plotPath) (.valueError "Gold build plot path mismatch")
  require (manifest.dataSha256 = artifact.dataSha256)
    (.valueError "Gold build manifest data SHA-256 mismatch")
  require (manifest.rowCount = artifact.rowCount)
    (.valueError "Gold build manifest row count mismatch")
  require (manifest.featureSetHash
      = featureSetSha256 formats manifest.schemaVersion manifest.featureVersion)
    (.valueError "Gold build feature-set hash mismatch")

/-- **`GoldSidecarStore.create`.** -/
def createSidecars (artifact : GoldBuildArtifact) (startedAtUtc completedAtUtc : PyDatetime)
    (inputs : List SilverInputSignature) : GoldProgram GoldSidecarArtifacts := do
  require (inputs ≠ [])
    (.valueError "Gold sidecar creation requires certified Silver input provenance")
  let buildId := artifact.buildId
  goldBuildRoot buildId
  let manifestPresent ← isFile buildId .manifest
  let plotPresent ← isFile buildId .plot
  require (¬ (manifestPresent = true ∨ plotPresent = true))
    (.osError ("Gold sidecars already exist for build " ++ buildId))
  let frame ← validatedFrame formats artifact
  let plotBytes ← ofExcept (formats.renderProfile frame)
  require (isPng plotBytes = true)
    (.valueError "Gold feature profile renderer must return a PNG")
  signal "after_plot_bytes"
  createBytes buildId .plot plotBytes
  signal "after_plot_create"
  let manifest ← ofExcept (buildManifest formats frame buildId startedAtUtc completedAtUtc
    artifact.dataPath artifact.dataSha256 (artifactPath .plot buildId) inputs)
  signal "after_manifest_bytes"
  createBytes buildId .manifest (manifestBytes formats manifest)
  signal "after_manifest_create"
  let sidecars : GoldSidecarArtifacts :=
    { manifest := manifest
      manifestPath := artifactPath .manifest buildId
      plotPath := artifactPath .plot buildId
      manifestSha256 := formats.sha256 (manifestBytes formats manifest)
      plotSha256 := formats.sha256 plotBytes }
  validateBundleFiles formats artifact sidecars
  return sidecars

/-! ## The bundle -/

/-- `_validate_candidate`. -/
def validateCandidate (artifact : GoldBuildArtifact) (sidecars : GoldSidecarArtifacts)
    (inputs : List SilverInputSignature) : GoldProgram Unit := do
  let buildId := artifact.buildId
  let manifest := sidecars.manifest
  goldBuildRoot buildId
  require ((artifact.dataPath, sidecars.manifestPath, sidecars.plotPath)
      = (artifactPath .data buildId, artifactPath .manifest buildId, artifactPath .plot buildId))
    (.valueError "Gold candidate physical artifact path mismatch")
  require (manifest.buildId = buildId)
    (.valueError "Gold candidate build manifest build_id mismatch")
  require (manifest.schemaVersion = goldSchemaVersion)
    (.valueError "Gold candidate build manifest schema_version mismatch")
  require (manifest.featureVersion = goldFeatureVersion)
    (.valueError "Gold candidate build manifest feature_version mismatch")
  require (manifest.provenanceCertified = true ∧ manifest.inputs = inputs)
    (.valueError "Gold candidate input provenance mismatch")
  require (manifest.rowCount = artifact.rowCount)
    (.valueError "Gold candidate build manifest row count mismatch")
  require (manifest.dataSha256 = artifact.dataSha256)
    (.valueError "Gold candidate build manifest data SHA-256 mismatch")
  require (manifest.dataPath = artifactPath .data buildId)
    (.valueError "Gold candidate build manifest data path mismatch")
  require (manifest.plotPath = artifactPath .plot buildId)
    (.valueError "Gold candidate build manifest plot path mismatch")
  validateBundleFiles formats artifact sidecars
  let _ ← readBuild formats buildId

/-- **`GoldBundleAdapter.create_and_validate`.** -/
def createAndValidate (frame : Except PyError GoldFrame) (buildId : String)
    (startedAtUtc completionClock : PyDatetime) (inputs : List SilverInputSignature) :
    GoldProgram GoldPublicationBundle := do
  require (inputs ≠ [])
    (.valueError "Gold publication requires certified Silver input provenance")
  let artifact ← createData formats frame buildId
  let completed ← ofExcept
    (utcDatetime "Gold bundle completion clock must be timezone-aware" completionClock)
  let sidecars ← createSidecars formats artifact startedAtUtc completed inputs
  signal "after_bundle_create"
  validateCandidate formats artifact sidecars inputs
  return {
    buildId := artifact.buildId
    completedAtUtc := completed
    schemaVersion := sidecars.manifest.schemaVersion
    featureVersion := sidecars.manifest.featureVersion
    rowCount := artifact.rowCount
    minTimestamp := artifact.minTimestamp
    maxTimestamp := artifact.maxTimestamp
    dataPath := artifact.dataPath
    buildManifestPath := sidecars.manifestPath
    plotPath := sidecars.plotPath }

/-! ## Only the directory is touched -/

theorem moves_removeBuildTree (buildId : String) :
    Moves (OnlyBuild buildId) (removeBuildTree buildId) :=
  moves_bind (moves_tryCatch (moves_unlinkFile buildId .data) (fun _ => moves_pure ())) (fun _ =>
    moves_tryCatch (moves_removeBuildDirectory buildId) (fun _ => moves_pure ()))

section Specs

variable {formats} {I : GoldSession → Prop} {s s₀ : GoldSession} {buildId : String}

theorem readFile_eq_ok {payload : Bytes} {artifact : GoldArtifact}
    (h : (match s.lake.file buildId artifact with
      | some payload => Except.ok payload
      | none => .error (PyError.osError "No such file or directory")) = .ok payload) :
    s.lake.file buildId artifact = some payload := by
  split at h
  · next heq => rw [heq, Except.ok.inj h]
  · cases h

/-- What a read of the data file finds. -/
structure IsData (formats : GoldFormats) (s : GoldSession) (buildId : String) (payload : Bytes)
    (frame : GoldFrame) : Prop where
  isId : isBuildId buildId = true
  file : s.lake.file buildId .data = some payload
  decode : formats.decodeFrame payload = .ok frame
  valid : frame.validate = .ok ()

theorem wp_readBuild (h : I s) :
    wp (readBuild formats buildId) (Post.keeping I (fun frame s' =>
      s' = s ∧ ∃ payload, IsData formats s buildId payload frame)) s := by
  unfold readBuild
  refine wp_bind_require h (fun hid => wp_bind_query h (fun _ _ => wp_bind_require h (fun _ => ?_)))
  refine wp_bind_query h (fun payload hfile => wp_bind_ofExcept h (fun frame hdecode => ?_))
  refine wp_bind_ofExcept h (fun _ hvalid => wp_pure_keeping h ⟨rfl, payload, ?_⟩)
  exact ⟨hid, readFile_eq_ok hfile, hdecode, hvalid⟩

/-- What the checks of an artifact establish. -/
structure IsArtifact (formats : GoldFormats) (s : GoldSession) (artifact : GoldBuildArtifact)
    (payload : Bytes) (frame : GoldFrame) : Prop extends
    IsData formats s artifact.buildId payload frame where
  digest : formats.sha256 payload = artifact.dataSha256
  path : artifact.dataPath = artifactPath .data artifact.buildId
  rowCount : (frame.rows.length : ℤ) = artifact.rowCount
  bounds : frame.bounds = .ok (artifact.minTimestamp, artifact.maxTimestamp)

theorem wp_validatedFrame {artifact : GoldBuildArtifact} (h : I s) :
    wp (validatedFrame formats artifact) (Post.keeping I (fun frame s' =>
      s' = s ∧ ∃ payload, IsArtifact formats s artifact payload frame)) s := by
  unfold validatedFrame
  refine wp_bind_require h (fun _ => wp_bind_require h (fun hpath => wp_bind_query h (fun _ _ => ?_)))
  refine wp_bind_require h (fun _ => wp_bind_query h (fun payload hfile => ?_))
  refine wp_bind_require h (fun hdigest => wp_bind_keeping (wp_readBuild h) ?_)
  rintro frame s' - ⟨rfl, payload', hdata⟩
  refine wp_bind_ofExcept h (fun bounds hbounds => wp_bind_require h (fun hcount => ?_))
  refine wp_bind_require h (fun heq => wp_pure_keeping h ⟨rfl, payload', hdata, ?_, hpath, hcount, ?_⟩)
  · have := hdata.file.symm.trans (readFile_eq_ok hfile)
    rwa [Option.some.inj this]
  · rwa [← heq]

/-- What the validation of a bundle establishes. -/
structure IsBundle (formats : GoldFormats) (s : GoldSession) (artifact : GoldBuildArtifact)
    (manifest : GoldBuildManifest) (payload plot : Bytes) (frame : GoldFrame) : Prop extends
    IsArtifact formats s artifact payload frame where
  manifestFile : s.lake.file artifact.buildId .manifest = some (manifestBytes formats manifest)
  plotFile : s.lake.file artifact.buildId .plot = some plot
  png : isPng plot = true

theorem wp_validateBundleFiles {artifact : GoldBuildArtifact} {sidecars : GoldSidecarArtifacts}
    (h : I s) :
    wp (validateBundleFiles formats artifact sidecars) (Post.keeping I (fun _ s' =>
      s' = s ∧ ∃ payload plot frame,
        IsBundle formats s artifact sidecars.manifest payload plot frame)) s := by
  unfold validateBundleFiles
  refine wp_bind_keeping (wp_validatedFrame h) ?_
  rintro frame s' - ⟨rfl, payload, hartifact⟩
  refine wp_bind_require h (fun _ => wp_bind_require h (fun _ => ?_))
  refine wp_bind_query h (fun _ _ => wp_bind_query h (fun _ _ => wp_bind_require h (fun _ => ?_)))
  refine wp_bind_query h (fun stored hmanifest => wp_bind_require h (fun hbytes => ?_))
  refine wp_bind_require h (fun _ => wp_bind_query h (fun plot hplot => ?_))
  refine wp_bind_require h (fun hpng => wp_bind_require h (fun _ => wp_bind_ofExcept h (fun _ _ => ?_)))
  -- what is checked of the manifest from here on follows from how it was built
  refine wp_keeping_mono (P := fun _ s' => s' = _) ?_ (fun _ _ _ hs => ⟨hs, payload, plot, frame,
    hartifact, hbytes ▸ readFile_eq_ok hmanifest, readFile_eq_ok hplot, hpng⟩)
  refine wp_bind_require h (fun _ => wp_bind_require h (fun _ => wp_bind_require h (fun _ => ?_)))
  refine wp_bind_require h (fun _ => wp_bind_require h (fun _ => wp_bind_require h (fun _ => ?_)))
  exact wp_bind_require h (fun _ => wp_bind_require h (fun _ => wp_require_keeping h (fun _ => rfl)))

theorem wp_writeData {frame : GoldFrame} (h : OnlyBuild buildId s₀ s)
    (hid : isBuildId buildId = true) :
    wp (writeData formats frame buildId) (Post.keeping (OnlyBuild buildId s₀) (fun artifact s' =>
      artifact.buildId = buildId
        ∧ ∃ reread, IsArtifact formats s' artifact (formats.encodeFrame frame) reread)) s := by
  have h' : OnlyBuild buildId s₀ (setFile buildId .data (some (formats.encodeFrame frame)) s) :=
    IsTrans.trans _ _ _ h (onlyBuild_setFile buildId .data _ s)
  unfold writeData
  refine wp_bind_query h (fun _ _ => wp_bind_query h (fun _ _ => wp_bind_write h h' ?_))
  refine wp_bind_query h' (fun _ _ => wp_bind_query h' (fun reread hreread => ?_))
  obtain rfl : reread = formats.encodeFrame frame :=
    Option.some.inj ((readFile_eq_ok hreread).symm.trans (file_setFile buildId .data _ s))
  refine wp_bind_ofExcept h' (fun rereadFrame hdecode => wp_bind_ofExcept h' (fun _ hvalid => ?_))
  refine wp_bind_query h' (fun _ _ => wp_bind_require h' (fun _ => ?_))
  refine wp_bind_ofExcept h' (fun bounds hbounds => wp_pure_keeping h' ⟨rfl, rereadFrame, ?_⟩)
  exact ⟨⟨hid, readFile_eq_ok hreread, hdecode, hvalid⟩, rfl, rfl, rfl, hbounds⟩

/-- **The data file of a new build** is in a directory that was not there. -/
theorem wp_createData {frame : Except PyError GoldFrame} (h : OnlyBuild buildId s₀ s) :
    wp (createData formats frame buildId) (Post.keeping (OnlyBuild buildId s₀) (fun artifact s' =>
      artifact.buildId = buildId ∧ ∃ written reread, frame = .ok written
        ∧ IsArtifact formats s' artifact (formats.encodeFrame written) reread)) s := by
  unfold createData
  refine wp_bind_ofExcept h (fun written hwritten => wp_bind_ofExcept h (fun _ _ => ?_))
  refine wp_bind_require h (fun hid => wp_bind_require h (fun _ => ?_))
  refine wp_bind_keeping (P := fun _ _ => True) ((moves_makeBuildDirectory buildId).keeping
    (fun s' hs' => IsTrans.trans _ _ _ h hs') (fun _ _ _ => trivial)) (fun _ s' hs' _ => ?_)
  refine wp_tryCatch_keeping ?_ (fun e s'' hs'' => ?_)
  · refine wp_keeping_mono (wp_writeData hs' hid) (fun artifact s'' _ h => ?_)
    exact ⟨h.1, written, h.2.choose, hwritten, h.2.choose_spec⟩
  · -- the directory is taken away again, as far as that succeeds
    refine wp_bind_query hs'' (fun _ _ => wp_bind_keeping (P := fun _ _ => True) ?_
      (fun _ _ hs _ => wp_throw_keeping hs))
    exact (moves_removeBuildTree buildId).keeping (fun _ hs => IsTrans.trans _ _ _ hs'' hs)
      (fun _ _ _ => trivial)

theorem wp_createBytes {artifact : GoldArtifact} {payload : Bytes} (h : OnlyBuild buildId s₀ s) :
    wp (createBytes buildId artifact payload) (Post.keeping (OnlyBuild buildId s₀) (fun _ s' =>
      s' = setFile buildId artifact (some payload) s)) s := by
  refine wp_effect_keeping h ?_ (fun _ hok => ?_)
  · split
    · exact h
    · exact IsTrans.trans _ _ _ h (onlyBuild_setFile buildId artifact _ s)
  · split at hok
    · cases hok
    · rfl

/-- The data file is not one of the others. -/
theorem IsArtifact.setFile {artifact : GoldBuildArtifact} {payload : Bytes} {frame : GoldFrame}
    (h : IsArtifact formats s artifact payload frame) (other : GoldArtifact) (hne : other ≠ .data)
    (content : Option Bytes) :
    IsArtifact formats (setFile artifact.buildId other content s) artifact payload frame :=
  { h with file := (file_setFile_of_ne hne.symm content s).trans h.file }

/-- **The sidecars of an artifact**: the manifest is that of its frame. -/
theorem wp_createSidecars {artifact : GoldBuildArtifact} {startedAt completedAt : PyDatetime}
    {inputs : List SilverInputSignature} {payload : Bytes} {frame : GoldFrame}
    (h : OnlyBuild artifact.buildId s₀ s) (hartifact : IsArtifact formats s artifact payload frame) :
    wp (createSidecars formats artifact startedAt completedAt inputs)
      (Post.keeping (OnlyBuild artifact.buildId s₀) (fun sidecars s' =>
        sidecars.manifestPath = artifactPath .manifest artifact.buildId
          ∧ sidecars.plotPath = artifactPath .plot artifact.buildId
          ∧ buildManifest formats frame artifact.buildId startedAt completedAt artifact.dataPath
            artifact.dataSha256 (artifactPath .plot artifact.buildId) inputs = .ok sidecars.manifest
          ∧ ∃ plot, IsBundle formats s' artifact sidecars.manifest payload plot frame)) s := by
  unfold createSidecars
  refine wp_bind_require h (fun _ => wp_bind_require h (fun _ => wp_bind_query h (fun _ _ => ?_)))
  refine wp_bind_query h (fun _ _ => wp_bind_require h (fun _ => ?_))
  refine wp_bind_keeping (wp_validatedFrame h) ?_
  rintro frame' s' - ⟨rfl, payload', hartifact'⟩
  obtain rfl : payload' = payload :=
    Option.some.inj (hartifact'.file.symm.trans hartifact.file)
  obtain rfl : frame' = frame := Except.ok.inj (hartifact'.decode.symm.trans hartifact.decode)
  refine wp_bind_ofExcept h (fun plotBytes _ => wp_bind_require h (fun _ => ?_))
  refine wp_bind_query h (fun _ _ => wp_bind_keeping (wp_createBytes h) ?_)
  rintro _ s₁ h₁ rfl
  refine wp_bind_query h₁ (fun _ _ => wp_bind_ofExcept h₁ (fun manifest hmanifest => ?_))
  refine wp_bind_query h₁ (fun _ _ => wp_bind_keeping (wp_createBytes h₁) ?_)
  rintro _ s₂ h₂ rfl
  refine wp_bind_query h₂ (fun _ _ => wp_bind_keeping (wp_validateBundleFiles h₂) ?_)
  rintro _ s₃ - ⟨rfl, payload₃, plot, frame₃, hbundle⟩
  have hkept := (hartifact.setFile .plot (by decide) (some plotBytes)).setFile .manifest
    (by decide) (some (manifestBytes formats manifest))
  obtain rfl : payload₃ = payload' := Option.some.inj (hbundle.file.symm.trans hkept.file)
  obtain rfl : frame₃ = frame' := Except.ok.inj (hbundle.decode.symm.trans hkept.decode)
  exact wp_pure_keeping h₂ ⟨rfl, rfl, hmanifest, plot, hbundle⟩

/-- **A validated candidate**: the three files are in the directory of the build, the
manifest is that of the frame that the data file is read as, and the candidate
says of them what the catalog will say. -/
structure IsCandidate (formats : GoldFormats) (s : GoldSession) (buildId : String)
    (startedAt : PyDatetime) (inputs : List SilverInputSignature) (candidate : GoldPublicationBundle)
    (artifact : GoldBuildArtifact) (manifest : GoldBuildManifest) (payload plot : Bytes)
    (frame : GoldFrame) : Prop where
  bundle : IsBundle formats s artifact manifest payload plot frame
  buildId_eq : artifact.buildId = buildId
  inputs_ne : inputs ≠ []
  manifest_eq : buildManifest formats frame buildId startedAt candidate.completedAtUtc
    artifact.dataPath artifact.dataSha256 (artifactPath .plot buildId) inputs = .ok manifest
  candidate_eq : candidate =
    { buildId := buildId
      completedAtUtc := candidate.completedAtUtc
      schemaVersion := manifest.schemaVersion
      featureVersion := manifest.featureVersion
      rowCount := artifact.rowCount
      minTimestamp := artifact.minTimestamp
      maxTimestamp := artifact.maxTimestamp
      dataPath := artifactPath .data buildId
      buildManifestPath := artifactPath .manifest buildId
      plotPath := artifactPath .plot buildId }

/-- **`create_and_validate`**: whatever fails, nothing but the directory of the build
is touched, and a candidate that is returned is validated. -/
theorem wp_createAndValidate {frame : Except PyError GoldFrame}
    {startedAt completionClock : PyDatetime} {inputs : List SilverInputSignature}
    (h : OnlyBuild buildId s₀ s) :
    wp (createAndValidate formats frame buildId startedAt completionClock inputs)
      (Post.keeping (OnlyBuild buildId s₀) (fun candidate s' =>
        ∃ written artifact manifest plot reread, frame = .ok written
          ∧ IsCandidate formats s' buildId startedAt inputs candidate artifact manifest
            (formats.encodeFrame written) plot reread)) s := by
  unfold createAndValidate
  refine wp_bind_require h (fun hinputs => wp_bind_keeping (wp_createData h) ?_)
  rintro artifact s₁ h₁ ⟨rfl, written, reread, hwritten, hartifact⟩
  refine wp_bind_ofExcept h₁ (fun completed _ => ?_)
  refine wp_bind_keeping (wp_createSidecars h₁ hartifact) ?_
  rintro sidecars s₂ h₂ ⟨hmanifestPath, hplotPath, hmanifest, plot, hbundle⟩
  refine wp_bind_query h₂ (fun _ _ => ?_)
  -- the candidate is checked against the same files once more
  refine wp_bind_keeping (P := fun _ s' => s' = s₂) ?_ ?_
  · unfold validateCandidate
    refine wp_bind_require h₂ (fun _ => wp_bind_require h₂ (fun _ => wp_bind_require h₂ (fun _ => ?_)))
    refine wp_bind_require h₂ (fun _ => wp_bind_require h₂ (fun _ => wp_bind_require h₂ (fun _ => ?_)))
    refine wp_bind_require h₂ (fun _ => wp_bind_require h₂ (fun _ => wp_bind_require h₂ (fun _ => ?_)))
    refine wp_bind_require h₂ (fun _ => wp_bind_keeping (wp_validateBundleFiles h₂) ?_)
    rintro _ s' - ⟨rfl, -⟩
    refine wp_bind_keeping (wp_readBuild h₂) ?_
    rintro _ s'' - ⟨rfl, -⟩
    exact wp_pure_keeping h₂ rfl
  · rintro _ s' - rfl
    refine wp_pure_keeping h₂ ⟨written, artifact, sidecars.manifest, plot, reread, hwritten, ?_⟩
    refine ⟨hbundle, rfl, hinputs, hmanifest, ?_⟩
    dsimp only
    rw [hbundle.path, hmanifestPath, hplotPath]

end Specs

end GoldProgram
