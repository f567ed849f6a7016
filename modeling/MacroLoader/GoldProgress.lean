import MacroLoader.GoldSyncSource

/-!
# The first publication

A publication checks what it writes more than once: the data file is read back twice, the
manifest is parsed again, the paths, the digests and the counts are compared. All these checks
pass if nothing interferes. So a frame that is in order is published into a lake that has no
build yet, and the record of the build is then the only one of the catalog and the current one
(`succeeds_publish`); retention finds nothing to do (`succeeds_retain`).
-/

namespace GoldProgram

open Program

/-- **A frame that can be published**: it is valid, its bounds are Python date-times, its file
is read back as it was written, and there is a picture of it. -/
structure IsPublishable (formats : GoldFormats) (frame : GoldFrame) : Prop where
  valid : frame.validate = .ok ()
  bounds : ∃ bounds, frame.bounds = .ok bounds
  readBack : formats.decodeFrame (formats.encodeFrame frame) = .ok frame
  profile : ∃ png, formats.renderProfile frame = .ok png ∧ isPng png = true

/-- **The clocks of a publication** know their time zone and do not run backwards. -/
structure PublishCall.IsTimely (call : PublishCall) : Prop where
  buildId : call.buildIdClock.isAware = true
  isId : isBuildId (buildIdText call.buildIdClock.instant) = true
  started : call.startClock.isAware = true
  completed : call.completionClock.isAware = true
  ordered : call.startClock.instant ≤ call.completionClock.instant

section Succeed

variable {formats : GoldFormats} {s : GoldSession} {buildId : String} {frame : GoldFrame}
  {payload plot : Bytes} {artifact : GoldBuildArtifact} {sidecars : GoldSidecarArtifacts}
  {inputs : List SilverInputSignature} {startedAt completedAt : PyDatetime}

theorem succeeds_bind_signal {α : Type} {event : String} {k : Unit → GoldProgram α}
    {Q : α → GoldSession → Prop} (h : Succeeds (k ()) s Q) : Succeeds (signal event >>= k) s Q :=
  succeeds_bind_query rfl h

/-! ## Reading back -/

theorem succeeds_readBuild (h : IsData formats s buildId payload frame) :
    Succeeds (readBuild formats buildId) s (fun read s' => read = frame ∧ s' = s) := by
  unfold readBuild
  refine succeeds_bind_require h.isId (succeeds_bind_query rfl ?_)
  refine succeeds_bind_require (by rw [h.file]; rfl) (succeeds_bind_query (by rw [h.file]) ?_)
  exact succeeds_bind_ofExcept h.decode (succeeds_bind_ofExcept h.valid (succeeds_pure ⟨rfl, rfl⟩))

/-- **The data file of an artifact** passes the checks of the sidecars. -/
theorem succeeds_validatedFrame (h : IsArtifact formats s artifact payload frame) :
    Succeeds (validatedFrame formats artifact) s (fun read s' => read = frame ∧ s' = s) := by
  unfold validatedFrame
  refine succeeds_bind_require (hasBuildIdShape_of_isBuildId h.isId)
    (succeeds_bind_require h.path (succeeds_bind_query rfl ?_))
  refine succeeds_bind_require (by rw [h.file]; rfl) (succeeds_bind_query (by rw [h.file]) ?_)
  refine succeeds_bind_require h.digest (succeeds_bind ((succeeds_readBuild h.toIsData).mono ?_))
  rintro _ _ ⟨rfl, rfl⟩
  exact succeeds_bind_ofExcept h.bounds (succeeds_bind_require h.rowCount
    (succeeds_bind_require rfl (succeeds_pure ⟨rfl, rfl⟩)))

/-- The keys of a manifest are written in their order. -/
theorem keys_asDict (manifest : GoldBuildManifest) :
    manifest.asDict.keys = expectedManifestKeys := by
  have hsorted : expectedManifestKeys.Pairwise (· ≤ ·) := by decide +kernel
  show expectedManifestKeys.insertionSort (· ≤ ·) = expectedManifestKeys
  exact hsorted.insertionSort_eq

/-- **The sidecars of an artifact**, as they are made of it. -/
structure AreSidecars (formats : GoldFormats) (artifact : GoldBuildArtifact) (frame : GoldFrame)
    (plot : Bytes) (inputs : List SilverInputSignature) (sidecars : GoldSidecarArtifacts) :
    Prop where
  manifest : IsManifest formats frame artifact.buildId artifact.dataPath
    (artifactPath .plot artifact.buildId) artifact.dataSha256 inputs sidecars.manifest
  manifestPath : sidecars.manifestPath = artifactPath .manifest artifact.buildId
  plotPath : sidecars.plotPath = artifactPath .plot artifact.buildId
  manifestSha256 : sidecars.manifestSha256
    = formats.sha256 (manifestBytes formats sidecars.manifest)
  plotSha256 : sidecars.plotSha256 = formats.sha256 plot

/-- **A bundle passes its validation.** -/
theorem succeeds_validateBundleFiles
    (hloads : ∀ manifest, formats.loads (manifestBytes formats manifest) = .ok manifest.asDict)
    (h : IsBundle formats s artifact sidecars.manifest payload plot frame)
    (hsidecars : AreSidecars formats artifact frame plot inputs sidecars) :
    Succeeds (validateBundleFiles formats artifact sidecars) s (fun _ s' => s' = s) := by
  have hm := hsidecars.manifest
  unfold validateBundleFiles
  refine succeeds_bind ((succeeds_validatedFrame h.toIsArtifact).mono ?_)
  rintro _ _ ⟨rfl, rfl⟩
  refine succeeds_bind_require hsidecars.manifestPath (succeeds_bind_require hsidecars.plotPath ?_)
  refine succeeds_bind_query rfl (succeeds_bind_query rfl ?_)
  refine succeeds_bind_require ⟨by rw [h.manifestFile]; rfl, by rw [h.plotFile]; rfl⟩ ?_
  refine succeeds_bind_query (by rw [h.manifestFile]) (succeeds_bind_require rfl ?_)
  refine succeeds_bind_require hsidecars.manifestSha256.symm ?_
  refine succeeds_bind_query (by rw [h.plotFile]) (succeeds_bind_require h.png ?_)
  refine succeeds_bind_require hsidecars.plotSha256.symm ?_
  refine succeeds_bind_ofExcept (hloads _) (succeeds_bind_require (keys_asDict _) ?_)
  refine succeeds_bind_require hm.artifactState (succeeds_bind_require rfl ?_)
  refine succeeds_bind_require hm.buildId (succeeds_bind_require hm.dataPath ?_)
  refine succeeds_bind_require (hm.plotPath.trans hsidecars.plotPath.symm) ?_
  refine succeeds_bind_require hm.dataSha256 ?_
  refine succeeds_bind_require (hm.rowCount.trans h.rowCount) (succeeds_require ?_ rfl)
  rw [hm.featureSetHash, hm.schemaVersion, hm.featureVersion]

/-! ## The files of a build -/

/-- **The data file of a new build** is written, and read back. -/
theorem succeeds_createData (hframe : IsPublishable formats frame) (hid : isBuildId buildId = true)
    (hnew : s.lake.builds buildId = none) :
    Succeeds (createData formats (.ok frame) buildId) s (fun artifact s' =>
      artifact.buildId = buildId ∧ IsArtifact formats s' artifact (formats.encodeFrame frame) frame
        ∧ s'.lake.file buildId .manifest = none ∧ s'.lake.file buildId .plot = none) := by
  obtain ⟨bounds, hbounds⟩ := hframe.bounds
  -- the directory is empty, and then it holds the data file
  have hmade : (setBuild buildId (some fun _ => none) s).lake.builds buildId
      = some fun _ => none := Function.update_self ..
  have hothers : ∀ other ≠ GoldArtifact.data, (setFile buildId .data
      (some (formats.encodeFrame frame)) (setBuild buildId (some fun _ => none) s)).lake.file
        buildId other = none := fun other hne => by
    rw [file_setFile_of_ne hne, GoldLake.file, hmade]
    rfl
  have hread := file_setFile buildId .data (some (formats.encodeFrame frame))
    (setBuild buildId (some fun _ => none) s)
  unfold createData
  refine succeeds_bind_ofExcept rfl (succeeds_bind_ofExcept hframe.valid ?_)
  refine succeeds_bind_require hid (succeeds_bind_require (hasBuildIdShape_of_isBuildId hid) ?_)
  have hmake : Succeeds (makeBuildDirectory buildId) s (fun _ s' =>
      s' = setBuild buildId (some fun _ => none) s) := succeeds_effect (by rw [hnew]) rfl
  refine succeeds_bind (hmake.mono ?_)
  rintro _ _ rfl
  refine Succeeds.tryCatch ?_
  unfold writeData
  refine succeeds_bind_signal (succeeds_bind_signal (succeeds_bind_write ?_))
  refine succeeds_bind_signal (succeeds_bind_query (by rw [hread]) ?_)
  refine succeeds_bind_ofExcept hframe.readBack (succeeds_bind_ofExcept hframe.valid ?_)
  refine succeeds_bind_query (by rw [hread]) (succeeds_bind_require rfl ?_)
  refine succeeds_bind_ofExcept hbounds (succeeds_pure ⟨rfl, ?_, hothers _ (by decide),
    hothers _ (by decide)⟩)
  exact ⟨⟨hid, hread, hframe.readBack, hframe.valid⟩, rfl, rfl, rfl, hbounds⟩

/-- A manifest can be built of a frame that is in order. -/
theorem exists_buildManifest (hframe : IsPublishable formats frame)
    (hstarted : startedAt.isAware = true) (hcompleted : completedAt.isAware = true)
    (hordered : startedAt.instant ≤ completedAt.instant) (hne : inputs ≠ [])
    (hinputs : validateInputs inputs = .ok ()) (buildId dataPath plotPath : String)
    (dataSha256 : Sha256Hex) :
    ∃ manifest, buildManifest formats frame buildId startedAt completedAt dataPath dataSha256
      plotPath inputs = .ok manifest := by
  obtain ⟨bounds, hbounds⟩ := hframe.bounds
  have hempty : inputs.isEmpty = false := by simpa using hne
  have htext : ∀ {t : PyDatetime}, t.isAware = true → sidecarText t = .ok (instantText t.instant) :=
    fun haware => if_pos haware
  have htext? : ∀ t : Option Timestamp, ∃ text, sidecarText? (t.map PyDatetime.utc) = .ok text := by
    intro t
    cases t with
    | none => exact ⟨_, rfl⟩
    | some t => exact ⟨_, rfl⟩
  obtain ⟨minimum, hminimum⟩ := htext? frame.timestamps.min?
  obtain ⟨maximum, hmaximum⟩ := htext? frame.timestamps.max?
  obtain ⟨rfl, -⟩ := GoldFrame.bounds_eq_ok hbounds
  unfold buildManifest
  simp only [bind_eq_ok, check_eq_ok, exists_const, hempty, Bool.false_eq_true, ↓reduceIte]
  exact ⟨_, _, htext hstarted, _, htext hcompleted, hordered, _, hbounds, (), hinputs, _, hminimum,
    _, hmaximum, rfl⟩

theorem succeeds_createBytes {file : GoldArtifact} (hnew : s.lake.file buildId file = none) :
    Succeeds (createBytes buildId file payload) s
      (fun _ s' => s' = setFile buildId file (some payload) s) :=
  succeeds_effect (by rw [hnew]) rfl

/-- **The sidecars of a data file** are written next to it, and pass the validation. -/
theorem succeeds_createSidecars
    (hloads : ∀ manifest, formats.loads (manifestBytes formats manifest) = .ok manifest.asDict)
    (hframe : IsPublishable formats frame) (hartifact : IsArtifact formats s artifact payload frame)
    (hmanifest : s.lake.file artifact.buildId .manifest = none)
    (hplot : s.lake.file artifact.buildId .plot = none) (hstarted : startedAt.isAware = true)
    (hcompleted : completedAt.isAware = true) (hordered : startedAt.instant ≤ completedAt.instant)
    (hne : inputs ≠ []) (hinputs : validateInputs inputs = .ok ()) :
    Succeeds (createSidecars formats artifact startedAt completedAt inputs) s (fun sidecars s' =>
      ∃ plot, IsBundle formats s' artifact sidecars.manifest payload plot frame
        ∧ AreSidecars formats artifact frame plot inputs sidecars) := by
  obtain ⟨png, hpng, hisPng⟩ := hframe.profile
  obtain ⟨manifest, hbuilt⟩ := exists_buildManifest hframe hstarted hcompleted hordered hne hinputs
    artifact.buildId artifact.dataPath (artifactPath .plot artifact.buildId) artifact.dataSha256
  unfold createSidecars
  refine succeeds_bind_require hne (succeeds_bind_require
    (hasBuildIdShape_of_isBuildId hartifact.isId) ?_)
  refine succeeds_bind_query rfl (succeeds_bind_query rfl ?_)
  refine succeeds_bind_require (by rw [hmanifest, hplot]; decide) ?_
  refine succeeds_bind ((succeeds_validatedFrame hartifact).mono ?_)
  rintro _ _ ⟨rfl, rfl⟩
  refine succeeds_bind_ofExcept hpng (succeeds_bind_require hisPng (succeeds_bind_signal ?_))
  refine succeeds_bind ((succeeds_createBytes hplot).mono ?_)
  rintro _ _ rfl
  refine succeeds_bind_signal (succeeds_bind_ofExcept hbuilt (succeeds_bind_signal ?_))
  refine succeeds_bind ((succeeds_createBytes
    ((file_setFile_of_ne (by decide) _ _).trans hmanifest)).mono ?_)
  rintro _ _ rfl
  -- both files are there, and the data file still is
  have hbundle : IsBundle formats _ artifact manifest payload png _ :=
    ⟨(hartifact.setFile .plot (by decide) (some png)).setFile .manifest (by decide) (some
      (manifestBytes formats manifest)), file_setFile .., (file_setFile_of_ne (by decide) _ _).trans
      (file_setFile ..), hisPng⟩
  have hsidecars : AreSidecars formats artifact _ png inputs
      ⟨manifest, artifactPath .manifest artifact.buildId, artifactPath .plot artifact.buildId,
        formats.sha256 (manifestBytes formats manifest), formats.sha256 png⟩ :=
    ⟨isManifest_of_ok hne hbuilt, rfl, rfl, rfl, rfl⟩
  refine succeeds_bind_signal (succeeds_bind
    ((succeeds_validateBundleFiles hloads hbundle hsidecars).mono ?_))
  rintro _ _ rfl
  exact succeeds_pure ⟨png, hbundle, hsidecars⟩

/-- **A candidate passes the last checks.** -/
theorem succeeds_validateCandidate
    (hloads : ∀ manifest, formats.loads (manifestBytes formats manifest) = .ok manifest.asDict)
    (h : IsBundle formats s artifact sidecars.manifest payload plot frame)
    (hsidecars : AreSidecars formats artifact frame plot inputs sidecars) (hne : inputs ≠ []) :
    Succeeds (validateCandidate formats artifact sidecars inputs) s (fun _ s' => s' = s) := by
  have hm := hsidecars.manifest
  have hcertified : sidecars.manifest.provenanceCertified = true := by
    simp [GoldBuildManifest.provenanceCertified, hm.manifestVersion, hm.inputs, hne]
  unfold validateCandidate
  refine succeeds_bind_require (hasBuildIdShape_of_isBuildId h.isId) ?_
  refine succeeds_bind_require (by rw [h.path, hsidecars.manifestPath, hsidecars.plotPath]) ?_
  refine succeeds_bind_require hm.buildId (succeeds_bind_require hm.schemaVersion ?_)
  refine succeeds_bind_require hm.featureVersion ?_
  refine succeeds_bind_require ⟨hcertified, hm.inputs⟩ ?_
  refine succeeds_bind_require (hm.rowCount.trans h.rowCount) ?_
  refine succeeds_bind_require hm.dataSha256 (succeeds_bind_require (hm.dataPath.trans h.path) ?_)
  refine succeeds_bind_require hm.plotPath ?_
  refine succeeds_bind ((succeeds_validateBundleFiles hloads h hsidecars).mono ?_)
  rintro _ _ rfl
  refine succeeds_bind ((succeeds_readBuild h.toIsData).mono ?_)
  rintro _ _ ⟨rfl, rfl⟩
  exact succeeds_pure rfl

/-- **A bundle is built** of a frame that is in order, in a directory that was not there. -/
theorem succeeds_createAndValidate
    (hloads : ∀ manifest, formats.loads (manifestBytes formats manifest) = .ok manifest.asDict)
    (hframe : IsPublishable formats frame) (hid : isBuildId buildId = true)
    (hnew : s.lake.builds buildId = none) (hstarted : startedAt.isAware = true)
    (hcompleted : completedAt.isAware = true) (hordered : startedAt.instant ≤ completedAt.instant)
    (hne : inputs ≠ []) (hinputs : validateInputs inputs = .ok ()) :
    Succeeds (createAndValidate formats (.ok frame) buildId startedAt completedAt inputs) s
      (fun candidate _ => candidate.completedAtUtc = completedAt) := by
  unfold createAndValidate
  refine succeeds_bind_require hne (succeeds_bind ((succeeds_createData hframe hid hnew).mono ?_))
  rintro artifact s₁ ⟨rfl, hartifact, hmanifest, hplot⟩
  refine succeeds_bind_ofExcept (if_pos hcompleted) ?_
  refine succeeds_bind ((succeeds_createSidecars hloads hframe hartifact hmanifest hplot hstarted
    hcompleted hordered hne hinputs).mono ?_)
  rintro sidecars s₂ ⟨plot, hbundle, hsidecars⟩
  refine succeeds_bind_signal (succeeds_bind
    ((succeeds_validateCandidate hloads hbundle hsidecars hne).mono ?_))
  exact fun _ _ _ => succeeds_pure rfl

/-! ## The catalog and the root views -/

/-- **A catalog that the checks accept** is written. -/
theorem succeeds_replaceCatalog {step : CatalogStep} {record : GoldCatalogRecord}
    (h : WellFormedCatalog [record]) :
    Succeeds (replaceCatalog step [record]) s (fun _ s' => s' = setCatalog step [record] s) :=
  succeeds_bind_ofExcept (catalogFrame_eq_ok.mpr ⟨h, rfl⟩) (succeeds_write rfl)

/-- **Without a current build** the root views are cleared. -/
theorem succeeds_refreshViews_none {records : List GoldCatalogRecord}
    (hnone : records.filter (·.current) = []) :
    Succeeds (refreshViews formats records) s (fun _ s' => OnlyViews s s') := by
  unfold refreshViews
  rw [hnone]
  exact succeeds_bind_write (succeeds_bind_write (succeeds_query rfl ⟨rfl, rfl, rfl⟩))

/-- What the catalog accepts can be shown. -/
theorem exists_catalogJson {record : GoldCatalogRecord} (h : record.WellFormed) :
    ∃ json, catalogJson formats record = .ok json := by
  have htext? : ∀ field ∈ record.datetimes, ∃ json, viewText? field.2 = .ok json := by
    rintro ⟨name, value⟩ hfield
    have haware := h.aware _ hfield
    cases value with
    | none => exact ⟨.null, rfl⟩
    | some value =>
      have htext : viewText value = .ok (instantText value.instant) := if_pos haware
      exact ⟨.string (instantText value.instant), by rw [viewText?, htext]; rfl⟩
  obtain ⟨completed, hcompleted⟩ := htext? ("completed_at_utc", record.completedAtUtc)
    (by simp [GoldCatalogRecord.datetimes])
  obtain ⟨maximum, hmaximum⟩ := htext? ("max_timestamp", record.maxTimestamp)
    (by simp [GoldCatalogRecord.datetimes])
  obtain ⟨minimum, hminimum⟩ := htext? ("min_timestamp", record.minTimestamp)
    (by simp [GoldCatalogRecord.datetimes])
  obtain ⟨pruned, hpruned⟩ := htext? ("pruned_at_utc", record.prunedAtUtc)
    (by simp [GoldCatalogRecord.datetimes])
  have hstarted : viewText record.startedAtUtc = .ok (instantText record.startedAtUtc.instant) :=
    if_pos (h.aware ("started_at_utc", some record.startedAtUtc) List.mem_cons_self)
  unfold catalogJson
  simp only [bind_eq_ok]
  exact ⟨_, completed, hcompleted, maximum, hmaximum, minimum, hminimum, pruned, hpruned, _,
    hstarted, rfl⟩

/-- **The views of a build** whose files are there. -/
theorem succeeds_showBuild {record : GoldCatalogRecord} {manifest : GoldBuildManifest}
    (hwellFormed : record.WellFormed) (hcurrent : record.current = true)
    (h : IsReadable formats s.lake record frame manifest)
    (hplot : s.lake.file record.buildId .plot = some plot) (hpng : isPng plot = true) :
    Succeeds (showBuild formats record) s (fun _ s' => OnlyViews s s') := by
  obtain ⟨json, hjson⟩ : ∃ json, catalogJson formats record = .ok json :=
    exists_catalogJson hwellFormed
  unfold showBuild physicalPaths
  refine succeeds_bind_require (hwellFormed.selectable_of_current hcurrent) ?_
  refine succeeds_bind (succeeds_bind_require h.paths
    (succeeds_require (hasBuildIdShape_of_isBuildId h.isId) ?_))
  refine succeeds_bind_query rfl (succeeds_bind_query rfl (succeeds_bind_query rfl ?_))
  refine succeeds_bind_require ⟨by rw [h.data]; rfl, by rw [h.manifestFile]; rfl, h.plot⟩ ?_
  refine succeeds_bind_query (by rw [hplot]) (succeeds_bind_require hpng ?_)
  refine succeeds_bind_ofExcept hjson (succeeds_bind_signal (succeeds_bind_write ?_))
  exact succeeds_bind_signal (succeeds_bind_write (succeeds_query rfl ⟨rfl, rfl, rfl⟩))

/-! ## The first build -/

/-- **There is nothing to recover** of a lake without a catalog. -/
theorem succeeds_reconcile {clock : PyDatetime} (hempty : s.lake.catalog = none) :
    Succeeds (reconcile formats clock) s (fun records s' => records = [] ∧ OnlyViews s s') := by
  unfold reconcile
  refine succeeds_bind_query (by rw [hempty]; rfl) (succeeds_bind_require (by simp) ?_)
  refine succeeds_bind (succeeds_pure (succeeds_bind ((succeeds_refreshViews_none rfl).mono ?_)))
  exact fun _ s' hviews => succeeds_bind_signal (succeeds_pure ⟨rfl, hviews⟩)

/-- The record of a new attempt is one that the catalog accepts. -/
theorem wellFormed_buildingAttempt (hstarted : startedAt.isAware = true) :
    WellFormedCatalog [buildingAttempt buildId startedAt] where
  records_wellFormed r hr := by
    obtain rfl := List.mem_singleton.mp hr
    refine ⟨?_, ?_, ?_, ?_, ?_, ?_, ?_, ?_⟩ <;>
      simp [buildingAttempt, GoldCatalogRecord.datetimes, GoldCatalogRecord.paths, hstarted]
  nodup_ids := List.nodup_singleton _
  current_le_one := List.length_filter_le _ _

/-- **The record of a build that can be read** is one that the catalog accepts. -/
theorem wellFormed_completedAttempt {candidate : GoldPublicationBundle}
    {manifest : GoldBuildManifest}
    (h : IsReadable formats s.lake (completedAttempt (buildingAttempt buildId startedAt)
      candidate completedAt) frame manifest)
    (hstarted : startedAt.isAware = true) (hcompleted : completedAt.isAware = true)
    (hordered : startedAt.instant ≤ completedAt.instant) :
    WellFormedCatalog [completedAttempt (buildingAttempt buildId startedAt) candidate
      completedAt] where
  records_wellFormed r hr := by
    obtain rfl := List.mem_singleton.mp hr
    obtain ⟨hmin, hmax⟩ := Prod.mk.inj (GoldFrame.bounds_eq_ok h.bounds).1
    have hutc : ∀ t : Option Timestamp, (t.map PyDatetime.utc).all (·.isAware) = true := fun t => by
      cases t <;> rfl
    refine ⟨fun field hfield => ?_, fun n hn => ?_, fun t ht => ?_, fun a ha b hb => ?_, fun _ => rfl,
      fun _ => rfl, fun _ => rfl, fun _ _ => ⟨rfl, rfl, h.artifactPathsComplete⟩⟩
    · simp only [GoldCatalogRecord.datetimes, List.mem_cons, List.not_mem_nil, or_false] at hfield
      rcases hfield with rfl | rfl | rfl | rfl | rfl
      · exact hstarted
      · exact hcompleted
      · exact hmin ▸ hutc _
      · exact hmax ▸ hutc _
      · rfl
    · obtain rfl := Option.some.inj (h.rowCount.symm.trans hn)
      exact Int.natCast_nonneg _
    · obtain rfl := Option.some.inj ht
      exact hordered
    · rw [hmin, Option.mem_def, Option.map_eq_some_iff] at ha
      rw [hmax, Option.mem_def, Option.map_eq_some_iff] at hb
      obtain ⟨a, ha, rfl⟩ := ha
      obtain ⟨b, hb, rfl⟩ := hb
      exact (List.min?_eq_some_iff.mp ha).2 b (List.max?_mem hb)
  nodup_ids := List.nodup_singleton _
  current_le_one := List.length_filter_le _ _

/-- The record of the only attempt is promoted. -/
theorem promotedRecords_only {candidate : GoldPublicationBundle}
    (hid : candidate.buildId = buildId) (hschema : candidate.schemaVersion = goldSchemaVersion)
    (hfeature : candidate.featureVersion = goldFeatureVersion)
    (hcompleted : candidate.completedAtUtc.isAware = true) :
    promotedRecords [buildingAttempt buildId startedAt] candidate
      = .ok [completedAttempt (buildingAttempt buildId startedAt) candidate
        candidate.completedAtUtc] := by
  subst hid
  have hfilter : [buildingAttempt candidate.buildId startedAt].filter
      (fun r => r.buildId == candidate.buildId) = [buildingAttempt candidate.buildId startedAt] := by
    simp [buildingAttempt]
  unfold promotedRecords
  simp only [bind_eq_ok, check_eq_ok, exists_const]
  refine ⟨hschema, hfeature, ?_⟩
  rw [hfilter]
  simp only [bind_eq_ok, check_eq_ok, exists_const]
  exact ⟨⟨rfl, rfl⟩, _, if_pos hcompleted, by simp [buildingAttempt]; rfl⟩

/-- **The part of the first publication that ends with its commit.** -/
theorem succeeds_publishCandidate {call : PublishCall}
    (hloads : ∀ manifest, formats.loads (manifestBytes formats manifest) = .ok manifest.asDict)
    (hframe : IsPublishable formats frame) (hcall : call.frame = .ok frame)
    (hid : isBuildId buildId = true) (hnew : s.lake.builds buildId = none)
    (hstarted : startedAt.isAware = true) (hcompleted : call.completionClock.isAware = true)
    (hordered : startedAt.instant ≤ call.completionClock.instant)
    (hne : call.inputs ≠ []) (hinputs : validateInputs call.inputs = .ok ()) :
    Succeeds (publishCandidate formats call buildId startedAt [buildingAttempt buildId startedAt]) s
      (fun promoted s' => ∃ record manifest plot, promoted = [record] ∧ record.buildId = buildId
        ∧ record.current = true ∧ WellFormedCatalog [record] ∧ s'.lake.catalog = some [record]
        ∧ IsReadable formats s'.lake record frame manifest
        ∧ s'.lake.file buildId .plot = some plot ∧ isPng plot = true) := by
  unfold publishCandidate
  refine succeeds_bind ((succeeds_refreshViews_none rfl).mono (fun _ s₁ hviews => ?_))
  refine succeeds_bind_signal ?_
  have hnew₁ : s₁.lake.builds buildId = none := hviews.builds_eq ▸ hnew
  have hcreated := (succeeds_createAndValidate hloads hframe hid hnew₁ hstarted hcompleted hordered
    hne hinputs).and_wp (wp_createAndValidate (Std.Refl.refl s₁))
  rw [hcall]
  refine succeeds_bind (hcreated.mono ?_)
  rintro candidate s₂ ⟨hclock, -, written, artifact, manifest, plot, reread, hwritten, hcandidate⟩
  obtain rfl := Except.ok.inj hwritten
  have hpublished : IsPublished formats call s₂ (completedAttempt (buildingAttempt buildId startedAt)
      candidate candidate.completedAtUtc) frame candidate artifact manifest plot reread :=
    ⟨hcall, hcandidate, rfl⟩
  obtain ⟨hreadable, -⟩ := hpublished.isReadable hframe.readBack
  have hwellFormed := wellFormed_completedAttempt hreadable hstarted
    (hclock ▸ hcompleted) (hclock ▸ hordered)
  have hcandidateId : candidate.buildId = buildId := by rw [hcandidate.candidate_eq]
  refine succeeds_bind_signal (succeeds_bind_ofExcept (promotedRecords_only hcandidateId
    hreadable.versions.1 hreadable.versions.2 (hclock ▸ hcompleted)) ?_)
  refine succeeds_bind ((succeeds_replaceCatalog hwellFormed).mono ?_)
  rintro _ _ rfl
  refine succeeds_bind_signal (succeeds_pure ⟨_, manifest, plot, rfl, rfl, rfl, hwellFormed, rfl,
    hreadable.congr rfl, ?_, hcandidate.bundle.png⟩)
  exact hcandidate.buildId_eq ▸ hcandidate.bundle.plotFile

/-- **The first publication.** A frame that is in order is published into a lake that has no
builds, and its build is then the current one, and the only one. -/
theorem succeeds_publish {call : PublishCall}
    (hloads : ∀ manifest, formats.loads (manifestBytes formats manifest) = .ok manifest.asDict)
    (hframe : IsPublishable formats frame) (hcall : call.frame = .ok frame)
    (hclocks : call.IsTimely) (hne : call.inputs ≠ []) (hinputs : validateInputs call.inputs = .ok ())
    (hcatalog : s.lake.catalog = none) (hbuilds : ∀ buildId, s.lake.builds buildId = none) :
    Succeeds (publish formats call) s (fun record s' => record.current = true
      ∧ s'.lake.catalog = some [record] ∧ WellFormedCatalog [record]) := by
  unfold publish nextBuildId
  refine succeeds_bind ((succeeds_reconcile hcatalog).mono ?_)
  rintro _ s₁ ⟨rfl, hviews⟩
  refine succeeds_bind (succeeds_bind_require hclocks.buildId (succeeds_pure ?_))
  refine succeeds_bind_ofExcept (if_pos hclocks.started) ?_
  refine succeeds_bind ((succeeds_replaceCatalog (wellFormed_buildingAttempt hclocks.started)).mono ?_)
  rintro _ _ rfl
  refine succeeds_bind_signal (succeeds_bind (Succeeds.tryCatch ((succeeds_publishCandidate hloads
    hframe hcall hclocks.isId ?_ hclocks.started hclocks.completed hclocks.ordered hne
    hinputs).mono ?_)))
  · exact (congrFun hviews.builds_eq _).trans (hbuilds _)
  rintro _ s₂ ⟨record, manifest, plot, rfl, hid, hcurrent, hwellFormed, hcatalog₂, hreadable, hplot,
    hpng⟩
  have hfind : findBuild [record] (buildIdText call.buildIdClock.instant) = pure record := by
    simp [findBuild, hid]
  rw [hfind]
  have hshown : Succeeds (refreshViews formats [record]) s₂ (fun _ s' => OnlyViews s₂ s') := by
    unfold refreshViews
    rw [show [record].filter (·.current) = [record] by simp [hcurrent]]
    exact succeeds_showBuild (hwellFormed.records_wellFormed _ (List.mem_singleton_self _)) hcurrent
      hreadable (hid ▸ hplot) hpng
  refine succeeds_bind (succeeds_pure (succeeds_bind (Succeeds.tryCatch (succeeds_bind
    (hshown.mono (fun _ s₃ hviews₃ => ?_))))))
  have hcatalog₃ : s₃.lake.catalog = some [record] := hviews₃.catalog_eq.trans hcatalog₂
  refine succeeds_query rfl (succeeds_bind ?_)
  cases call.hasMirror with
  | true =>
    exact succeeds_bind_signal (succeeds_query rfl (succeeds_pure ⟨hcurrent, hcatalog₃, hwellFormed⟩))
  | false => exact succeeds_pure (succeeds_pure ⟨hcurrent, hcatalog₃, hwellFormed⟩)

/-- **Retention leaves the only build alone**, and has nothing to do. -/
theorem succeeds_retain {policy : RetentionPolicy} {clock : PyDatetime}
    {record : GoldCatalogRecord} (hcatalog : s.lake.catalog = some [record])
    (hwellFormed : WellFormedCatalog [record]) (hcurrent : record.current = true) :
    Succeeds (retain formats policy clock) s (fun _ s' => s' = s) := by
  have hread : readCatalog s.lake.catalog = .ok [record] := by
    rw [hcatalog]
    exact @WellFormedCatalog.readCatalog (some [record]) hwellFormed
  -- one build is never one too many
  have hgroup : ∀ key, selectGroup policy
      (([record].filter isRetained).filter (versions · == key)) = .ok [] := by
    intro key
    have hlength : (([record].filter isRetained).filter (versions · == key)).length ≤ 1 :=
      (List.length_filter_le _ _).trans (List.length_filter_le _ _)
    unfold selectGroup
    exact if_pos (by have := policy.retain_pos; omega)
  obtain ⟨selected, hselected, hall⟩ := exists_mapM_eq_ok (R := fun _ ids => ids = [])
    (l := ((([record].filter isRetained).map versions).dedup).insertionSort
      (fun a b => versionsLE a b)) (fun key _ => ⟨_, hgroup key, rfl⟩)
  have hmark : selectForMark policy [record] = .ok [] := by
    refine bind_eq_ok.mpr ⟨selected, hselected, congrArg Except.ok ?_⟩
    refine List.flatten_eq_nil_iff.mpr (fun ids hids => ?_)
    obtain ⟨-, -, hnil⟩ := forall₂_exists_left hall hids
    exact hnil
  unfold retain
  refine succeeds_bind_query hread (succeeds_bind_ofExcept hmark ?_)
  refine succeeds_bind (succeeds_pure ?_)
  have hmarked : [record].filter isMarked = [] := by simp [isMarked, hcurrent]
  simp only [hmarked]
  exact succeeds_bind (succeeds_pure (succeeds_bind (succeeds_pure (succeeds_pure rfl))))

end Succeed

end GoldProgram
