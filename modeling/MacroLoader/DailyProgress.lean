import MacroLoader.DailyJob
import MacroLoader.RowRoundTrip

/-!
# When the synchronization succeeds

A synchronization may refuse a build: the database may have drifted, a state may disagree
with the data, a row may not be what Gold assembles. What a daily run has published is a build
that it accepts. Into a database that holds nothing, or what an earlier daily run has published,
a synchronization that is not disturbed brings it, and the next one has nothing to do
(`DailyDone.syncSucceeds`).

There is one exception, and it is about zeros and hashes. Two frames that differ in the sign
of a zero, or whose digests collide, have different files and the same row digests, and a
synchronizer that finds the same rows under another file takes the state for a stale one. So
the new frame is to be told apart from the one that the database holds (`ToldApart`).
-/

open Program

/-! ## The rows of a daily run -/

theorem isFinite_of_canonicalCell {v w : Option Float64} (h : canonicalCell v = .ok w) :
    ∀ x ∈ v, x.isFinite = true := by
  intro x hx
  obtain rfl := Option.mem_def.mp hx
  cases hfloat : canonicalFloat x with
  | error e =>
    rw [canonicalCell, hfloat] at h
    cases h
  | ok y => exact (canonicalFloat_eq_ok hfloat).1

section Rows

variable {pipeline : DailyMedallionPipeline} {lake : MedallionLake} {gold : GoldFrameBuild}
  {source : KeyedTable Timestamp (WideRow Float64 × Sha256Hex)}

/-- **What a daily run assembles are Gold rows**: each has a value, and of a bar the close is
the level, as Silver that is current has them from Bronze. -/
theorem CanonicalGold.isGoldRow (h : CanonicalGold pipeline lake gold)
    (hcurrent : ∀ s : Series, SilverCurrent pipeline lake s.contract)
    (hrows : sourceRowsAndDigests pipeline.goldFormats.sha256 gold.frame = .ok source)
    {t : Timestamp} {r : WideRow Float64 × Sha256Hex} (hr : source.get? t = some r) :
    IsGoldRow r.1 := by
  obtain ⟨silver, hassembled, -, hsilver⟩ := h.silver
  have hrow := canonicalRow_of_source hrows hassembled t
  have hcell : ∀ c, canonicalCell (((silverRowAt (silver c.series) t).bind
      (fun r => seriesCells c.series r c)).filter (fun x => !x.isNaN)) = .ok (r.1 c) := by
    intro c
    rw [← cell_assembledAt hassembled, canonicalCell_bind hrow, hr]
    rfl
  constructor
  · -- some series has a row at the instant, and its level is a value
    have hsome : (assembledAt silver goldSourceSeries t).isSome = true := by
      rw [hr] at hrow
      cases hat : assembledAt silver goldSourceSeries t with
      | none => rw [hat] at hrow; cases hrow
      | some cells => rfl
    obtain ⟨s, -, hs⟩ := (isSome_assembledAt_iff t).mp hsome
    obtain ⟨row, hat⟩ := Option.isSome_iff_exists.mp hs
    obtain ⟨x, hx, hfinite⟩ := (hsilver s).1.value row (List.mem_of_find?_eq_some hat)
    have hlevel := hcell (.level s)
    have hvalue : seriesCells s row (.level s) = some x := (if_pos rfl).trans hx
    rw [show (GoldColumn.level s).series = s from rfl, hat, Option.bind_some, hvalue,
      Option.filter_some, if_pos (by rw [Float64.not_isNaN_of_isFinite hfinite]; rfl),
      canonicalCell_of_finite (fun y hy => Option.mem_some.mp hy ▸ hfinite)] at hlevel
    refine List.any_eq_true.mpr ⟨.level s, mem_rawFeatureColumns _, ?_⟩
    rw [← Except.ok.inj hlevel]
    rfl
  · intro s
    unfold levelIsClose
    by_cases hshape : s.nativeShape = .ohlc
    · have hbronze : ∀ c : GoldColumn, c.series = s → ∃ bronze : BronzeFrame,
          pipeline.uow.readBronze lake.bronze s.contract.key = .ok bronze
            ∧ canonicalCell (bronzeCellAt bronze.rows t c) = .ok (r.1 c) := by
        rintro c rfl
        obtain ⟨bronze, hread, hsilver'⟩ := hcurrent c.series
        obtain ⟨hjoinable, frame, hframe, heq⟩ := hsilver c.series
        refine ⟨bronze, hread, ?_⟩
        rw [← hsilver'.canonicalCell_eq hframe (heq ▸ hjoinable) t rfl, ← heq]
        exact hcell c
      obtain ⟨bronze, hread, hlevel⟩ := hbronze (.level s) rfl
      obtain ⟨bronze', hread', hclose⟩ := hbronze (.bar s hshape .close) rfl
      obtain rfl := Except.ok.inj (hread.symm.trans hread')
      have hsame : bronzeCellAt bronze.rows t (.level s)
          = bronzeCellAt bronze.rows t (.bar s hshape .close) := by
        unfold bronzeCellAt
        exact congrArg (Option.bind _) (funext (fun r => r.cell_level_ohlc hshape))
      have heq : r.1 (.level s) = r.1 (.bar s hshape .close) :=
        Except.ok.inj (hlevel.symm.trans (hsame ▸ hclose))
      rw [barCell, dif_pos hshape, ← heq, Bool.or_eq_true]
      refine .inr (nullableEq_refl (isFinite_of_canonicalCell (w := r.1 (.level s)) ?_))
      exact canonicalRow_eq_ok_iff.mp (sourceRows_spec hrows hr).2.1 _
    · rw [Bool.or_eq_true]
      exact .inl (by simpa using hshape)

end Rows

/-! ## The build of a daily run -/

/-- **Manifests are written without loss**: their JSON reads back as the dictionary. -/
def GoldFormats.KeepsManifests (formats : GoldFormats) : Prop :=
  ∀ manifest : GoldBuildManifest,
    formats.loads (GoldProgram.manifestBytes formats manifest) = .ok manifest.asDict

/-- **A synchronization can start**: the schema is the right one, and the clock knows its
time zone. -/
structure SyncInputs.Ready (inputs : SyncInputs) : Prop where
  preflight : inputs.preflightSchema = .ok ()
  aware : inputs.now.isAware = true

/-- **A published build that is assembled is accepted** by a synchronizer that reads the same
files. -/
theorem GoldProgram.PublishedAs.accepted {formats : GoldFormats}
    {call : GoldProgram.PublishCall} {session : GoldSession} {record : GoldCatalogRecord}
    {writeCsv : List SilverRow → Bytes} {silverBySeries : Series → Option SilverFrame}
    {gold : GoldFrameBuild} {inputs : SyncInputs}
    (h : GoldProgram.PublishedAs formats call session record)
    (hcall : call.frame = .ok gold.frame ∧ call.inputs = gold.inputs)
    (hgold : assembleGoldFrame formats.sha256 writeCsv silverBySeries = .ok gold)
    (hframe : formats.KeepsAssembled writeCsv) (hmanifest : formats.KeepsManifests)
    (hwf : WellFormedCatalog session.lake.records) (hready : inputs.Ready) :
    ∃ source, sourceRowsAndDigests formats.sha256 gold.frame = .ok source
      ∧ CurrentBuild formats.sha256 (readFrame formats) (inputs.env formats session.lake) record
        (formats.encodeFrame gold.frame) source := by
  obtain ⟨hrecord, hcurrent, written, candidate, artifact, manifest, plot, reread, hpublished⟩ := h
  obtain rfl : written = gold.frame := Except.ok.inj (hpublished.frame.symm.trans hcall.1)
  obtain ⟨hassembled, -, -, hinputs⟩ := assembleGoldFrame_spec hgold
  obtain ⟨hreadable, hisManifest⟩ := hpublished.isReadable (hframe _ _ hgold)
  obtain ⟨source, hrows⟩ := hassembled.sourceRowsAndDigests hreadable.bounds formats.sha256
  obtain ⟨hpath, hbytes, -⟩ :=
    GoldProgram.readSourceFrame_isReadable inputs.datasetRoot hreadable
  have hvalid := GoldProgram.validateGoldBundle_isReadable inputs.datasetRoot hreadable hisManifest
    (hcall.2 ▸ hinputs) (hmanifest manifest)
  refine ⟨source, hrows, ?_⟩
  exact
    { selected := ⟨_, hwf.readCatalog, selectCurrentSyncRecord_of_current hwf hrecord hcurrent
        hreadable.dataset hreadable.versions⟩
      bundle := by
        show validateBundle (filesystemGoldFrameSource formats session.lake inputs.datasetRoot)
          record = .ok ()
        unfold validateBundle
        dsimp only [filesystemGoldFrameSource]
        rw [hvalid]
      preflight := hready.preflight
      file := ⟨_, hpath, hbytes⟩
      rows := ⟨_, hreadable.readFrame, hreadable.metadata, hrows⟩ }

/-! ## Two builds that are told apart -/

section Apart

variable {formats : GoldFormats} {frame frame' : GoldFrame}
  {source source' : KeyedTable Timestamp (WideRow Float64 × Sha256Hex)}
  {rowAt rowAt' : Timestamp → Option (WideRow Float64)}

/-- **Two frames are told apart**, by the digest of the file, and by the digests of the rows. -/
structure ToldApart (formats : GoldFormats) (frame frame' : GoldFrame) : Prop where
  file : formats.sha256 (formats.encodeFrame frame) = formats.sha256 (formats.encodeFrame frame') →
    frame = frame'
  rows : ∀ source source', sourceRowsAndDigests formats.sha256 frame = .ok source →
    sourceRowsAndDigests formats.sha256 frame' = .ok source' →
      source.map Prod.snd = source'.map Prod.snd → frame = frame'

end Apart

/-! ## The synchronization that follows -/

section Progress

variable {pipeline : DailyMedallionPipeline} {pool : Pool} {inputs : JobInputs} {s s' : Loader}
  {record : GoldCatalogRecord} {gold : GoldFrameBuild}
  {source : KeyedTable Timestamp (WideRow Float64 × Sha256Hex)}

theorem succeeds_onDatabase {α : Type} {m : Transaction α} {Q : α → Loader → Prop}
    (h : Succeeds m ⟨s.session.replica, []⟩ (fun a t => Q a { s with session := t })) :
    Succeeds (onDatabase m) s Q :=
  succeeds_bind ⟨(), _, rfl, succeeds_onPart Loader.sessionPart h⟩

/-- **The next build goes in**, into a database that holds nothing or a build that is told
apart from it, and then there is nothing to do. -/
theorem succeeds_goldSync {formats : GoldFormats}
    (hrows : sourceRowsAndDigests formats.sha256 gold.frame = .ok source)
    (hgold : ∀ t r, source.get? t = some r → IsGoldRow r.1)
    (haccepted : ∀ inputs : SyncInputs, inputs.Ready → CurrentBuild formats.sha256
      (readFrame formats) (inputs.env formats s.lake.gold.lake) record
      (formats.encodeFrame gold.frame) source)
    (hstart : s.session.replica = emptyReplica ∨ ∃ record₀ gold₀,
      HoldsGold formats s.session.replica record₀ gold₀ ∧ ToldApart formats gold.frame gold₀.frame)
    {inputs : SyncInputs} (hready : inputs.Ready) :
    Succeeds (goldSyncPostgres formats inputs) s (fun result s' => s'.lake = s.lake
      ∧ result.sourceBuildId = record.buildId
      ∧ HoldsBuild formats.sha256 s'.session.replica source
        (buildState formats.sha256 record (formats.encodeFrame gold.frame) source inputs.now)
      ∧ ∀ again : SyncInputs, again.Ready → Succeeds (goldSyncPostgres formats again) s'
        (fun result _ => result.inserted = 0 ∧ result.updated = 0 ∧ result.deleted = 0)) := by
  have hcurrent := haccepted inputs hready
  have hagain : ∀ t : Session, HoldsBuild formats.sha256 t.replica source
      (buildState formats.sha256 record (formats.encodeFrame gold.frame) source inputs.now) →
      ∀ again : SyncInputs, again.Ready → Succeeds (goldSyncPostgres formats again)
        { s with session := t }
        (fun result _ => result.inserted = 0 ∧ result.updated = 0 ∧ result.deleted = 0) := by
    intro t hholds again hagain
    refine succeeds_bind (succeeds_query rfl (succeeds_onDatabase ?_))
    refine (succeeds_sync_next hholds (haccepted again hagain) hagain.aware hgold (fun _ => rfl)
      (fun _ => rfl)).mono (fun result _ h => ?_)
    rw [h.1, syncResult_self]
    exact ⟨rfl, rfl, rfl⟩
  refine succeeds_bind (succeeds_query rfl (succeeds_onDatabase ?_))
  rcases hstart with hempty | ⟨record₀, gold₀, ⟨source₀, now₀, hrows₀, hholds₀⟩, happart⟩
  · rw [hempty]
    refine (succeeds_sync none hcurrent hready.aware hgold agrees_emptyReplica rfl rfl rfl
      (fun _ h => by cases h)).mono (fun result t h => ?_)
    exact ⟨rfl, by rw [h.1]; rfl, h.2.1, hagain t h.2.1⟩
  · refine (succeeds_sync_next hholds₀ hcurrent hready.aware hgold (fun hsha => ?_)
      (fun hdigests => ?_)).mono (fun result t h => ?_)
    · rw [happart.file hsha, hrows₀] at hrows
      exact (Except.ok.inj hrows).symm
    · rw [happart.rows _ _ hrows hrows₀ hdigests]
    · exact ⟨rfl, by rw [h.1]; rfl, h.2.1, hagain t h.2.1⟩

/-- **A synchronization succeeds that nothing disturbs**, the job is then done, and another
synchronization changes nothing. -/
def SyncSucceeds (pipeline : DailyMedallionPipeline) (inputs : JobInputs) (s s₁ : Loader) : Prop :=
  Succeeds (goldSyncPostgres pipeline.goldFormats inputs.sync) s₁ (fun result s₂ =>
    JobDone pipeline inputs s s₂ result
      ∧ ∀ again : SyncInputs, again.Ready →
        Succeeds (goldSyncPostgres pipeline.goldFormats again) s₂ (fun result _ =>
          result.inserted = 0 ∧ result.updated = 0 ∧ result.deleted = 0))

/-- **After a daily run the synchronization succeeds**, into a database that holds nothing or a
build that is told apart from what is published. -/
theorem DailyDone.syncSucceeds {selected : List String} {ran : PipelineCommandResult}
    {lake : MedallionLake}
    (h : DailyDone pipeline inputs.command selected inputs.today s.lake lake ran)
    (hframe : pipeline.goldFormats.KeepsAssembled pipeline.writeCsv)
    (hmanifest : pipeline.goldFormats.KeepsManifests)
    (hregistry : ∀ series : Series, series.contract ∈ pipeline.seriesRegistry.contracts)
    (hinvariant : MedallionInvariant pipeline lake)
    (hselected : pipeline.resolveSeries [] = .ok selected) (hready : inputs.sync.Ready)
    (hstart : s.session.replica = emptyReplica ∨ ∃ record₀ gold₀,
      HoldsGold pipeline.goldFormats s.session.replica record₀ gold₀
        ∧ ∀ gold, CanonicalGold pipeline lake gold →
          ToldApart pipeline.goldFormats gold.frame gold₀.frame) :
    SyncSucceeds pipeline inputs s { s with lake := lake } := by
  obtain ⟨record, hid, gold, hcanonical, hpublished⟩ := h.gold
  have hwf := hinvariant.wellFormedCatalog
  obtain ⟨frames, hframes, hempty, hassembled⟩ := hcanonical
  have hcanonical : CanonicalGold pipeline lake gold := ⟨frames, hframes, hempty, hassembled⟩
  have hacceptable := fun (inputs : SyncInputs) (hready : inputs.Ready) =>
    hpublished.accepted ⟨rfl, rfl⟩ hassembled hframe hmanifest hwf hready
  obtain ⟨source, hrows, -⟩ := hacceptable inputs.sync hready
  have haccepted : ∀ inputs : SyncInputs, inputs.Ready →
      CurrentBuild pipeline.goldFormats.sha256 (readFrame pipeline.goldFormats)
        (inputs.env pipeline.goldFormats lake.gold.lake) record
        (pipeline.goldFormats.encodeFrame gold.frame) source := fun inputs hready => by
    obtain ⟨source', hrows', hcurrent⟩ := hacceptable inputs hready
    obtain rfl := Except.ok.inj (hrows.symm.trans hrows')
    exact hcurrent
  -- Silver is current, so that the levels are the closes
  have hcurrent : ∀ series : Series, SilverCurrent pipeline lake series.contract := fun series =>
    h.silver _ (hregistry series) (by
      rw [resolveSeries_nil hselected]
      exact List.mem_map_of_mem (hregistry series))
  have hgold : ∀ t r, source.get? t = some r → IsGoldRow r.1 := fun t r hr =>
    hcanonical.isGoldRow hcurrent hrows hr
  refine (succeeds_goldSync (s := { s with lake := lake }) hrows hgold haccepted
    (hstart.imp_right (fun ⟨record₀, gold₀, hholds, happart⟩ =>
      ⟨record₀, gold₀, hholds, happart gold hcanonical⟩)) hready).mono ?_
  rintro result s₂ ⟨hlake, hresult, hholds, hagain⟩
  exact ⟨h.jobDone hframe hselected hwf hlake (haccepted inputs.sync hready) hresult hholds, hagain⟩

end Progress

/-! ### Formats that lose nothing -/

instance countable_silverInputSignature : Countable SilverInputSignature :=
  Function.Injective.countable (f := fun s : SilverInputSignature =>
    (s.seriesId, s.rowCount, s.minObservationDate, s.maxObservationDate, s.sha256)) (by
    rintro ⟨⟩ ⟨⟩ h
    simp only [Prod.mk.injEq] at h
    simp_all only)

instance countable_goldBuildManifest : Countable GoldBuildManifest :=
  Function.Injective.countable (f := fun m : GoldBuildManifest =>
    ((m.datasetId, m.buildId, m.artifactState, m.manifestVersion, m.schemaVersion,
        m.featureVersion),
      (m.startedAtUtc, m.completedAtUtc, m.rowCount, m.columns, m.minTimestamp, m.maxTimestamp),
      (m.dataPath, m.dataSha256, m.featureSetHash, m.gitCommitHash, m.inputs, m.plotPath))) (by
    rintro ⟨⟩ ⟨⟩ h
    simp only [Prod.mk.injEq] at h
    simp_all only)

/-- Some formats lose neither frames nor manifests. -/
theorem exists_keepsManifests : ∃ formats : GoldFormats,
    (∀ writeCsv, formats.KeepsAssembled writeCsv) ∧ formats.KeepsManifests
      ∧ formats.RendersPng := by
  classical
  have hcountable := (Set.countable_range GoldBuildManifest.asDict).to_subtype
  obtain ⟨formats, hframes, hpng⟩ := exists_keepsAssembled
  obtain ⟨format⟩ := FileFormat.nonempty (Set.range GoldBuildManifest.asDict)
  refine ⟨{ formats with
    dumps := fun json => if h : json ∈ Set.range GoldBuildManifest.asDict
      then format.encode ⟨json, h⟩ else []
    loads := fun bytes => (format.decode bytes).map Subtype.val }, hframes, fun manifest => ?_, hpng⟩
  show (format.decode (dite _ _ _)).map Subtype.val = _
  rw [dif_pos (Set.mem_range_self manifest), format.readBack]
  rfl
