import MacroLoader.DailyProgress
import MacroLoader.GoldProgress

/-!
# The first day

The results on the commands say what a daily job leaves if it returns. That it does return is
another matter: every stage checks what it finds, and may refuse it. What the earlier stages
leave is never what a later one refuses. Silver that has been built of Bronze can be assembled
(`IsCurrentSilver.isSilverOf`), what is assembled can be published
(`CanonicalGold.isPublishable`), and what is published can be brought to the database. So on
the first day, in an empty lake, a daily job that nothing disturbs returns, if its series can be
loaded at all (`succeeds_dailyJob_first`).
-/

open Program

/-! ## Silver that can be assembled -/

/-- What a build of Silver accepts is of its series. -/
theorem isOfSeries_of_canonicalizeSilver {contract : SeriesContract} {bronze : BronzeFrame}
    {candidate : CanonicalFrame} (h : canonicalizeSilver contract bronze = .ok candidate) :
    IsOfSeries contract bronze := by
  unfold canonicalizeSilver at h
  split_ifs at h with hempty
  · intro r hr
    rw [Frame.isEmpty_iff.mp hempty.1] at hr
    cases hr
  · obtain ⟨⟨⟩, hcommon, -⟩ := bind_eq_ok.mp h
    unfold assertCommon assertIdentity at hcommon
    simp only [bind_eq_ok, check_eq_ok, exists_const] at hcommon
    obtain ⟨-, -, -, ⟨⟩, ⟨⟨⟩, hseries, ⟨⟩, hprovider, -⟩, -⟩ := hcommon
    exact fun r hr => ⟨assertColumn_eq_ok hprovider r hr, assertColumn_eq_ok hseries r hr⟩

/-- What equals a finite value is finite. -/
theorem isFinite_of_eqMissing {x : Float64} {b : Option Float64} (hx : x.isFinite = true)
    (h : Float64.eqMissing (some x) b = true) : ∃ y, b = some y ∧ y.isFinite = true := by
  cases b with
  | none => cases h
  | some y =>
    have hnan := Float64.not_isNaN_of_isFinite hx
    simp only [Float64.eqMissing, hnan, Bool.false_and, Bool.or_false, Bool.or_eq_true,
      Bool.and_eq_true, beq_iff_eq] at h
    rcases h with rfl | ⟨-, hzero⟩
    · exact ⟨x, rfl, hx⟩
    · exact ⟨y, rfl, Float64.isFinite_of_isZero hzero⟩

/-- **Silver that is current can be assembled**: it is read as a frame that Gold accepts, and
has rows where Bronze has. -/
theorem IsCurrentSilver.isSilverOf {repository : SilverRepository} {s : Series}
    {bronze : BronzeFrame} {files : MonthFiles}
    (h : IsCurrentSilver repository s.contract bronze files)
    (hdates : ∀ r ∈ bronze.rows, dateMin ≤ r.observationDate ∧ r.observationDate ≤ dateMax) :
    ∃ frame, repository.read files = .ok frame ∧ IsSilverOf s (silverFrame frame)
      ∧ (bronze.rows ≠ [] → frame.isEmpty = false) := by
  obtain ⟨candidate, merged, hcanonical, hholds, hagrees⟩ := h
  have hcandidate := isCanonical_of_ok hcanonical
  have hof := isOfSeries_of_canonicalizeSilver hcanonical
  -- each row comes from one of Bronze
  have hfrom : ∀ kept ∈ merged.rows, ∃ r ∈ bronze.rows, kept.seriesId = r.seriesId
      ∧ kept.observationDate = r.observationDate
      ∧ (silverRow s.contract r).samePayload kept = true := by
    intro kept hkept
    obtain ⟨r, hr, hkey⟩ := hholds.keys kept hkept
    obtain ⟨kept', hkept', hkey', hsame⟩ := hagrees.rows _ ((hcandidate.mem _).mpr ⟨r, hr, rfl⟩)
    obtain rfl : kept' = kept := List.inj_on_of_nodup_map hholds.months.sorted.nodup hkept' hkept
      (hkey'.trans hkey)
    obtain ⟨hseries, hdate⟩ := Prod.mk.inj (toLex.injective hkey')
    exact ⟨r, hr, hseries, hdate, hsame⟩
  have hcell : ∀ row ∈ (silverFrame merged).rows, ∀ c : GoldColumn, c.series = s →
      ∃ y, seriesCells s row c = some y ∧ y.isFinite = true := by
    intro row hrow c hc
    obtain ⟨kept, hkept, heq⟩ := List.mem_map.mp hrow
    obtain ⟨r, hr, -, -, hsame⟩ := hfrom kept hkept
    obtain ⟨x, hx, hfinite⟩ := finite_cell_of_canonicalizeSilver hcanonical hr hc
    have hequal : Float64.eqMissing (r.cell c) (seriesCells s row c) = true :=
      eqMissing_cell hsame (heq ▸ rfl) (heq ▸ rfl) hc
    exact isFinite_of_eqMissing hfinite (hx ▸ hequal)
  refine ⟨merged, hholds.read_eq,
    { schema := decide_eq_true hholds.schema
      identity := fun row hrow => ?_
      value := fun row hrow => ?_
      date := fun row hrow => ?_
      unique := ?_
      bar := fun hshape row hrow f x hx => ?_ }, fun hne => ?_⟩
  · obtain ⟨kept, hkept, rfl⟩ := List.mem_map.mp hrow
    obtain ⟨r, hr, hseries, -⟩ := hfrom kept hkept
    exact congrArg some (hseries.trans (hof r hr).2)
  · obtain ⟨y, hy, hfinite⟩ := hcell row hrow (.level s) rfl
    exact ⟨y, (if_pos rfl).symm.trans hy, hfinite⟩
  · obtain ⟨kept, hkept, rfl⟩ := List.mem_map.mp hrow
    obtain ⟨r, hr, -, hdate, -⟩ := hfrom kept hkept
    exact ⟨kept.observationDate, rfl, hdate ▸ hdates r hr⟩
  · -- the rows are of one series, so that their keys differ in the dates
    rw [silverFrame, List.map_map]
    refine (List.nodup_map_iff_inj_on (List.Nodup.of_map _ hholds.months.sorted.nodup)).mpr ?_
    intro a ha b hb heq
    obtain ⟨r, hr, hseries, -⟩ := hfrom a ha
    obtain ⟨r', hr', hseries', -⟩ := hfrom b hb
    refine List.inj_on_of_nodup_map hholds.months.sorted.nodup ha hb ?_
    have hsame : a.seriesId = b.seriesId := by
      rw [hseries, hseries', (hof r hr).2, (hof r' hr').2]
    exact congrArg toLex (Prod.ext hsame (Option.some.inj heq))
  · obtain ⟨y, hy, hfinite⟩ := hcell row hrow (.bar s hshape f) rfl
    have hfield : row.bar f = some y := (if_pos rfl).symm.trans hy
    obtain rfl := Option.some.inj (hx.symm.trans hfield)
    exact .inl hfinite
  · obtain ⟨r, hr⟩ := List.exists_mem_of_ne_nil _ hne
    obtain ⟨kept, hkept, -⟩ := hagrees.rows _ ((hcandidate.mem _).mpr ⟨r, hr, rfl⟩)
    exact Bool.eq_false_iff.mpr (fun hempty => by
      rw [Frame.isEmpty_iff.mp hempty] at hkept
      cases hkept)

/-! ## A frame that can be published -/

/-- The first instant of a date is one that Python can hold. -/
theorem loadDatetime_instantOfDate {d : Date} (h : dateMin ≤ d ∧ d ≤ dateMax) :
    loadDatetime (instantOfDate d) = .ok (instantOfDate d) := by
  have hscale : ∀ n : ℤ, -719162 ≤ n ∧ n ≤ 2932896 →
      -62135596800000000 ≤ n * 86400000000 ∧ n * 86400000000 ≤ 253402300799999999 := by
    omega
  exact if_pos (hscale d h)

/-- The bounds of timestamps that Python can hold. -/
theorem GoldFrame.exists_bounds {frame : GoldFrame}
    (h : ∀ t ∈ frame.timestamps, loadDatetime t = .ok t) : ∃ bounds, frame.bounds = .ok bounds := by
  have hload : ∀ t : Option Timestamp, (∀ a ∈ t, a ∈ frame.timestamps) →
      ∃ bound, loadBound t = .ok bound := by
    intro t ht
    cases t with
    | none => exact ⟨none, rfl⟩
    | some a => exact ⟨some (.utc a), by rw [loadBound, h a (ht a rfl)]; rfl⟩
  obtain ⟨minimum, hmin⟩ := hload frame.timestamps.min? (fun a ha => List.min?_mem ha)
  obtain ⟨maximum, hmax⟩ := hload frame.timestamps.max? (fun a ha => List.max?_mem ha)
  exact ⟨_, bind_eq_ok.mpr ⟨minimum, hmin, bind_eq_ok.mpr ⟨maximum, hmax, rfl⟩⟩⟩

/-- **Provenance that has been assembled** passes the checks of the manifest. -/
theorem validateInputs_of_isSignature {inputs : List SilverInputSignature}
    (h : List.Forall₂ (fun s signature => IsSignature s.id signature) goldSourceSeries inputs) :
    validateInputs inputs = .ok () := by
  have hids : inputs.map (·.seriesId) = goldSourceSeries.map Series.id := by
    have hsame : List.Forall₂ (· = ·) (inputs.map (·.seriesId)) (goldSourceSeries.map Series.id) := by
      rw [List.forall₂_map_left_iff, List.forall₂_map_right_iff]
      exact h.flip.imp (fun _ _ hsignature => hsignature.seriesId_eq)
    rwa [List.forall₂_eq_eq_eq] at hsame
  unfold validateInputs
  simp only [bind_eq_ok, forM_eq_ok, check_eq_ok, exists_const]
  refine ⟨hids, fun signature hsignature => ?_⟩
  obtain ⟨s, -, hs⟩ := forall₂_exists_left h hsignature
  exact ⟨hs.rowCount_nonneg, hs.digest, hs.ordered⟩

section Publishable

variable {pipeline : DailyMedallionPipeline} {lake : MedallionLake} {gold : GoldFrameBuild}

/-- **What is assembled of Silver can be published.** -/
theorem CanonicalGold.isPublishable (h : CanonicalGold pipeline lake gold)
    (hframe : pipeline.goldFormats.KeepsAssembled pipeline.writeCsv)
    (hpng : pipeline.goldFormats.RendersPng) :
    GoldProgram.IsPublishable pipeline.goldFormats gold.frame
      ∧ gold.inputs ≠ [] ∧ validateInputs gold.inputs = .ok () := by
  obtain ⟨silver, hholds, hsorted, hsilver⟩ := h.silver
  obtain ⟨frames, -, -, hassembled⟩ := h
  obtain ⟨-, -, -, hinputs⟩ := assembleGoldFrame_spec hassembled
  have hincreasing : gold.frame.timestamps.Pairwise (· < ·) := by
    refine List.pairwise_filterMap.mpr (hsorted.imp (fun hbefore t ht t' ht' => ?_))
    obtain ⟨a, ha, b, hb, hlt⟩ := hbefore
    obtain rfl := Option.some.inj (ha.symm.trans ht)
    obtain rfl := Option.some.inj (hb.symm.trans ht')
    exact hlt
  have hsome : ∀ row ∈ gold.frame.rows, row.1.isSome = true := fun row hrow => by
    obtain ⟨t, ht, -⟩ := (hholds.mem row).mp hrow
    rw [ht]
    rfl
  refine ⟨⟨?_, GoldFrame.exists_bounds (fun t ht => ?_), hframe _ _ hassembled, hpng _⟩, ?_,
    validateInputs_of_isSignature hinputs⟩
  · unfold GoldFrame.validate
    simp only [bind_eq_ok, check_eq_ok, exists_const]
    exact ⟨List.all_eq_true.mpr hsome, hincreasing.imp (fun hlt => ne_of_lt hlt), hincreasing⟩
  · -- every instant is the first one of a date of some series
    obtain ⟨row, hrow, ht⟩ := List.mem_filterMap.mp ht
    obtain ⟨t', ht', hat⟩ := (hholds.mem row).mp hrow
    obtain rfl := Option.some.inj (ht'.symm.trans ht)
    obtain ⟨s, -, hs⟩ := (isSome_assembledAt_iff t').mp (by rw [hat]; rfl)
    obtain ⟨r, hr⟩ := Option.isSome_iff_exists.mp hs
    obtain ⟨d, hd, hrange⟩ := (hsilver s).1.date r (List.mem_of_find?_eq_some hr)
    have hinstant : r.observationDate.map instantOfDate = some t' := by
      simpa using List.find?_some hr
    rw [hd] at hinstant
    obtain rfl := Option.some.inj hinstant
    exact loadDatetime_instantOfDate hrange
  · intro hnil
    rw [hnil] at hinputs
    cases hinputs

/-- **All Silver that is current is assembled.** -/
theorem succeeds_canonicalGold (hregistry : pipeline.seriesRegistry = .canonical)
    (hsilver : ∀ s : Series, ∃ frame, pipeline.silver.read (lake.silver s.id) = .ok frame
      ∧ IsSilverOf s (silverFrame frame) ∧ frame.isEmpty = false) (runId command : String) :
    Succeeds (pipeline.canonicalGold runId command) lake (fun _ _ => True) := by
  choose frame hread hof hfilled using hsilver
  have hcontracts : ∀ contract ∈ pipeline.seriesRegistry.contracts, ∃ s : Series,
      s.contract = contract := fun contract hcontract => by
    rw [hregistry] at hcontract
    obtain ⟨s, -, hs⟩ := List.mem_map.mp hcontract
    exact ⟨s, hs⟩
  unfold DailyMedallionPipeline.canonicalGold
  refine succeeds_bind_write (succeeds_bind ((succeeds_collect (I := fun s => s.silver = lake.silver)
    (P := fun contract read => pipeline.silver.read (lake.silver contract.seriesId) = .ok read)
    rfl ?_).mono ?_))
  · intro contract hcontract s hs
    obtain ⟨series, rfl⟩ := hcontracts contract hcontract
    exact succeeds_query (hs.symm ▸ hread series) ⟨hs, hread series⟩
  · rintro frames s ⟨-, hframes⟩
    have hzip : ∀ entry ∈ pipeline.seriesRegistry.contracts.zip frames, ∃ series : Series,
        series.contract = entry.1 ∧ entry.2 = frame series := fun entry hentry => by
      obtain ⟨series, hseries⟩ := hcontracts entry.1 (List.of_mem_zip hentry).1
      have hentry' := (List.forall₂_iff_zip.mp hframes).2 hentry
      exact ⟨series, hseries, Except.ok.inj ((hseries ▸ hentry').symm.trans (hread series))⟩
    have hmissing : (pipeline.seriesRegistry.contracts.zip frames).filter
        (fun entry => entry.2.isEmpty) = [] := by
      refine List.filter_eq_nil_iff.mpr (fun entry hentry => ?_)
      obtain ⟨series, -, hframe⟩ := hzip entry hentry
      rw [hframe, hfilled series]
      exact Bool.false_ne_true
    -- each series is found under its id
    have hby : DailyMedallionPipeline.silverBySeries pipeline.seriesRegistry.contracts frames
        = fun series => some (silverFrame (frame series)) := by
      funext series
      have hfound : ((pipeline.seriesRegistry.contracts.zip frames).find?
          (fun entry => entry.1.seriesId == series.id)).isSome = true := by
        have hmem : series.contract ∈ pipeline.seriesRegistry.contracts := by
          rw [hregistry]
          exact SeriesRegistry.mem_canonical series
        obtain ⟨i, hi, hget⟩ := List.getElem_of_mem hmem
        have hlength := hframes.length_eq
        refine List.find?_isSome.mpr ⟨(pipeline.seriesRegistry.contracts[i], frames[i]), ?_, ?_⟩
        · exact List.mem_iff_getElem.mpr ⟨i, by simp [hlength ▸ hi, hi], by simp⟩
        · rw [hget]
          exact beq_self_eq_true _
      obtain ⟨entry, hentry⟩ := Option.isSome_iff_exists.mp hfound
      obtain ⟨found, hcontract, hframe⟩ := hzip entry (List.mem_of_find?_eq_some hentry)
      have hid : entry.1.seriesId = series.id := by simpa using List.find?_some hentry
      obtain rfl : found = series := by
        rw [← hcontract] at hid
        exact List.inj_on_of_nodup_map goldSourceSeries_ids_nodup (mem_goldSourceSeries _)
          (mem_goldSourceSeries _) hid
      rw [DailyMedallionPipeline.silverBySeries, hentry, Option.map_some, hframe]
    obtain ⟨gold, hgold⟩ := exists_goldFrameBuild pipeline.goldFormats.sha256 pipeline.writeCsv hof
    refine succeeds_bind_require hmissing (succeeds_bind_ofExcept (hby ▸ hgold) ?_)
    exact succeeds_bind_write (succeeds_pure trivial)

end Publishable

/-! ## The stages -/

section Stages

variable {pipeline : DailyMedallionPipeline} {pool : Pool} {inputs : CommandInputs}
  {runId command : String} {selected : List String} {today : Date} {s : MedallionLake}
  {gold : GoldFrameBuild}

/-- What is sent between two steps changes no file. -/
theorem succeeds_bind_event {α : Type} {stage status : String} {context : List (String × Json)}
    {k : Unit → LakeProgram α} {Q : α → MedallionLake → Prop}
    (h : ∀ s', SameFiles s s' → Succeeds (k ()) s' Q) :
    Succeeds (DailyMedallionPipeline.event runId command stage status context >>= k) s Q :=
  succeeds_bind_write (h _ ⟨rfl, rfl, rfl, rfl⟩)

theorem succeeds_event {stage status : String} {context : List (String × Json)} :
    Succeeds (DailyMedallionPipeline.event runId command stage status context) s
      (fun _ s' => SameFiles s s') := succeeds_write ⟨rfl, rfl, rfl, rfl⟩

/-- **There is no Gold yet.** -/
structure NoGold (s : MedallionLake) : Prop where
  catalog : s.gold.lake.catalog = none
  builds : ∀ buildId, s.gold.lake.builds buildId = none

theorem NoGold.of_eq {s' : MedallionLake} (h : NoGold s) (hgold : s'.gold = s.gold) : NoGold s' :=
  ⟨hgold ▸ h.catalog, hgold ▸ h.builds⟩

/-- **There is nothing to recover** where there is no Gold. -/
theorem succeeds_recover (h : NoGold s) :
    Succeeds (pipeline.recover inputs command) s (fun _ s' => NoGold s') := by
  unfold DailyMedallionPipeline.recover
  refine succeeds_bind_event (fun s₁ h₁ => succeeds_bind (succeeds_onPart _ ?_))
  have h₁ := h.of_eq h₁.gold
  refine (GoldProgram.succeeds_reconcile h₁.catalog).mono (fun _ lake hlake => ?_)
  have h₂ : NoGold { s₁ with gold := lake } :=
    ⟨hlake.2.catalog_eq.trans h₁.catalog, fun buildId => by
      show lake.lake.builds buildId = none
      rw [hlake.2.builds_eq]
      exact h₁.builds buildId⟩
  exact succeeds_event.mono (fun _ _ hsame => h₂.of_eq hsame.gold)

theorem succeeds_logBronzeResults {batch : BatchRunResult} (hnone : batch.failures = []) :
    Succeeds (pipeline.logBronzeResults runId command batch) s (fun _ s' => SameFiles s s') := by
  have hstart : SameFiles s s := Std.Refl.refl s
  unfold DailyMedallionPipeline.logBronzeResults
  rw [hnone]
  refine succeeds_bind (succeeds_forEach (fun _ s' => SameFiles s s') hstart (fun _ _ _ s' hs' =>
    succeeds_event.mono (fun _ _ hsame => IsTrans.trans _ _ _ hs' hsame)) (fun s₁ h₁ => ?_))
  refine succeeds_bind (succeeds_pure (succeeds_event.mono (fun _ s₂ h₂ => ?_)))
  exact IsTrans.trans _ _ _ h₁ h₂

/-- **The update of Bronze** goes through if no series has failed. -/
theorem succeeds_updateBronze {batch : BatchRunResult} {bronze : BronzeLake}
    (hruns : pool.runMany selected .update today s.bronze [] = (.returned batch, bronze, []))
    (hnone : batch.failures = []) :
    Succeeds (pipeline.updateBronze pool inputs selected today) s
      (fun _ s' => s'.bronze = bronze ∧ s'.gold = s.gold) := by
  unfold DailyMedallionPipeline.updateBronze
  refine succeeds_bind_event (fun s₁ h₁ => succeeds_bind (succeeds_onPart _ ?_))
  have hran : Succeeds (pool.runMany selected .update today) s₁.bronze
      (fun found lake => found = batch ∧ lake = bronze) :=
    ⟨batch, bronze, h₁.bronze.symm ▸ hruns, rfl, rfl⟩
  refine hran.mono ?_
  rintro _ _ ⟨rfl, rfl⟩
  refine succeeds_bind ((succeeds_logBronzeResults hnone).mono (fun _ s₂ h₂ => ?_))
  exact succeeds_bind_require hnone (succeeds_pure ⟨h₂.bronze, h₂.gold.trans h₁.gold⟩)

/-- **The pool does not give up**: builds that can all succeed do. -/
def Pool.BuildsThrough (pool : Pool) (pipeline : DailyMedallionPipeline) : Prop :=
  ∀ contracts (hdistinct : (contracts.map (·.seriesId)).Nodup) s,
    (∃ results s', MapEnds ((pipeline.silverWorkers contracts hdistinct).initial (fun _ => []) s)
      (.returned results) s') →
    ∃ results s', pool.buildAll contracts s [] = (.returned results, s', [])

/-- **A series has been loaded**: its Bronze has rows, of which Silver can be built. -/
def HasLoaded (pipeline : DailyMedallionPipeline) (bronze : BronzeLake)
    (contract : SeriesContract) : Prop :=
  ∃ frame candidate, pipeline.uow.readBronze bronze contract.key = .ok frame ∧ frame.rows ≠ []
    ∧ canonicalizeSilver contract frame = .ok candidate

/-- All registered series have a contract. -/
theorem contracts_of_ids : pipeline.seriesRegistry.ids.mapM pipeline.contractOf
    = .ok pipeline.seriesRegistry.contracts := by
  have hmap : ∀ contracts : List SeriesContract,
      (∀ contract ∈ contracts, contract ∈ pipeline.seriesRegistry.contracts) →
        (contracts.map (·.seriesId)).mapM pipeline.contractOf = .ok contracts := by
    intro contracts hcontracts
    induction contracts with
    | nil => rfl
    | cons contract rest ih =>
      have hfound : pipeline.contractOf contract.seriesId = .ok contract := by
        rw [DailyMedallionPipeline.contractOf, SeriesRegistry.find?_eq_some.mpr
          ⟨hcontracts contract List.mem_cons_self, rfl⟩]
      rw [List.map_cons, List.mapM_cons, hfound, ih (fun c hc => hcontracts c
        (List.mem_cons_of_mem _ hc))]
      rfl
  exact hmap _ (fun _ h => h)

/-- **Silver is built of all series that have been loaded.** -/
theorem succeeds_buildSelectedSilver (h : MedallionInvariant pipeline s)
    (hbuilds : pool.BuildsThrough pipeline)
    (hloaded : ∀ contract ∈ pipeline.seriesRegistry.contracts, HasLoaded pipeline s.bronze contract) :
    Succeeds (pipeline.buildSelectedSilver pool runId command pipeline.seriesRegistry.ids) s
      (fun _ _ => True) := by
  unfold DailyMedallionPipeline.buildSelectedSilver
  refine succeeds_bind_event (fun s₁ h₁ => succeeds_bind_ofExcept contracts_of_ids ?_)
  have hinvariant := h.keeps h₁.keepsLayers
  have hends : ∃ results s', MapEnds ((pipeline.silverWorkers pipeline.seriesRegistry.contracts
      pipeline.seriesRegistry.nodup).initial (fun _ => []) s₁) (.returned results) s' := by
    refine SilverWorkers.exists_mapEnds (fun i => ?_)
    have hmem : pipeline.seriesRegistry.contracts.get i ∈ pipeline.seriesRegistry.contracts :=
      List.get_mem _ i
    obtain ⟨bronze, kept, hstored, hsilver⟩ := hinvariant.series _ hmem
    obtain ⟨frame, candidate, hread, -, hcanonical⟩ := hloaded _ hmem
    rw [← h₁.bronze] at hread
    obtain ⟨read, hread', hrows⟩ := hstored.readBronze
    obtain rfl : read = frame := Except.ok.inj (hread'.symm.trans hread)
    have hdates : ∀ r ∈ read.rows, dateMin ≤ r.observationDate ∧ r.observationDate ≤ dateMax :=
      fun r hr => hstored.holds.dates r (hrows ▸ hr)
    have hholds := hsilver.congr hrows
    exact ((succeeds_build hread hholds hcanonical hdates).and_wp (wp_build hread hholds)).mono
      (fun _ _ hbuilt => hbuilt.2.1)
  obtain ⟨results, s', hreturned⟩ := hbuilds _ _ _ hends
  exact succeeds_bind ⟨results, s', hreturned, succeeds_write trivial⟩

/-- **The publication of the first canonical frame.** -/
theorem succeeds_publishGold (hgold : CanonicalGold pipeline s gold) (hnone : NoGold s)
    (hframe : pipeline.goldFormats.KeepsAssembled pipeline.writeCsv)
    (hmanifest : pipeline.goldFormats.KeepsManifests) (hpng : pipeline.goldFormats.RendersPng)
    (hclocks : inputs.publication.IsTimely) :
    Succeeds (pipeline.publishGold inputs command gold) s (fun record s' =>
      record.current = true ∧ s'.gold.lake.catalog = some [record]
        ∧ WellFormedCatalog [record]) := by
  obtain ⟨hpublishable, hne, hinputs⟩ := hgold.isPublishable hframe hpng
  have hclocks' : (inputs.publishCall gold).IsTimely :=
    ⟨hclocks.buildId, hclocks.isId, hclocks.started, hclocks.completed, hclocks.ordered⟩
  unfold DailyMedallionPipeline.publishGold
  refine succeeds_bind (succeeds_onPart _ ((GoldProgram.succeeds_publish hmanifest hpublishable rfl
    hclocks' hne hinputs hnone.catalog hnone.builds).mono (fun record lake hlake => ?_)))
  exact succeeds_bind_event (fun s' hsame => succeeds_pure
    ⟨hlake.1, (congrArg (fun gold => gold.lake.catalog) hsame.gold).trans hlake.2.1, hlake.2.2⟩)

/-- The inventory has the ids of the registry. -/
theorem InventoryRefreshService.record_seriesId {service : InventoryRefreshService}
    {contract : SeriesContract} {files : MonthFiles} {record : InventoryRecord}
    (h : service.record contract files = .ok record) : record.seriesId = contract.seriesId := by
  unfold InventoryRefreshService.record at h
  split_ifs at h
  · cases h
    rfl
  · simp only [bind_eq_ok, check_eq_ok, exists_const] at h
    obtain ⟨_, -, -, -, -, _, -, _, -, h⟩ := h
    cases h
    rfl

/-- **The end of a daily run** goes through, where one build is current and all Silver is. -/
theorem succeeds_closeDaily {record : GoldCatalogRecord} (h : MedallionInvariant pipeline s)
    (hsilver : ∀ contract ∈ pipeline.seriesRegistry.contracts, SilverCurrent pipeline s contract)
    (hcatalog : s.gold.lake.catalog = some [record]) (hwellFormed : WellFormedCatalog [record])
    (hcurrent : record.current = true) :
    Succeeds (pipeline.closeDaily inputs) s (fun _ _ => True) := by
  have hread : ∀ contract ∈ pipeline.seriesRegistry.contracts, ∃ record,
      pipeline.inventoryService.record contract (s.bronze.months contract.key) = .ok record
        ∧ pipeline.inventoryService.record contract (s.bronze.months contract.key)
          = .ok record := by
    intro contract hmem
    obtain ⟨bronze, kept, hstored, -⟩ := h.series contract hmem
    obtain ⟨frame, hframe, candidate, -, hcanonical, -⟩ := hsilver contract hmem
    obtain ⟨read, hread, hrows⟩ := hstored.readBronze
    obtain rfl := Except.ok.inj (hread.symm.trans hframe)
    have hof : IsOfSeries contract bronze := fun r hr =>
      isOfSeries_of_canonicalizeSilver hcanonical r (hrows ▸ hr)
    have hrecord : pipeline.inventoryService.record contract (s.bronze.months contract.key)
        = .ok _ := hstored.inventoryRecord.mpr ⟨hof, rfl⟩
    exact ⟨_, hrecord, hrecord⟩
  obtain ⟨records, -, hrecords⟩ := exists_mapM_eq_ok hread
  unfold DailyMedallionPipeline.closeDaily
  refine succeeds_bind (succeeds_onPart _ ((GoldProgram.succeeds_retain hcatalog hwellFormed
    hcurrent).mono ?_))
  rintro _ _ rfl
  refine succeeds_bind_event (fun s₁ h₁ => ?_)
  have hbronze : s₁.bronze = s.bronze := h₁.bronze
  have hreads : pipeline.inventoryService.Reads s₁ records := by
    unfold InventoryRefreshService.Reads
    rw [hbronze]
    exact hrecords
  exact succeeds_bind ((InventoryRefreshService.succeeds_refresh hreads (fun _ _ =>
    InventoryRefreshService.record_seriesId)).mono (fun _ _ _ =>
      succeeds_bind_write (succeeds_pure trivial)))

/-- All series are selected where none is named. -/
theorem resolveSeries_all : pipeline.resolveSeries [] = .ok pipeline.seriesRegistry.ids := by
  have hknown : pipeline.seriesRegistry.ids.filter
      (fun id => (pipeline.seriesRegistry.find? id).isNone) = [] := by
    refine List.filter_eq_nil_iff.mpr (fun id hid => ?_)
    obtain ⟨contract, hcontract, rfl⟩ := List.mem_map.mp hid
    rw [SeriesRegistry.find?_eq_some.mpr ⟨hcontract, rfl⟩]
    exact Bool.false_ne_true
  unfold DailyMedallionPipeline.resolveSeries
  simp only [bind_eq_ok, check_eq_ok, exists_const]
  exact ⟨duplicateKeys_eq_nil pipeline.seriesRegistry.nodup, hknown, rfl⟩

end Stages

/-! ## The first daily run -/

/-- **The first day**: nothing disturbs the job of an empty lake, and all series can be
loaded. -/
structure FirstDay (pipeline : DailyMedallionPipeline) (pool : Pool) (inputs : CommandInputs)
    (today : Date) (batch : BatchRunResult) (bronze : BronzeLake) : Prop where
  registry : pipeline.seriesRegistry = .canonical
  serves : pool.Serves pipeline
  runs : pool.runMany pipeline.seriesRegistry.ids .update today .empty []
    = (.returned batch, bronze, [])
  succeeded : batch.failures = []
  builds : pool.BuildsThrough pipeline
  loaded : ∀ contract ∈ pipeline.seriesRegistry.contracts, HasLoaded pipeline bronze contract
  frames : pipeline.goldFormats.KeepsAssembled pipeline.writeCsv
  manifests : pipeline.goldFormats.KeepsManifests
  pictures : pipeline.goldFormats.RendersPng
  clocks : inputs.publication.IsTimely

section First

variable {pipeline : DailyMedallionPipeline} {pool : Pool} {inputs : CommandInputs} {today : Date}
  {batch : BatchRunResult} {bronze : BronzeLake} {s : MedallionLake}

/-- Silver that is current, of Bronze that has been loaded, can be assembled. -/
theorem MedallionInvariant.exists_silver (h : MedallionInvariant pipeline s) {series : Series}
    (hmem : series.contract ∈ pipeline.seriesRegistry.contracts)
    (hcurrent : SilverCurrent pipeline s series.contract)
    (hloaded : HasLoaded pipeline s.bronze series.contract) :
    ∃ frame, pipeline.silver.read (s.silver series.id) = .ok frame
      ∧ IsSilverOf series (silverFrame frame) ∧ frame.isEmpty = false := by
  obtain ⟨frame, hframe, hbuilt⟩ := hcurrent
  obtain ⟨found, candidate, hfound, hne, -⟩ := hloaded
  obtain rfl := Except.ok.inj (hfound.symm.trans hframe)
  obtain ⟨stored, kept, hstored, -⟩ := h.series _ hmem
  obtain ⟨read, hread, hrows⟩ := hstored.readBronze
  obtain rfl : read = found := Except.ok.inj (hread.symm.trans hframe)
  obtain ⟨silver, hsilver, hof, hfilled⟩ := hbuilt.isSilverOf
    (fun r hr => hstored.holds.dates r (hrows ▸ hr))
  exact ⟨silver, hsilver, hof, hfilled hne⟩

/-- All series are registered. -/
theorem FirstDay.registered (h : FirstDay pipeline pool inputs today batch bronze)
    (series : Series) : series.contract ∈ pipeline.seriesRegistry.contracts :=
  h.registry ▸ SeriesRegistry.mem_canonical series

/-- **The first daily run goes through.** -/
theorem succeeds_runDaily_first (h : FirstDay pipeline pool inputs today batch bronze) :
    Succeeds (pipeline.runDaily pool inputs [] today) .empty (fun _ _ => True) := by
  have hempty := medallionInvariant_empty pipeline
  have hnone : NoGold MedallionLake.empty := ⟨rfl, fun _ => rfl⟩
  unfold DailyMedallionPipeline.runDaily
  refine succeeds_bind_ofExcept resolveSeries_all (succeeds_bind_event (fun s₀ h₀ => ?_))
  refine Succeeds.tryCatch ?_
  -- there is nothing to recover
  refine succeeds_bind (((succeeds_recover (hnone.of_eq h₀.gold)).and_wp
    (moves_recover pipeline inputs "run-daily" s₀)).mono ?_)
  rintro _ s₁ ⟨hnone₁, hkeeps₁⟩
  have hinvariant₁ := (hempty.keeps h₀.keepsLayers).keeps hkeeps₁
  have hbronze₁ : s₁.bronze = .empty := hkeeps₁.bronze.trans h₀.bronze
  -- all series are loaded
  have hruns : pool.runMany pipeline.seriesRegistry.ids .update today s₁.bronze []
      = (.returned batch, bronze, []) := hbronze₁.symm ▸ h.runs
  refine succeeds_bind (((succeeds_updateBronze hruns h.succeeded).and_wp
    (wp_updateBronze h.serves hinvariant₁)).mono ?_)
  rintro _ s₂ ⟨⟨hbronze₂, hgold₂⟩, ⟨hinvariant₂, -⟩, -⟩
  -- Silver is built of them
  have hloaded : ∀ s' : MedallionLake, s'.bronze = bronze →
      ∀ contract ∈ pipeline.seriesRegistry.contracts, HasLoaded pipeline s'.bronze contract :=
    fun s' hs' => hs'.symm ▸ h.loaded
  refine succeeds_bind (((succeeds_buildSelectedSilver hinvariant₂ h.builds
    (hloaded s₂ hbronze₂)).and_wp (wp_buildSelectedSilver h.serves hinvariant₂
      pipeline.seriesRegistry.nodup)).mono ?_)
  rintro _ s₃ ⟨-, ⟨hinvariant₃, honly₃⟩, hsilver₃⟩
  have hbronze₃ : s₃.bronze = bronze := honly₃.bronze.trans hbronze₂
  have hcurrent₃ : ∀ contract ∈ pipeline.seriesRegistry.contracts,
      SilverCurrent pipeline s₃ contract := fun contract hmem =>
    hsilver₃ contract hmem (List.mem_map_of_mem hmem)
  -- Gold is assembled of it, and published
  refine succeeds_bind (((succeeds_canonicalGold h.registry (fun series =>
    hinvariant₃.exists_silver (h.registered series) (hcurrent₃ _ (h.registered series))
      (hloaded s₃ hbronze₃ _ (h.registered series))) inputs.runId "run-daily").and_wp
        (wp_canonicalGold pipeline inputs.runId "run-daily" s₃)).mono ?_)
  rintro gold s₄ ⟨-, hsame₄, hcanonical⟩
  have hnone₄ : NoGold s₄ :=
    hnone₁.of_eq (hsame₄.gold.trans (honly₃.gold.trans hgold₂))
  have hinvariant₄ := hinvariant₃.keeps hsame₄.keepsLayers
  refine succeeds_bind (((succeeds_publishGold hcanonical hnone₄ h.frames h.manifests h.pictures
    h.clocks).and_wp (wp_publishGold hinvariant₄ (Std.Refl.refl s₄.gold) hcanonical)).mono ?_)
  rintro record s₅ ⟨⟨hcurrent, hcatalog, hwellFormed⟩, ⟨hkeeps₅, hbronze₅, hsilver₅⟩, -⟩
  -- one build is current, and nothing is to be retained
  have hcurrent₅ : ∀ contract ∈ pipeline.seriesRegistry.contracts,
      SilverCurrent pipeline s₅ contract := fun contract hmem => by
    obtain ⟨frame, hread, hbuilt⟩ := hcurrent₃ contract hmem
    refine ⟨frame, ?_, ?_⟩
    · rw [hbronze₅, hsame₄.bronze]
      exact hread
    · rw [hsilver₅, hsame₄.silver]
      exact hbuilt
  refine succeeds_bind ((succeeds_closeDaily hkeeps₅.invariant hcurrent₅ hcatalog hwellFormed
    hcurrent).mono (fun _ s₆ _ => ?_))
  exact succeeds_bind_event (fun _ _ => succeeds_pure trivial)

/-- **The first daily run returns, and the synchronization after it succeeds.** -/
theorem FirstDay.exists_run {inputs : JobInputs}
    (h : FirstDay pipeline pool inputs.command inputs.today batch bronze)
    (hready : inputs.sync.Ready) :
    ∃ ran lake, pipeline.runDaily pool inputs.command [] inputs.today .empty []
        = (.returned ran, lake, [])
      ∧ DailyDone pipeline inputs.command pipeline.seriesRegistry.ids inputs.today .empty lake ran
      ∧ SyncSucceeds pipeline inputs .empty { Loader.empty with lake := lake } := by
  obtain ⟨ran, lake, hran, -, hkeeps, selected, hselected, hdone⟩ :=
    (succeeds_runDaily_first h).and_wp (wp_runDaily h.serves (medallionInvariant_empty pipeline))
  obtain rfl := resolveSeries_nil hselected
  exact ⟨ran, lake, hran, hdone, DailyDone.syncSucceeds (s := Loader.empty) hdone h.frames
    h.manifests h.registered hkeeps.invariant hselected hready (.inl rfl)⟩

/-- **The first daily job goes through**, up to the database. -/
theorem succeeds_dailyJob_first {inputs : JobInputs}
    (h : FirstDay pipeline pool inputs.command inputs.today batch bronze)
    (hready : inputs.sync.Ready) :
    Succeeds (dailyJob pipeline pool inputs) .empty (fun result s' =>
      JobDone pipeline inputs .empty s' result) := by
  obtain ⟨ran, lake, hran, -, hsync⟩ := h.exists_run hready
  unfold dailyJob
  refine succeeds_bind (succeeds_onPart Loader.lakePart ⟨ran, lake, hran, ?_⟩)
  exact hsync.mono (fun _ _ hs' => hs'.1)

end First

/-! ### The first day of the epoch -/

/-- Silver can be built of one row. -/
theorem exists_canonicalizeSilver_dayFrame (s : Series) : ∃ candidate,
    canonicalizeSilver s.contract (dayFrame s.contract [0]) = .ok candidate := by
  cases s <;> exact ⟨_, rfl⟩

/-- **The first update of all series** is a way to end without failures, and all of them are
read back. -/
theorem exists_firstUpdate {orchestrator : BronzeOrchestrator}
    (hregistered : ∀ s : Series, orchestrator.seriesRegistry s.id = some s.contract) :
    ∃ batch lake, RunManyEnds orchestrator SeriesRegistry.canonical.ids .update 0 .empty
        (.returned batch) lake
      ∧ batch.failures = []
      ∧ ∀ s : Series,
        orchestrator.uow.readBronze lake s.contract.key = .ok (dayFrame s.contract [0]) := by
  have hids : Function.Injective (dayCall goldSourceSeries id 0).runId :=
    List.nodup_iff_injective_get.mp goldSourceSeries_ids_nodup
  have hempty : ReadableRecords orchestrator.uow .empty :=
    ⟨⟨[], rfl, List.nodup_nil⟩, [], rfl, List.nodup_nil⟩
  obtain ⟨ends, batch, lake, hreturns, hnone, hread⟩ :=
    exists_dayCall hempty goldSourceSeries_ids_nodup hids (fun s _ => hregistered s)
      (fun _ _ => rfl) (by decide) epoch_inRange
  exact ⟨batch, lake, .returned ⟨rfl, rfl, rfl⟩ hids answersInSchema_dayCall hreturns, hnone,
    fun s => hread s (mem_goldSourceSeries s)⟩

/-! ### A pool -/

/-- A call of `run_many` without adapters, each run under the id of its series. -/
def idleCall (selected : List String) (operation : OperationMode) (today : Date) : RunManyCall where
  selected := selected
  operation := operation
  today := today
  inputs id := ⟨fun _ => none, id, .utc 0, .utc 0, .utc 0⟩
  faults _ := []

/-- A process that stops before the first run is a way to end. -/
theorem runManyEnds_crashed (orchestrator : BronzeOrchestrator) {selected : List String}
    (operation : OperationMode) (today : Date) (lake : BronzeLake) (hdistinct : selected.Nodup) :
    RunManyEnds orchestrator selected operation today lake .crashed lake := by
  let call := idleCall selected operation today
  have hanswers : call.AnswersInSchema orchestrator := fun _ _ _ _ _ _ hadapter => by cases hadapter
  exact .crashed (w := call.initial orchestrator lake) ⟨rfl, rfl, rfl⟩ hdistinct
    (List.nodup_iff_injective_get.mp hdistinct) hanswers .refl

/-- **A pool** may answer a call in any way that the call may end, and does not give up. -/
theorem exists_pool {pipeline : DailyMedallionPipeline} {selected : List String}
    {operation : OperationMode} {today : Date} {batch : BatchRunResult} {lake lake' : BronzeLake}
    (h : RunManyEnds pipeline.bronze selected operation today lake (.returned batch) lake') :
    ∃ pool : Pool, pool.Serves pipeline ∧ pool.BuildsThrough pipeline
      ∧ pool.runMany selected operation today lake [] = (.returned batch, lake', []) := by
  classical
  let Ends (contracts : List SeriesContract) (s : MedallionLake)
      (ended : List (FrameDiff CanonicalRow × List Month) × MedallionLake) : Prop :=
    ∃ hdistinct, MapEnds ((pipeline.silverWorkers contracts hdistinct).initial (fun _ => []) s)
      (.returned ended.1) ended.2
  let pool : Pool :=
    { runMany := fun selected' operation' today' lake₀ faults =>
        if selected' = selected ∧ operation' = operation ∧ today' = today ∧ lake₀ = lake then
          (.returned batch, lake', faults)
        else if selected'.Nodup then (.crashed, lake₀, faults)
        else (.raised ⟨.valueError, "duplicate canonical series_id"⟩, lake₀, faults)
      buildAll := fun contracts s faults =>
        if h : ∃ ended, Ends contracts s ended then
          (.returned h.choose.1, h.choose.2, faults)
        else (.crashed, s, faults) }
  refine ⟨pool, ⟨?_, ?_⟩, ?_, if_pos ⟨rfl, rfl, rfl, rfl⟩⟩
  · intro selected' operation' today' lake₀ faults
    dsimp only [pool]
    split_ifs with hcall hdistinct
    · obtain ⟨rfl, rfl, rfl, rfl⟩ := hcall
      exact h
    · exact runManyEnds_crashed _ _ _ _ hdistinct
    · exact .raised _ hdistinct
  · intro contracts hdistinct s faults
    refine ⟨fun _ => [], ?_⟩
    dsimp only [pool]
    split_ifs with hends
    · exact hends.choose_spec.choose_spec
    · exact .crashed .refl
  · rintro contracts hdistinct s ⟨results, s', hends⟩
    have hends' : ∃ ended, Ends contracts s ended := ⟨(results, s'), hdistinct, hends⟩
    exact ⟨hends'.choose.1, hends'.choose.2, dif_pos hends'⟩

/-- **There is a first day**: the job of an empty lake, on the first day of the epoch, with one
row of every series. -/
theorem exists_firstDay : ∃ (pipeline : DailyMedallionPipeline) (pool : Pool) (inputs : JobInputs)
    (batch : BatchRunResult) (bronze : BronzeLake),
    FirstDay pipeline pool inputs.command inputs.today batch bronze ∧ inputs.sync.Ready := by
  obtain ⟨uow⟩ := BronzeUnitOfWork.nonempty
  obtain ⟨silverFormat⟩ := FileFormat.nonempty CanonicalFrame
  obtain ⟨inventoryFormat⟩ := FileFormat.nonempty (List InventoryRecord)
  obtain ⟨formats, hframes, hmanifests, hpng⟩ := exists_keepsManifests
  let pipeline : DailyMedallionPipeline := ⟨.canonical, uow, {}, silverFormat, inventoryFormat,
    formats, fun _ => [], ⟨1, le_rfl⟩⟩
  let inputs : JobInputs := ⟨⟨"run-1", .utc 0, samplePublication 30, .utc 0⟩, 0,
    ⟨.ok (), .utc 0, []⟩⟩
  have hregistered : ∀ s : Series, pipeline.bronze.seriesRegistry s.id = some s.contract :=
    fun s => SeriesRegistry.find?_eq_some.mpr ⟨SeriesRegistry.mem_canonical s, rfl⟩
  obtain ⟨batch, bronze, hends, hnone, hread⟩ := exists_firstUpdate hregistered
  obtain ⟨pool, hserves, hbuilds, hruns⟩ := exists_pool hends
  refine ⟨pipeline, pool, inputs, batch, bronze, ?_, ⟨rfl, rfl⟩⟩
  exact
    { registry := rfl
      serves := hserves
      runs := hruns
      succeeded := hnone
      builds := hbuilds
      loaded := fun contract hcontract => by
        obtain ⟨s, -, rfl⟩ := List.mem_map.mp hcontract
        obtain ⟨candidate, hcandidate⟩ := exists_canonicalizeSilver_dayFrame s
        exact ⟨_, candidate, hread s, List.cons_ne_nil _ _, hcandidate⟩
      frames := hframes _
      manifests := hmanifests
      pictures := hpng
      clocks := ⟨rfl, by decide +kernel, rfl, rfl, le_rfl⟩ }
