import MacroLoader.FeatureDigest
import MacroLoader.GoldOuterJoin
import MacroLoader.Loader

/-!
# The daily job

The daily job runs the pipeline on all series and then brings the database to the build that
this has published. Between what a provider has answered and what a consumer reads lie four
copies of it, in the month files of Bronze and Silver, in a data file of Gold and in the raw
tables, each made from the one before by a program that knows nothing of the others. What
holds them together is that each cell is the same cell: a database that holds the current build
has, at each instant and in each column of a series, what Bronze has for the series on that
date, and nothing where it has nothing (`HoldsGold.showsBronze`). All that may get lost on the
way is the sign of a zero.
-/

open Program

/-! ## From Gold to the database -/

section Gold

variable {sha256 : Bytes → Sha256Hex} {frame : GoldFrame} {db : Replica} {state : GoldSyncState}
  {source : KeyedTable Timestamp (WideRow Float64 × Sha256Hex)}
  {rowAt : Timestamp → Option (WideRow Float64)}

/-- The source rows of a frame are its rows, in canonical form. -/
theorem canonicalRow_of_source (hrows : sourceRowsAndDigests sha256 frame = .ok source)
    (hholds : HoldsAt frame.rows rowAt) (t : Timestamp) :
    (rowAt t).map canonicalRow = (source.get? t).map (fun r => .ok r.1) := by
  obtain ⟨table, htable, htraverse⟩ := bind_eq_ok.mp hrows
  unfold sourceTable at htable
  simp only at htable
  split_ifs at htable with hnull hnodup
  obtain rfl := Except.ok.inj htable
  have hget : (KeyedTable.ofRows (frame.rows.filterMap
      (fun r => r.1.map (fun t => (t, r.2))))).get? t = rowAt t := by
    ext row
    rw [KeyedTable.get?_ofRows_eq_some_iff hnodup, ← hholds.mem_some, List.mem_filterMap]
    constructor
    · rintro ⟨⟨_ | t', row'⟩, hmem, heq⟩
      · cases heq
      · cases heq
        exact hmem
    · exact fun hmem => ⟨_, hmem, rfl⟩
  have ht := KeyedTable.traverse_eq_ok_iff.mp htraverse t
  rw [hget] at ht
  cases hrow : rowAt t with
  | none =>
    rw [hrow] at ht
    cases hs : source.get? t with
    | none => rfl
    | some r => rw [hs] at ht; cases ht
  | some row =>
    rw [hrow] at ht
    cases hs : source.get? t with
    | none => rw [hs] at ht; cases ht
    | some r =>
      rw [hs] at ht
      obtain ⟨-, hcanonical, -⟩ := sourceRow_eq_ok (Option.some.inj ht)
      exact congrArg some hcanonical

/-- Rows that have one canonical form have cells that have. -/
theorem canonicalCell_bind {row : Option (WideRow Float64)}
    {source : Option (WideRow Float64 × Sha256Hex)}
    (h : row.map canonicalRow = source.map (fun r => .ok r.1)) (c : GoldColumn) :
    canonicalCell (row.bind (fun row => row c)) = .ok (source.bind (fun r => r.1 c)) := by
  cases row with
  | none =>
    cases source with
    | none => rfl
    | some r => cases h
  | some row =>
    cases source with
    | none => cases h
    | some r => exact canonicalRow_eq_ok_iff.mp (Option.some.inj h) c

/-- **The cells that consumers find are those of the build**, in canonical form, where the
hash does not collide. -/
theorem HoldsBuild.canonicalCell_eq (h : HoldsBuild sha256 db source state)
    (hrows : sourceRowsAndDigests sha256 frame = .ok source) (hholds : HoldsAt frame.rows rowAt)
    (hsha : Set.InjOn sha256 (framings (consumerRows db.raw) ∪ framings (source.map Prod.fst)))
    (t : Timestamp) (c : GoldColumn) :
    canonicalCell (db.raw.cell t c) = canonicalCell ((rowAt t).bind (fun row => row c)) := by
  have hcell : db.raw.cell t c = ((consumerRows db.raw).get? t).bind (fun row => row c) := by
    cases hrow : (consumerRows db.raw).get? t with
    | none => exact cell_eq_none_of_consumerRows hrow c
    | some row => exact congrFun (cell_of_consumerRows hrow) c
  rw [hcell, canonicalCell_bind (canonicalRow_of_source hrows hholds t)]
  exact canonicalCell_bind
    (h.consumerRows_eq (fun t r hr => (sourceRows_spec hrows hr).2.symm) hsha t) c

end Gold

/-! ## From Silver to Gold -/

/-- **A cell of Gold is a cell of Silver**: that of its series, at the same instant. -/
theorem cell_assembledAt {silver : Series → SilverFrame} {rows : List FrameRow}
    (h : HoldsAt rows (assembledAt silver goldSourceSeries)) (t : Timestamp) (c : GoldColumn) :
    (assembledAt silver goldSourceSeries t).bind (fun row => row c)
      = ((silverRowAt (silver c.series) t).bind (fun r => seriesCells c.series r c)).filter
        (fun x => !x.isNaN) := by
  cases hrow : assembledAt silver goldSourceSeries t with
  | some cells =>
    exact cell_of_holdsAt h (h.mem_some.mpr hrow) rfl (mem_goldSourceSeries _)
  | none =>
    have hnone : silverRowAt (silver c.series) t = none := by
      by_contra hsome
      have hexists := isSome_assembledAt_iff t |>.mpr
        ⟨c.series, mem_goldSourceSeries _, Option.isSome_iff_ne_none.mpr hsome⟩
      rw [hrow] at hexists
      cases hexists
    rw [hnone]
    rfl

/-! ## From Bronze to Silver -/

/-- What a row of Bronze has for a column: of a bar the close is the level. -/
def BronzeRow.cell (r : BronzeRow) : GoldColumn → Option Float64
  | .level s => if s.nativeShape = .ohlc then r.bar .close else r.value
  | .bar _ _ f => r.bar f

theorem BronzeRow.cell_level_ohlc (r : BronzeRow) {s : Series} (h : s.nativeShape = .ohlc) :
    r.cell (.level s) = r.bar .close := if_pos h

theorem BronzeRow.cell_level_scalar (r : BronzeRow) {s : Series} (h : s.nativeShape = .scalar) :
    r.cell (.level s) = r.value := if_neg (by rw [h]; simp)

/-- What rows of Bronze have for a column at an instant. -/
def bronzeCellAt (rows : List BronzeRow) (t : Timestamp) (c : GoldColumn) : Option Float64 :=
  (rows.find? (fun r => instantOfDate r.observationDate == t)).bind (fun r => r.cell c)

/-- Values that a data frame takes for equal have the same canonical form. -/
theorem canonicalCell_of_eqMissing {a b : Option Float64} {x : Float64} (ha : a = some x)
    (hx : x.isFinite = true) (h : Float64.eqMissing a b = true) :
    canonicalCell (b.filter (fun x => !x.isNaN)) = canonicalCell a := by
  subst ha
  cases b with
  | none => cases h
  | some y =>
    have hnan := Float64.not_isNaN_of_isFinite hx
    simp only [Float64.eqMissing, hnan, Bool.false_and, Bool.or_false, Bool.or_eq_true,
      Bool.and_eq_true, beq_iff_eq] at h
    rcases h with rfl | ⟨hzx, hzy⟩
    · rw [Option.filter_some, if_pos (by rw [hnan]; rfl)]
    · have hy := Float64.isFinite_of_isZero hzy
      rw [Option.filter_some, if_pos (by rw [Float64.not_isNaN_of_isFinite hy]; rfl)]
      simp only [canonicalCell, canonicalFloat, if_pos hx, if_pos hy, if_pos hzx, if_pos hzy]

section Silver

variable {s : Series} {bronze : BronzeFrame} {candidate frame : CanonicalFrame}

/-- What a row of Bronze has for the columns of its series is finite, if it has been
canonicalized. -/
theorem finite_cell_of_canonicalizeSilver
    (h : canonicalizeSilver s.contract bronze = .ok candidate) {r : BronzeRow}
    (hr : r ∈ bronze.rows) {c : GoldColumn} (hc : c.series = s) :
    ∃ x, r.cell c = some x ∧ x.isFinite = true := by
  have hfinite : ∀ {column : String} {get : BronzeRow → Option Float64},
      finiteNonNull bronze column get = .ok () → ∃ x, get r = some x ∧ x.isFinite = true := by
    intro column get hcolumn
    obtain ⟨_, -, hcolumn⟩ := bind_eq_ok.mp hcolumn
    obtain ⟨_, hsome, hall⟩ := bind_eq_ok.mp hcolumn
    obtain ⟨x, hx⟩ := Option.isSome_iff_exists.mp (check_eq_ok.mp hsome r hr)
    refine ⟨x, hx, ?_⟩
    have := check_eq_ok.mp hall r hr
    rwa [hx, Option.all_some] at this
  unfold canonicalizeSilver at h
  split_ifs at h with hempty
  · rw [Frame.isEmpty_iff.mp hempty.1] at hr
    cases hr
  · obtain ⟨_, -, h⟩ := bind_eq_ok.mp h
    obtain ⟨_, hpayload, -⟩ := bind_eq_ok.mp h
    unfold assertPayload at hpayload
    rw [Series.contract_nativeShape] at hpayload
    subst hc
    cases hshape : c.series.nativeShape with
    | ohlc =>
      rw [hshape] at hpayload
      have hbar : ∀ f, ∃ x, r.bar f = some x ∧ x.isFinite = true := fun f =>
        hfinite (forM_eq_ok.mp hpayload f (mem_ohlcFields f))
      cases c with
      | level s => exact (r.cell_level_ohlc hshape).symm ▸ hbar .close
      | bar s _ f => exact hbar f
    | scalar =>
      rw [hshape] at hpayload
      cases c with
      | level s => exact (r.cell_level_scalar hshape).symm ▸ hfinite hpayload
      | bar s hohlc f =>
        rw [show s.nativeShape = .scalar from hshape] at hohlc
        cases hohlc

/-- A canonical row has the cells of the row of Bronze that it comes from. -/
theorem eqMissing_cell {r : BronzeRow} {kept : CanonicalRow} {row : SilverRow}
    (h : (silverRow s.contract r).samePayload kept = true) (hvalue : row.value = kept.value)
    (hbar : row.bar = kept.bar) {c : GoldColumn} (hc : c.series = s) :
    Float64.eqMissing (r.cell c) (seriesCells s row c) = true := by
  simp only [CanonicalRow.samePayload, Bool.and_eq_true, List.all_eq_true] at h
  obtain ⟨⟨⟨⟨⟨hv, hb⟩, -⟩, -⟩, -⟩, -⟩ := h
  subst hc
  cases c with
  | level s =>
    have hcell : seriesCells s row (.level s) = row.value := if_pos rfl
    have hlevel : r.cell (.level s) = (silverRow s.contract r).value := by
      unfold silverRow
      rw [Series.contract_nativeShape]
      cases hshape : s.nativeShape with
      | ohlc => exact r.cell_level_ohlc hshape
      | scalar => exact r.cell_level_scalar hshape
    show Float64.eqMissing _ (seriesCells s row (.level s)) = true
    rw [hcell, hvalue, hlevel]
    exact hv
  | bar s hshape f =>
    have hcell : seriesCells s row (.bar s hshape f) = row.bar f := if_pos rfl
    have hfield : r.bar f = (silverRow s.contract r).bar f := by
      unfold silverRow
      rw [Series.contract_nativeShape, hshape]
    show Float64.eqMissing (r.bar f) (seriesCells s row (.bar s hshape f)) = true
    rw [hcell, hbar, hfield]
    exact hb f (mem_ohlcFields f)

/-- **Silver that is current has the cells of Bronze.** -/
theorem IsCurrentSilver.canonicalCell_eq {repository : SilverRepository} {files : MonthFiles}
    (h : IsCurrentSilver repository s.contract bronze files) (hread : repository.read files = .ok frame)
    (hjoinable : IsJoinable s (silverFrame frame)) (t : Timestamp) {c : GoldColumn}
    (hc : c.series = s) :
    canonicalCell (((silverRowAt (silverFrame frame) t).bind (fun r => seriesCells s r c)).filter
      (fun x => !x.isNaN)) = canonicalCell (bronzeCellAt bronze.rows t c) := by
  obtain ⟨candidate, merged, hcanonical, hholds, hagrees⟩ := h
  obtain rfl : merged = frame := Except.ok.inj (hholds.read_eq.symm.trans hread)
  rw [silverRowAt, bronzeCellAt]
  cases hfind : bronze.rows.find? (fun r => instantOfDate r.observationDate == t) with
  | none =>
    have hnone : (silverFrame merged).rows.find?
        (fun r => r.observationDate.map instantOfDate == some t) = none := by
      refine List.find?_eq_none.mpr (fun row hrow => ?_)
      obtain ⟨kept, hkept, rfl⟩ := List.mem_map.mp hrow
      obtain ⟨r, hr, hkey⟩ := hholds.keys kept hkept
      have hdate : r.observationDate = kept.observationDate :=
        congrArg (fun k : String ×ₗ Date => (ofLex k).2) hkey
      have hne := List.find?_eq_none.mp hfind r hr
      rw [hdate] at hne
      simpa using hne
    rw [hnone]
    rfl
  | some r =>
    have hr := List.mem_of_find?_eq_some hfind
    have hinstant : instantOfDate r.observationDate = t := by simpa using List.find?_some hfind
    obtain ⟨kept, hkept, hkey, hpayload⟩ := hagrees.rows _
      (((isCanonical_of_ok hcanonical).mem _).mpr ⟨r, hr, rfl⟩)
    have hdate : kept.observationDate = r.observationDate :=
      congrArg (fun k : String ×ₗ Date => (ofLex k).2) hkey
    -- the dates are distinct, so that there is no other row at the instant
    obtain ⟨row, hrow⟩ : ∃ row, (silverFrame merged).rows.find?
        (fun r => r.observationDate.map instantOfDate == some t) = some row := by
      refine Option.isSome_iff_exists.mp (List.find?_isSome.mpr
        ⟨_, List.mem_map.mpr ⟨kept, hkept, rfl⟩, ?_⟩)
      simp [hdate, hinstant]
    have hunique : (merged.rows.map (fun r => some r.observationDate)).Nodup := by
      have h := hjoinable.unique
      rw [silverFrame, List.map_map] at h
      exact h
    obtain ⟨kept', hkept', rfl⟩ := List.mem_map.mp (List.mem_of_find?_eq_some hrow)
    have hat : instantOfDate kept'.observationDate = t := by simpa using List.find?_some hrow
    obtain rfl : kept' = kept := by
      refine List.inj_on_of_nodup_map hunique hkept' hkept ?_
      show some kept'.observationDate = some kept.observationDate
      rw [hdate, instantOfDate_injective (hat.trans hinstant.symm)]
    obtain ⟨x, hx, hfinite⟩ := finite_cell_of_canonicalizeSilver hcanonical hr hc
    rw [hrow]
    exact canonicalCell_of_eqMissing hx hfinite (eqMissing_cell hpayload rfl rfl hc)

end Silver

/-! ## The job -/

/-- What a daily job is given from outside. -/
structure JobInputs where
  command : CommandInputs
  today : Date
  sync : SyncInputs

/-- **The daily job**, once it may run: the pipeline on all series, and then, if that has
returned, the synchronization. -/
def dailyJob (pipeline : DailyMedallionPipeline) (pool : Pool) (inputs : JobInputs) :
    Program Loader PyError GoldSyncResult := do
  let _ ← onPart Loader.lakePart (pipeline.runDaily pool inputs.command [] inputs.today)
  goldSyncPostgres pipeline.goldFormats inputs.sync

section Job

variable {pipeline : DailyMedallionPipeline} {pool : Pool} {inputs : JobInputs} {s s' : Loader}

/-- What is assembled is what the series have that are read of Silver. -/
theorem CanonicalGold.silver {lake : MedallionLake} {gold : GoldFrameBuild}
    (h : CanonicalGold pipeline lake gold) : ∃ silver : Series → SilverFrame,
      HoldsAt gold.frame.rows (assembledAt silver goldSourceSeries)
      ∧ gold.frame.rows.Pairwise Before ∧ ∀ s, IsJoinable s (silver s) ∧ ∃ frame,
        pipeline.silver.read (lake.silver s.id) = .ok frame ∧ silver s = silverFrame frame := by
  obtain ⟨frames, hframes, -, hassembled⟩ := h
  have hfound := fun s => isJoinable_of_ok hassembled s
  choose silver hsilver hjoinable using hfound
  have hall : DailyMedallionPipeline.silverBySeries pipeline.seriesRegistry.contracts frames
      = fun s => some (silver s) := funext hsilver
  rw [hall] at hassembled
  obtain ⟨-, hholds, hsorted⟩ := holdsAt_of_ok hassembled
  refine ⟨silver, hholds, hsorted, fun s => ⟨hjoinable s, ?_⟩⟩
  obtain ⟨entry, hentry, hframe⟩ := Option.map_eq_some_iff.mp (hsilver s)
  have hread := (List.forall₂_iff_zip.mp hframes).2 (List.mem_of_find?_eq_some hentry)
  have hid : entry.1.seriesId = s.id := by simpa using List.find?_some hentry
  exact ⟨entry.2, hid ▸ hread, hframe.symm⟩

/-- **The database shows what Bronze has for a series**, in every column of the series and at
every instant. -/
def ShowsBronze (pipeline : DailyMedallionPipeline) (s : Loader) (series : Series) : Prop :=
  ∃ bronze, pipeline.uow.readBronze s.lake.bronze series.contract.key = .ok bronze
    ∧ ∀ t c, c.series = series → canonicalCell (s.session.replica.raw.cell t c)
      = canonicalCell (bronzeCellAt bronze.rows t c)

/-- **A database that holds the current build shows Bronze**, where Silver is current. -/
theorem HoldsGold.showsBronze {record : GoldCatalogRecord} {gold : GoldFrameBuild}
    (h : HoldsGold pipeline.goldFormats s.session.replica record gold)
    (hgold : CanonicalGold pipeline s.lake gold)
    (hsha : ∀ source, sourceRowsAndDigests pipeline.goldFormats.sha256 gold.frame = .ok source →
      Set.InjOn pipeline.goldFormats.sha256
        (framings (consumerRows s.session.replica.raw) ∪ framings (source.map Prod.fst)))
    {series : Series} (hcurrent : SilverCurrent pipeline s.lake series.contract) :
    ShowsBronze pipeline s series := by
  obtain ⟨source, now, hrows, hholds⟩ := h
  obtain ⟨silver, hassembled, -, hsilver⟩ := hgold.silver
  obtain ⟨bronze, hbronze, hcurrent⟩ := hcurrent
  obtain ⟨hjoinable, frame, hread, hframe⟩ := hsilver series
  refine ⟨bronze, hbronze, fun t c hc => ?_⟩
  calc canonicalCell (s.session.replica.raw.cell t c)
      = canonicalCell ((assembledAt silver goldSourceSeries t).bind (fun row => row c)) :=
        hholds.canonicalCell_eq hrows hassembled (hsha source hrows) t c
    _ = canonicalCell (((silverRowAt (silver c.series) t).bind
          (fun r => seriesCells c.series r c)).filter (fun x => !x.isNaN)) := by
        rw [cell_assembledAt hassembled]
    _ = canonicalCell (bronzeCellAt bronze.rows t c) := by
        rw [hc, hframe]
        exact hcurrent.canonicalCell_eq hread (hframe ▸ hjoinable) t hc

/-- **A daily job is done**: the daily run is, the database holds the build that this has
published, and, if the hash tells the rows apart, it shows Bronze. -/
structure JobDone (pipeline : DailyMedallionPipeline) (inputs : JobInputs) (s s' : Loader)
    (result : GoldSyncResult) : Prop where
  daily : ∃ selected ran, pipeline.resolveSeries [] = .ok selected
    ∧ DailyDone pipeline inputs.command selected inputs.today s.lake s'.lake ran
    ∧ ran.goldBuildId = some result.sourceBuildId
  stored : ∃ record gold, result.sourceBuildId = record.buildId
    ∧ CanonicalGold pipeline s'.lake gold
    ∧ HoldsGold pipeline.goldFormats s'.session.replica record gold
    ∧ ((∀ source, sourceRowsAndDigests pipeline.goldFormats.sha256 gold.frame = .ok source →
        Set.InjOn pipeline.goldFormats.sha256
          (framings (consumerRows s'.session.replica.raw) ∪ framings (source.map Prod.fst))) →
      ∀ series : Series, series.contract ∈ pipeline.seriesRegistry.contracts →
        ShowsBronze pipeline s' series)

/-- A daily job that is done has brought a build. -/
theorem JobDone.ne_emptyReplica {result : GoldSyncResult}
    (h : JobDone pipeline inputs s s' result) : s'.session.replica ≠ emptyReplica := by
  obtain ⟨record, gold, -, -, hholds, -⟩ := h.stored
  exact hholds.ne_emptyReplica

/-- No series named stands for all series. -/
theorem resolveSeries_nil {selected : List String}
    (h : pipeline.resolveSeries [] = .ok selected) : selected = pipeline.seriesRegistry.ids := by
  unfold DailyMedallionPipeline.resolveSeries at h
  simp only [bind_eq_ok, check_eq_ok, exists_const] at h
  exact (Except.ok.inj h.2.2).symm

/-- **The synchronization after a daily run** finds the build that the run has published. -/
theorem DailyDone.jobDone {selected : List String} {ran : PipelineCommandResult}
    {lake : MedallionLake} {result : GoldSyncResult} {record : GoldCatalogRecord} {bytes : Bytes}
    {source : KeyedTable Timestamp (WideRow Float64 × Sha256Hex)}
    (hframe : pipeline.goldFormats.KeepsAssembled pipeline.writeCsv)
    (hselected : pipeline.resolveSeries [] = .ok selected)
    (hwf : WellFormedCatalog lake.gold.lake.records)
    (hdone : DailyDone pipeline inputs.command selected inputs.today s.lake lake ran)
    (hlake : s'.lake = lake)
    (hcurrent : CurrentBuild pipeline.goldFormats.sha256 (readFrame pipeline.goldFormats)
      (inputs.sync.env pipeline.goldFormats lake.gold.lake) record bytes source)
    (hresult : result.sourceBuildId = record.buildId)
    (hholds : HoldsBuild pipeline.goldFormats.sha256 s'.session.replica source
      (buildState pipeline.goldFormats.sha256 record bytes source inputs.sync.now)) :
    JobDone pipeline inputs s s' result := by
  obtain ⟨published, hid, gold, hcanonical, hpublished⟩ := hdone.gold
  -- there is one current build
  obtain ⟨records, hcatalog, hread⟩ := hcurrent.selected
  obtain ⟨hmem, hc⟩ := current_of_selected hread
  obtain rfl : record = published := hwf.eq_of_current
    ((show records = lake.gold.lake.records from (readCatalog_eq_ok hcatalog).1) ▸ hmem)
    hpublished.1 hc hpublished.2.1
  obtain ⟨frames, hframes, hempty, hassembled⟩ := hcanonical
  obtain ⟨rfl, hrows⟩ := hpublished.currentBuild rfl (hframe _ _ hassembled) rfl hcurrent
  have hgold : CanonicalGold pipeline s'.lake gold := hlake ▸ ⟨frames, hframes, hempty, hassembled⟩
  have hstored : HoldsGold pipeline.goldFormats s'.session.replica record gold :=
    ⟨source, inputs.sync.now, hrows, hholds⟩
  refine ⟨⟨selected, ran, hselected, hlake ▸ hdone, hid.trans (congrArg some hresult.symm)⟩,
    record, gold, hresult, hgold, hstored, fun hsha series hseries => ?_⟩
  refine hstored.showsBronze hgold hsha ?_
  rw [hlake]
  refine hdone.silver _ hseries ?_
  rw [resolveSeries_nil hselected]
  exact List.mem_map_of_mem hseries

end Job
