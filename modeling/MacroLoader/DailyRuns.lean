import MacroLoader.MedallionRuns

/-!
# Daily runs

A daily run recovers Gold, updates Bronze, builds Silver, publishes what it assembles of all
Silver, and closes with retention and the inventory. It stops at the first stage that fails,
and the stages before it have then done their work and the ones after it nothing: so whatever
fails, the lake is in order, and readers of Gold find the build that they found before or one
that was assembled of the Silver that is there. Where the run returns, every layer agrees with
the one before it (`wp_runDaily`).

The current build of any lake that the commands can reach was published by one of them, of the
Silver that there was at that moment (`hasOrigin_of_current`).
-/

open Program

/-! ## The end of a daily run -/

/-- **The inventory says what Bronze holds**, series by series. -/
def InventorySays (pipeline : DailyMedallionPipeline) (s : MedallionLake) : Prop :=
  ∃ records, pipeline.inventoryService.readInventory s.inventory
      = .ok (KeyedRows.sortRows (·.seriesId) records)
    ∧ List.Forall₂ (fun contract record => ∃ frame,
      StoreInvariant pipeline.bronze contract s.bronze frame ∧ IsOfSeries contract frame
        ∧ record = coverage contract frame (s.bronze.months contract.key).rows.length)
      pipeline.seriesRegistry.contracts records

section Stages

variable {pipeline : DailyMedallionPipeline} {pool : Pool} {inputs : CommandInputs}
  {runId command : String} {selected : List String} {seriesIds : List String} {today : Date}
  {operation : OperationMode} {s s' : MedallionLake}

/-- **What a refresh has read of an ordered lake is what Bronze holds.** -/
theorem MedallionInvariant.inventorySays {records : List InventoryRecord}
    (h : MedallionInvariant pipeline s) (honly : OnlyInventory s s')
    (hreads : pipeline.inventoryService.Reads s records)
    (hfile : pipeline.inventoryService.readInventory s'.inventory
      = .ok (KeyedRows.sortRows (·.seriesId) records)) : InventorySays pipeline s' := by
  have hbronze : s'.bronze = s.bronze := by
    rw [honly]
  refine ⟨records, hfile, ?_⟩
  rw [hbronze]
  have hall : List.Forall₂ (fun contract record =>
      contract ∈ pipeline.seriesRegistry.contracts
        ∧ pipeline.inventoryService.record contract (s.bronze.months contract.key) = .ok record)
      pipeline.seriesRegistry.contracts records :=
    (List.forall₂_and_left _ _).mpr ⟨fun _ h => h, hreads⟩
  refine hall.imp (fun contract record ⟨hmem, hrecord⟩ => ?_)
  obtain ⟨frame, -, hstored, -⟩ := h.series contract hmem
  exact ⟨frame, hstored, hstored.inventoryRecord.mp hrecord⟩

/-- **The end of a daily run**: retention, and the inventory. -/
theorem wp_closeDaily (h : MedallionInvariant pipeline s)
    (hviews : RootViewsMatch pipeline.goldFormats s.gold.lake) :
    wp (pipeline.closeDaily inputs) (Post.keeping (KeepsLayers s) (fun _ s' =>
      InventorySays pipeline s' ∧ RootViewsMatch pipeline.goldFormats s'.gold.lake)) s := by
  have hsend : ∀ {s' s''}, KeepsLayers s s' → SameFiles s' s'' → KeepsLayers s s'' :=
    fun hs' hsame => IsTrans.trans _ _ _ hs' hsame.keepsLayers
  refine wp_bind_keeping (P := fun _ s' => KeepsLayers s s'
      ∧ RootViewsMatch pipeline.goldFormats s'.gold.lake)
    (wp_onPart _ (wp_mono (GoldProgram.wp_retain_views pipeline.goldFormats
      pipeline.retentionPolicy inputs.retentionClock hviews) ?_ ?_ ?_)) ?_
  · exact fun _ lake hs => ⟨⟨rfl, rfl, hs.1.1, hs.1.2⟩, ⟨rfl, rfl, hs.1.1, hs.1.2⟩, hs.2⟩
  · exact fun _ lake hs => ⟨rfl, rfl, hs.1, hs.2⟩
  · exact fun lake hs => ⟨rfl, rfl, hs.1, hs.2⟩
  · rintro retention s₁ h₁ ⟨-, hviews₁⟩
    refine wp_bind_event (fun _ hsame => hsend h₁ hsame) (fun s₂ h₂ => ?_)
    have hkeeps₂ := hsend h₁ h₂
    have hchain : ∀ s', OnlyInventory s₂ s' → KeepsLayers s s' := fun s' honly =>
      IsTrans.trans _ _ _ hkeeps₂ honly.keepsLayers
    refine wp_bind_keeping (P := fun _ s' => InventorySays pipeline s' ∧ s'.gold = s₂.gold)
      (wp_mono (InventoryRefreshService.wp_refresh pipeline.inventoryService s₂) ?_
        (fun _ s' honly => hchain s' honly) (fun s' honly => hchain s' honly)) ?_
    · rintro records s' ⟨honly, hreads, hfile⟩
      refine ⟨hchain s' honly, (h.keeps hkeeps₂).inventorySays honly hreads hfile, ?_⟩
      rw [honly]
    · rintro _ s₃ h₃ ⟨hrecorded, hgold⟩
      refine wp_bind_event (fun _ hsame => hsend h₃ hsame) (fun s₄ h₄ => ?_)
      refine wp_pure_keeping (hsend h₃ h₄) ⟨?_, ?_⟩
      · unfold InventorySays
        rw [h₄.bronze, h₄.inventory]
        exact hrecorded
      · rw [h₄.gold, hgold, h₂.gold]
        exact hviews₁

/-- **A daily run is done**: every layer agrees with the one before it. -/
structure DailyDone (pipeline : DailyMedallionPipeline) (inputs : CommandInputs)
    (selected : List String) (today : Date) (s s' : MedallionLake)
    (result : PipelineCommandResult) : Prop where
  selected_eq : result.selectedSeries = selected
  bronze : ∃ batch, result.bronze = some batch ∧ batch.failures = []
    ∧ BronzeUpdated pipeline selected .update today s.bronze batch s'.bronze
  silver : ∀ contract ∈ pipeline.seriesRegistry.contracts, contract.seriesId ∈ selected →
    SilverCurrent pipeline s' contract
  gold : ∃ record, result.goldBuildId = some record.buildId ∧ GoldIsOf pipeline inputs s' record
  views : RootViewsMatch pipeline.goldFormats s'.gold.lake
  inventory : InventorySays pipeline s'

/-! ## The commands -/

/-- The handler of a command keeps what no event touches. -/
theorem wp_command {α : Type} {I : MedallionLake → Prop} {Q : α → MedallionLake → Prop}
    {m : LakeProgram α} (hI : ∀ s' s'', I s' → SameFiles s' s'' → I s'')
    (h : wp m (Post.keeping I Q) s) :
    wp (DailyMedallionPipeline.orFail runId command m) (Post.keeping I Q) s :=
  wp_tryCatch_keeping h (fun _ s' hs' => wp_bind_event (fun s'' hsame => hI s' s'' hs' hsame)
    (fun s'' hsame => wp_throw_keeping (hI s' s'' hs' hsame)))

theorem PublishKeeps.refl (h : MedallionInvariant pipeline s) : PublishKeeps pipeline inputs s s :=
  ⟨h, .inl (Std.Refl.refl _)⟩

theorem PublishKeeps.send {s'' : MedallionLake} (h : PublishKeeps pipeline inputs s s')
    (hsame : SameFiles s' s'') : PublishKeeps pipeline inputs s s'' := h.keeps hsame.keepsLayers

/-- What leaves Gold alone keeps its current build. -/
theorem PublishKeeps.of_gold_eq (h : MedallionInvariant pipeline s') (hgold : s'.gold = s.gold) :
    PublishKeeps pipeline inputs s s' :=
  ⟨h, .inl (hgold ▸ Std.Refl.refl _)⟩

/-- A command up to its first stage. -/
theorem wp_bind_start {R : PipelineCommandResult → MedallionLake → Prop}
    {k : Unit → LakeProgram PipelineCommandResult} (h : MedallionInvariant pipeline s)
    (hk : ∀ s', SameFiles s s' → wp (k ()) (Post.keeping (PublishKeeps pipeline inputs s) R) s') :
    wp (DailyMedallionPipeline.start runId command selected >>= k)
      (Post.keeping (PublishKeeps pipeline inputs s) R) s :=
  wp_bind_event (fun _ hsame => (PublishKeeps.refl h).send hsame) hk

/-- **A daily run.** -/
theorem wp_runDaily (hserves : pool.Serves pipeline) (h : MedallionInvariant pipeline s) :
    wp (pipeline.runDaily pool inputs seriesIds today) (Post.keeping
      (PublishKeeps pipeline inputs s) (fun result s' =>
        ∃ selected, pipeline.resolveSeries seriesIds = .ok selected
          ∧ DailyDone pipeline inputs selected today s s' result)) s := by
  have hstay : PublishKeeps pipeline inputs s s := .refl h
  refine wp_bind_ofExcept hstay (fun selected hselected => wp_bind_start h (fun s₀ h₀ => ?_))
  obtain ⟨hdistinct, hregistered⟩ := resolveSeries_eq_ok hselected
  refine wp_command (fun s' s'' hs' hsame => hs'.send hsame) ?_
  -- Gold is recovered
  refine wp_bind_keeping (P := fun _ s' => KeepsLayers s₀ s')
    ((moves_recover pipeline inputs "run-daily").keeping
      (fun s' hs' => (hstay.send h₀).keeps hs') (fun _ _ hs' => hs')) (fun _ s₁ h₁ hkeeps₁ => ?_)
  have hgold₁ : KeepsCurrent s.gold s₁.gold := h₀.gold ▸ hkeeps₁.current
  have hbronze₁ : s₁.bronze = s.bronze := hkeeps₁.bronze.trans h₀.bronze
  have hother : ∀ s', MedallionInvariant pipeline s' → s'.gold = s₁.gold →
      PublishKeeps pipeline inputs s s' := fun s' hs' hgold => ⟨hs', .inl (hgold.symm ▸ hgold₁)⟩
  -- Bronze is updated
  refine wp_bind_keeping (P := fun batch s' => MedallionInvariant pipeline s' ∧ s'.gold = s₁.gold
      ∧ batch.failures = [] ∧ BronzeUpdated pipeline selected .update today s.bronze batch s'.bronze)
    (wp_mono (wp_updateBronze hserves h₁.invariant)
      (fun batch s' hs' => ⟨hother s' hs'.1.1 hs'.1.2.gold, hs'.1.1, hs'.1.2.gold, hs'.2.1,
        hbronze₁ ▸ hs'.2.2⟩)
      (fun _ s' hs' => hother s' hs'.1 hs'.2.gold) (fun s' hs' => hother s' hs'.1 hs'.2.gold)) ?_
  rintro batch s₂ - ⟨hinvariant₂, hgold₂, hnone, hupdated⟩
  -- Silver is built
  refine wp_bind_keeping (P := fun _ s' => MedallionInvariant pipeline s' ∧ s'.gold = s₁.gold
      ∧ s'.bronze = s₂.bronze ∧ ∀ contract ∈ pipeline.seriesRegistry.contracts,
        contract.seriesId ∈ selected → SilverCurrent pipeline s' contract)
    (wp_mono (wp_buildSelectedSilver hserves hinvariant₂ hdistinct)
      (fun _ s' hs' => ⟨hother s' hs'.1.1 (hs'.1.2.gold.trans hgold₂), hs'.1.1,
        hs'.1.2.gold.trans hgold₂, hs'.1.2.bronze, hs'.2⟩)
      (fun _ s' hs' => hother s' hs'.1 (hs'.2.gold.trans hgold₂))
      (fun s' hs' => hother s' hs'.1 (hs'.2.gold.trans hgold₂))) ?_
  rintro _ s₃ - ⟨hinvariant₃, hgold₃, hbronze₃, hsilver⟩
  -- the canonical frame is assembled, and published
  have hsame₃ : ∀ s', SameFiles s₃ s' → PublishKeeps pipeline inputs s s' := fun s' hsame =>
    (hother s₃ hinvariant₃ hgold₃).send hsame
  refine wp_bind_keeping (P := fun gold s' => SameFiles s₃ s' ∧ CanonicalGold pipeline s' gold)
    (wp_mono (wp_canonicalGold pipeline inputs.runId "run-daily" s₃)
      (fun _ s' hs' => ⟨hsame₃ s' hs'.1, hs'⟩) (fun _ s' hs' => hsame₃ s' hs')
      (fun s' hs' => hsame₃ s' hs')) ?_
  rintro gold s₄ h₄ ⟨hsame₄, hcanonical⟩
  have hcurrent₄ : KeepsCurrent s.gold s₄.gold := by
    rw [hsame₄.gold, hgold₃]
    exact hgold₁
  refine wp_bind_keeping (P := fun record s' => s'.bronze = s₄.bronze ∧ s'.silver = s₄.silver
      ∧ GoldIsOf pipeline inputs s' record ∧ RootViewsMatch pipeline.goldFormats s'.gold.lake)
    (wp_mono (wp_publishGold h₄.invariant hcurrent₄ hcanonical)
      (fun _ s' hs' => ⟨hs'.1.1, hs'.1.2.1, hs'.1.2.2, hs'.2⟩) (fun _ _ hs' => hs'.1)
      (fun _ hs' => hs'.1)) ?_
  rintro record s₅ h₅ ⟨hbronze₅, hsilver₅, hrecord, hviews₅⟩
  -- retention, and the inventory
  refine wp_bind_keeping (P := fun _ s' => KeepsLayers s₅ s' ∧ InventorySays pipeline s'
      ∧ RootViewsMatch pipeline.goldFormats s'.gold.lake)
    (wp_mono (wp_closeDaily h₅.invariant hviews₅)
      (fun _ s' hs' => ⟨h₅.keeps hs'.1, hs'⟩) (fun _ _ hs' => h₅.keeps hs')
      (fun _ hs' => h₅.keeps hs')) ?_
  rintro retention s₆ h₆ ⟨hkeeps₆, hrecorded, hviews⟩
  refine wp_bind_event (fun s' hsame => h₆.send hsame) (fun s₇ h₇ => ?_)
  have hbronze₇ : s₇.bronze = s₂.bronze := by
    rw [h₇.bronze, hkeeps₆.bronze, hbronze₅, hsame₄.bronze, hbronze₃]
  have hsilver₇ : s₇.silver = s₃.silver := by
    rw [h₇.silver, hkeeps₆.silver, hsilver₅, hsame₄.silver]
  refine wp_pure_keeping (h₆.send h₇) ⟨selected, hselected, rfl, ⟨batch, rfl, hnone, ?_⟩,
    fun contract hmem hid => ?_, ⟨record, rfl, hrecord.keeps (IsTrans.trans _ _ _ hkeeps₆
      h₇.keepsLayers)⟩, h₇.gold.symm ▸ hviews, ?_⟩
  · rw [hbronze₇]
    exact hupdated
  · obtain ⟨bronze, hread, hbuilt⟩ := hsilver contract hmem hid
    exact ⟨bronze, by rw [hbronze₇, ← hbronze₃, hread], by rw [hsilver₇]; exact hbuilt⟩
  · unfold InventorySays
    rw [h₇.bronze, h₇.inventory]
    exact hrecorded

/-! ### The other commands -/

/-- **A command of the source layer** returns if all its runs have succeeded. -/
theorem wp_sourceCommand (hserves : pool.Serves pipeline) (h : MedallionInvariant pipeline s) :
    wp (pipeline.sourceCommand pool inputs command seriesIds operation today) (Post.keeping
      (PublishKeeps pipeline inputs s) (fun result s' =>
        ∃ selected batch, pipeline.resolveSeries seriesIds = .ok selected
          ∧ result.bronze = some batch
          ∧ BronzeUpdated pipeline selected operation today s.bronze batch s'.bronze)) s := by
  refine wp_bind_ofExcept (.refl h) (fun selected hselected => wp_bind_start h (fun s₀ h₀ => ?_))
  refine wp_command (fun s' s'' hs' hsame => hs'.send hsame) ?_
  have hkeeps : ∀ s', MedallionInvariant pipeline s' ∧ OnlyBronze s₀ s' →
      PublishKeeps pipeline inputs s s' := fun s' hs' =>
    .of_gold_eq hs'.1 (hs'.2.gold.trans h₀.gold)
  refine wp_bind_keeping (P := fun batch s' => RunManyEnds pipeline.bronze selected operation today
      s.bronze (.returned batch) s'.bronze)
    (wp_mono (wp_runMany hserves (h.keeps h₀.keepsLayers)) ?_ (fun _ s' hs' => hkeeps s' hs')
      (fun s' hs' => hkeeps s' hs')) ?_
  · exact fun batch s' hs' => ⟨hkeeps s' hs'.1, h₀.bronze ▸ hs'.2⟩
  · intro batch s₁ h₁ hend
    refine wp_bind_keeping (P := fun _ s' => s'.bronze = s₁.bronze)
      ((moves_logBronzeResults _ _ batch).keeping (fun _ hsame => h₁.send hsame)
        (fun _ _ hsame => hsame.bronze)) (fun _ s₂ h₂ hbronze₂ => ?_)
    refine wp_bind_require h₂ (fun hnone => wp_bind_event (fun _ hsame => h₂.send hsame)
      (fun s₃ h₃ => wp_pure_keeping (h₂.send h₃) ⟨selected, batch, hselected, rfl, ?_⟩))
    rw [h₃.bronze, hbronze₂]
    exact hend.updated hnone

/-- **A build of Silver.** -/
theorem wp_silverBuild (hserves : pool.Serves pipeline) (h : MedallionInvariant pipeline s) :
    wp (pipeline.silverBuild pool inputs seriesIds) (Post.keeping
      (PublishKeeps pipeline inputs s) (fun _ s' =>
        ∃ selected, pipeline.resolveSeries seriesIds = .ok selected
          ∧ ∀ contract ∈ pipeline.seriesRegistry.contracts, contract.seriesId ∈ selected →
            SilverCurrent pipeline s' contract)) s := by
  refine wp_bind_ofExcept (.refl h) (fun selected hselected => wp_bind_start h (fun s₀ h₀ => ?_))
  refine wp_command (fun s' s'' hs' hsame => hs'.send hsame) ?_
  have hkeeps : ∀ s', MedallionInvariant pipeline s' ∧ OnlySilverLayer s₀ s' →
      PublishKeeps pipeline inputs s s' := fun s' hs' =>
    .of_gold_eq hs'.1 (hs'.2.gold.trans h₀.gold)
  refine wp_bind_keeping (P := fun _ s' => ∀ contract ∈ pipeline.seriesRegistry.contracts,
      contract.seriesId ∈ selected → SilverCurrent pipeline s' contract)
    (wp_mono (wp_buildSelectedSilver hserves (h.keeps h₀.keepsLayers)
      (resolveSeries_eq_ok hselected).1) (fun _ s' hs' => ⟨hkeeps s' hs'.1, hs'.2⟩)
      (fun _ s' hs' => hkeeps s' hs') (fun s' hs' => hkeeps s' hs')) (fun _ s₁ h₁ hsilver => ?_)
  refine wp_bind_event (fun _ hsame => h₁.send hsame) (fun s₂ h₂ =>
    wp_pure_keeping (h₁.send h₂) ⟨selected, hselected, fun contract hmem hid => ?_⟩)
  obtain ⟨bronze, hread, hbuilt⟩ := hsilver contract hmem hid
  exact ⟨bronze, h₂.bronze.symm ▸ hread, h₂.silver.symm ▸ hbuilt⟩

/-- **A build of Gold**, which is made of the Silver that is there. -/
theorem wp_goldBuild (h : MedallionInvariant pipeline s) :
    wp (pipeline.goldBuild inputs) (Post.keeping (PublishKeeps pipeline inputs s)
      (fun result s' => s'.bronze = s.bronze ∧ s'.silver = s.silver
        ∧ RootViewsMatch pipeline.goldFormats s'.gold.lake
        ∧ ∃ record, result.goldBuildId = some record.buildId
          ∧ GoldIsOf pipeline inputs s' record)) s := by
  have hstay : PublishKeeps pipeline inputs s s := .refl h
  refine wp_bind_start h (fun s₀ h₀ => wp_command (fun s' s'' hs' hsame => hs'.send hsame) ?_)
  refine wp_bind_keeping (P := fun _ s' => KeepsLayers s₀ s')
    ((moves_recover pipeline inputs "gold-build").keeping
      (fun s' hs' => (hstay.send h₀).keeps hs') (fun _ _ hs' => hs')) (fun _ s₁ h₁ hkeeps₁ => ?_)
  have hsame₁ : s₁.bronze = s.bronze ∧ s₁.silver = s.silver :=
    ⟨hkeeps₁.bronze.trans h₀.bronze, hkeeps₁.silver.trans h₀.silver⟩
  refine wp_bind_keeping (P := fun gold s' => KeepsCurrent s.gold s'.gold
      ∧ (s'.bronze = s.bronze ∧ s'.silver = s.silver) ∧ CanonicalGold pipeline s' gold)
    (wp_mono (wp_canonicalGold pipeline inputs.runId "gold-build" s₁)
      (fun _ s' hs' => ⟨h₁.send hs'.1, hs'.1.gold.symm ▸ h₀.gold ▸ hkeeps₁.current,
        ⟨hs'.1.bronze.trans hsame₁.1, hs'.1.silver.trans hsame₁.2⟩, hs'.2⟩)
      (fun _ s' hs' => h₁.send hs') (fun s' hs' => h₁.send hs')) ?_
  rintro gold s₂ h₂ ⟨hcurrent, hsame₂, hcanonical⟩
  refine wp_bind_keeping (P := fun record s' => (s'.bronze = s₂.bronze ∧ s'.silver = s₂.silver)
      ∧ GoldIsOf pipeline inputs s' record ∧ RootViewsMatch pipeline.goldFormats s'.gold.lake)
    (wp_mono (wp_publishGold h₂.invariant hcurrent hcanonical)
      (fun _ s' hs' => ⟨hs'.1.1, hs'.1.2, hs'.2⟩) (fun _ _ hs' => hs'.1) (fun _ hs' => hs'.1)) ?_
  rintro record s₃ h₃ ⟨hsame₃, hrecord, hviews⟩
  refine wp_bind_event (fun _ hsame => h₃.send hsame) (fun s₄ h₄ => wp_pure_keeping (h₃.send h₄) ?_)
  exact ⟨(h₄.bronze.trans hsame₃.1).trans hsame₂.1, (h₄.silver.trans hsame₃.2).trans hsame₂.2,
    h₄.gold.symm ▸ hviews, record, rfl, hrecord.keeps h₄.keepsLayers⟩

/-- **A refresh of the inventory.** -/
theorem wp_inventory (h : MedallionInvariant pipeline s) :
    wp (pipeline.inventory inputs) (Post.keeping (PublishKeeps pipeline inputs s)
      (fun _ s' => InventorySays pipeline s')) s := by
  have hstay : PublishKeeps pipeline inputs s s := .refl h
  refine wp_bind_start h (fun s₀ h₀ => wp_command (fun s' s'' hs' hsame => hs'.send hsame) ?_)
  have hkeeps : ∀ s', OnlyInventory s₀ s' → PublishKeeps pipeline inputs s s' := fun s' honly =>
    (hstay.send h₀).keeps honly.keepsLayers
  refine wp_bind_keeping (P := fun _ s' => InventorySays pipeline s')
    (wp_mono (InventoryRefreshService.wp_refresh pipeline.inventoryService s₀)
      (fun _ s' hs' => ⟨hkeeps s' hs'.1, (h.keeps h₀.keepsLayers).inventorySays hs'.1 hs'.2.1 hs'.2.2⟩)
      (fun _ s' hs' => hkeeps s' hs') (fun s' hs' => hkeeps s' hs')) (fun _ s₁ h₁ hrecorded => ?_)
  refine wp_bind_event (fun _ hsame => h₁.send hsame)
    (fun s₂ h₂ => wp_pure_keeping (h₁.send h₂) ?_)
  unfold InventorySays
  rw [h₂.bronze, h₂.inventory]
  exact hrecorded

/-- **A command is done**, as it says where it returns. -/
def CommandDone (pipeline : DailyMedallionPipeline) (inputs : CommandInputs)
    (s s' : MedallionLake) (result : PipelineCommandResult) :
    DailyMedallionPipeline.Command → Prop
  | .bootstrap seriesIds today => SourceDone seriesIds .bootstrap today
  | .update seriesIds today => SourceDone seriesIds .update today
  | .reconcile seriesIds today => SourceDone seriesIds .reconcile today
  | .silverBuild seriesIds => ∃ selected, pipeline.resolveSeries seriesIds = .ok selected
    ∧ ∀ contract ∈ pipeline.seriesRegistry.contracts, contract.seriesId ∈ selected →
      SilverCurrent pipeline s' contract
  | .goldBuild => RootViewsMatch pipeline.goldFormats s'.gold.lake
    ∧ ∃ record, result.goldBuildId = some record.buildId ∧ GoldIsOf pipeline inputs s' record
  | .inventory => InventorySays pipeline s'
  | .runDaily seriesIds today => ∃ selected, pipeline.resolveSeries seriesIds = .ok selected
    ∧ DailyDone pipeline inputs selected today s s' result
where
  /-- All runs of the selected series have succeeded. -/
  SourceDone (seriesIds : List String) (operation : OperationMode) (today : Date) : Prop :=
    ∃ selected batch, pipeline.resolveSeries seriesIds = .ok selected
      ∧ result.bronze = some batch
      ∧ BronzeUpdated pipeline selected operation today s.bronze batch s'.bronze

/-- **Every command** keeps the lake in order and is done where it returns. -/
theorem wp_run (hserves : pool.Serves pipeline) (h : MedallionInvariant pipeline s)
    (command : DailyMedallionPipeline.Command) :
    wp (pipeline.run pool inputs command) (Post.keeping (PublishKeeps pipeline inputs s)
      (fun result s' => CommandDone pipeline inputs s s' result command)) s := by
  cases command with
  | bootstrap seriesIds today => exact wp_sourceCommand hserves h
  | update seriesIds today => exact wp_sourceCommand hserves h
  | reconcile seriesIds today => exact wp_sourceCommand hserves h
  | silverBuild seriesIds => exact wp_silverBuild hserves h
  | goldBuild => exact wp_keeping_mono (wp_goldBuild h) (fun _ _ _ hs' => hs'.2.2)
  | inventory => exact wp_inventory h
  | runDaily seriesIds today => exact wp_runDaily hserves h

end Stages

/-! ## Runs -/

/-- **A call of the pipeline**: a command, with a pool that does what it is given to do, and
the faults that it meets. Its process may be killed at any effect but those of a commit of
Bronze (`RunManyEnds`). -/
structure PipelineCall (pipeline : DailyMedallionPipeline) where
  pool : Pool
  serves : pool.Serves pipeline
  inputs : CommandInputs
  command : DailyMedallionPipeline.Command
  faults : List (Fault PyError)

namespace PipelineCall

variable {pipeline : DailyMedallionPipeline} (call : PipelineCall pipeline) (s : MedallionLake)

/-- How a call ends. -/
def outcome : Outcome PyError PipelineCommandResult :=
  (pipeline.run call.pool call.inputs call.command s call.faults).1

/-- The lake after a call, however it has ended. -/
def after : MedallionLake := (pipeline.run call.pool call.inputs call.command s call.faults).2.1

variable {s}

/-- What every call keeps, and what it has done where it returns. -/
theorem correct (h : MedallionInvariant pipeline s) :
    PublishKeeps pipeline call.inputs s (call.after s)
      ∧ ∀ result, call.outcome s = .returned result →
        CommandDone pipeline call.inputs s (call.after s) result call.command := by
  have hend : wp (pipeline.run call.pool call.inputs call.command) _ s :=
    wp_run call.serves h call.command
  replace hend := hend call.faults
  unfold outcome after
  generalize pipeline.run call.pool call.inputs call.command s call.faults = end_ at *
  rcases end_ with ⟨result | e | _, s', rest⟩
  · exact ⟨hend.1, fun _ hresult => Outcome.returned.inj hresult ▸ hend.2⟩
  · exact ⟨hend, fun _ hresult => by cases hresult⟩
  · exact ⟨hend, fun _ hresult => by cases hresult⟩

end PipelineCall

/-- **The lake after some calls**, one after the other, from an empty one. None of them has been
killed in the middle of a commit of Bronze. -/
def lakeAfter {pipeline : DailyMedallionPipeline} (calls : List (PipelineCall pipeline)) :
    MedallionLake := calls.foldl (fun s call => call.after s) .empty

section Runs

variable {pipeline : DailyMedallionPipeline} {earlier : List (PipelineCall pipeline)}

theorem lakeAfter_concat (call : PipelineCall pipeline) :
    lakeAfter (earlier ++ [call]) = call.after (lakeAfter earlier) := by
  rw [lakeAfter, List.foldl_append]
  rfl

/-- **Whatever fails, the lake is in order.** -/
theorem medallionInvariant_lakeAfter (calls : List (PipelineCall pipeline)) :
    MedallionInvariant pipeline (lakeAfter calls) := by
  induction calls using List.reverseRecOn with
  | nil => exact medallionInvariant_empty pipeline
  | append_singleton earlier call ih =>
    rw [lakeAfter_concat]
    exact (call.correct ih).1.invariant

/-- The catalog of an ordered lake is well formed. -/
theorem MedallionInvariant.wellFormedCatalog {s : MedallionLake}
    (h : MedallionInvariant pipeline s) : WellFormedCatalog s.gold.lake.records := by
  obtain ⟨hhistory, hdisk⟩ := history_of_leads h.gold rfl
  rw [hdisk]
  exact hhistory.wellFormed WellFormedCatalog.nil (List.suffix_refl _)

/-- A build has an origin among some calls: one of them published it, of what was assembled of
the Silver of all series right then, and its files are still those that were published. -/
def HasOrigin (calls : List (PipelineCall pipeline)) (record : GoldCatalogRecord) : Prop :=
  ∃ earlier call later, calls = earlier ++ call :: later
    ∧ GoldIsOf pipeline call.inputs (lakeAfter (earlier ++ [call])) record
    ∧ (lakeAfter calls).gold.lake.builds record.buildId
      = (lakeAfter (earlier ++ [call])).gold.lake.builds record.buildId

/-- Publication by publication, a current build is followed back to the command that published
it. -/
theorem hasOrigin_of_current {calls : List (PipelineCall pipeline)} {record : GoldCatalogRecord}
    (hrecord : record ∈ (lakeAfter calls).gold.lake.records) (hcurrent : record.current = true) :
    HasOrigin calls record := by
  induction calls using List.reverseRecOn generalizing record with
  | nil => cases hrecord
  | append_singleton calls call ih =>
    have hwf := (medallionInvariant_lakeAfter (calls ++ [call])).wellFormedCatalog
    rw [lakeAfter_concat] at hrecord hwf
    obtain ⟨-, hsame | ⟨published, hpublished⟩⟩ :=
      (call.correct (medallionInvariant_lakeAfter calls)).1
    · -- the current build is one of an earlier command
      have hmem := (hsame.records record hcurrent).mp hrecord
      obtain ⟨earlier, origin, later, rfl, hgold, hbuilds⟩ := ih hmem hcurrent
      refine ⟨earlier, origin, later ++ [call], by simp, hgold, ?_⟩
      rw [lakeAfter_concat, hsame.builds record hmem hcurrent, hbuilds]
    · obtain ⟨gold, hcanonical, hmem, hc, hpublished⟩ := hpublished
      obtain rfl := hwf.eq_of_current hrecord hmem hcurrent hc
      refine ⟨calls, call, [], rfl, ?_, rfl⟩
      rw [lakeAfter_concat]
      exact ⟨gold, hcanonical, hmem, hc, hpublished⟩

end Runs
