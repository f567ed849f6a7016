import MacroLoader.DailyPipeline
import MacroLoader.GoldCurrent

/-!
# What the commands keep

The store of the pipeline is in order if its registered series are: their Bronze can be read
and ends where its state says, their Silver has no keys that Bronze has not, and the Gold
files have been reached by the steps of the publisher alone. Every stage keeps this, and so
does every command, however it ends (`medallionInvariant_lakeAfter`).

What the pool of threads does is not ours to say, except that it runs the series and builds
the Silver that it is given, in some order of their steps. Of a process that is killed it is
taken that no run was in the middle of its commit: a commit writes the months, the manifest
and the states one after the other, and a Bronze that is left in between has a state that does
not say where it ends. All results from here on are about processes that are killed elsewhere.
-/

open Program

/-! ## The pool -/

/-- **How `run_many` may end**: with the results of its runs, where each of them has ended; at
once, if a series is named twice; or not at all, because the process was killed between the
commits of its runs, that is, at a moment when none of them was in the middle of a commit or
of taking one back. Its run ids are distinct, and its providers answer in the schema of the
series that they are asked for. -/
inductive RunManyEnds (orchestrator : BronzeOrchestrator) (selected : List String)
    (operation : OperationMode) (today : Date) (lake : BronzeLake) :
    Outcome PyError BatchRunResult → BronzeLake → Prop
  | returned {call : RunManyCall} {ends : call.Worker → RunEnd} {result : BatchRunResult}
    {s : BronzeLake} (hcall : call.selected = selected ∧ call.operation = operation
      ∧ call.today = today) (hids : Function.Injective call.runId)
    (hanswers : call.AnswersInSchema orchestrator)
    (hreturns : call.Returns orchestrator lake ends result s) :
    RunManyEnds orchestrator selected operation today lake (.returned result) s
  | raised (e : PyError) (hdistinct : ¬ selected.Nodup) :
    RunManyEnds orchestrator selected operation today lake (.raised e) lake
  | crashed {call : RunManyCall} {w : World call.Worker BronzeLake PyError RunEnd}
    (hcall : call.selected = selected ∧ call.operation = operation ∧ call.today = today)
    (hdistinct : call.selected.Nodup) (hids : Function.Injective call.runId)
    (hanswers : call.AnswersInSchema orchestrator)
    (hrun : (call.initial orchestrator lake).Run w) :
    RunManyEnds orchestrator selected operation today lake .crashed w.shared

namespace DailyMedallionPipeline

variable (pipeline : DailyMedallionPipeline)

/-- The builds of some series. -/
def silverWorkers (contracts : List SeriesContract)
    (hdistinct : (contracts.map (·.seriesId)).Nodup) : SilverWorkers (Fin contracts.length) where
  repository := pipeline.silver
  contract := contracts.get
  seriesId_injective i j h :=
    List.nodup_iff_injective_get.mp (List.Nodup.of_map _ hdistinct)
      (List.inj_on_of_nodup_map hdistinct (List.get_mem _ i) (List.get_mem _ j) h)

end DailyMedallionPipeline

/-- **The pool does what it is given to do**: it runs the series, and it builds the Silver, in
some order of their steps, and if its process is killed, then not in the middle of a commit
of Bronze (`RunManyEnds`). -/
structure Pool.Serves (pool : Pool) (pipeline : DailyMedallionPipeline) : Prop where
  runMany : ∀ selected operation today lake faults,
    RunManyEnds pipeline.bronze selected operation today lake
      (pool.runMany selected operation today lake faults).1
      (pool.runMany selected operation today lake faults).2.1
  buildAll : ∀ contracts (hdistinct : (contracts.map (·.seriesId)).Nodup) s faults,
    ∃ buildFaults, MapEnds ((pipeline.silverWorkers contracts hdistinct).initial buildFaults s)
      (pool.buildAll contracts s faults).1 (pool.buildAll contracts s faults).2.1

/-! ## The invariant -/

/-- **The lake is in order.** -/
structure MedallionInvariant (pipeline : DailyMedallionPipeline) (lake : MedallionLake) :
    Prop where
  readable : ReadableRecords pipeline.uow lake.bronze
  series : ∀ contract ∈ pipeline.seriesRegistry.contracts, ∃ bronze kept,
    SeriesInvariant pipeline.bronze pipeline.silverFormat contract
      ⟨lake.bronze, lake.silver contract.seriesId⟩ bronze kept
  gold : Leads MedallionLake.empty.gold lake.gold

/-- An empty lake is in order. -/
theorem medallionInvariant_empty (pipeline : DailyMedallionPipeline) :
    MedallionInvariant pipeline .empty where
  readable := ⟨⟨[], rfl, List.nodup_nil⟩, [], rfl, List.nodup_nil⟩
  series contract _ := ⟨_, _, storeInvariant_empty pipeline.bronze contract, silverHolds_empty _ _⟩
  gold := .refl

/-- The files are the same. -/
structure SameFiles (s s' : MedallionLake) : Prop where
  bronze : s'.bronze = s.bronze
  silver : s'.silver = s.silver
  gold : s'.gold = s.gold
  inventory : s'.inventory = s.inventory

instance : Std.Refl SameFiles := ⟨fun _ => ⟨rfl, rfl, rfl, rfl⟩⟩

instance : IsTrans MedallionLake SameFiles :=
  ⟨fun _ _ _ h h' => ⟨h'.bronze.trans h.bronze, h'.silver.trans h.silver, h'.gold.trans h.gold,
    h'.inventory.trans h.inventory⟩⟩

/-- **Bronze and Silver are the same**, and so is the current build of Gold. -/
structure KeepsLayers (s s' : MedallionLake) : Prop where
  bronze : s'.bronze = s.bronze
  silver : s'.silver = s.silver
  leads : Leads s.gold s'.gold
  current : KeepsCurrent s.gold s'.gold

instance : Std.Refl KeepsLayers := ⟨fun _ => ⟨rfl, rfl, .refl, Std.Refl.refl _⟩⟩

instance : IsTrans MedallionLake KeepsLayers :=
  ⟨fun _ _ _ h h' => ⟨h'.bronze.trans h.bronze, h'.silver.trans h.silver, h.leads.trans h'.leads,
    h.current.trans h'.current⟩⟩

section Keeps

variable {pipeline : DailyMedallionPipeline} {pool : Pool} {s s' : MedallionLake}

theorem SameFiles.keepsLayers (h : SameFiles s s') : KeepsLayers s s' :=
  ⟨h.bronze, h.silver, h.gold ▸ .refl, h.gold ▸ Std.Refl.refl _⟩

theorem OnlyInventory.keepsLayers (h : OnlyInventory s s') : KeepsLayers s s' := by
  rw [h]
  exact ⟨rfl, rfl, .refl, Std.Refl.refl _⟩

/-- What keeps to the Gold files keeps the lake in order. -/
theorem MedallionInvariant.of_leads (h : MedallionInvariant pipeline s)
    (hbronze : s'.bronze = s.bronze) (hsilver : s'.silver = s.silver)
    (hgold : Leads s.gold s'.gold) : MedallionInvariant pipeline s' where
  readable := hbronze ▸ h.readable
  series := by
    rw [hbronze, hsilver]
    exact h.series
  gold := h.gold.trans hgold

theorem MedallionInvariant.keeps (h : MedallionInvariant pipeline s) (hkeeps : KeepsLayers s s') :
    MedallionInvariant pipeline s' := h.of_leads hkeeps.bronze hkeeps.silver hkeeps.leads

/-- A registered contract is found under its id. -/
theorem registered_of_mem {contract : SeriesContract}
    (h : contract ∈ pipeline.seriesRegistry.contracts) :
    pipeline.bronze.seriesRegistry contract.seriesId = some contract :=
  SeriesRegistry.find?_eq_some.mpr ⟨h, rfl⟩

/-- **Runs of Bronze keep the lake in order.** -/
theorem MedallionInvariant.runMany {selected : List String} {operation : OperationMode}
    {today : Date} {outcome : Outcome PyError BatchRunResult} {lake : BronzeLake}
    (h : MedallionInvariant pipeline s)
    (hend : RunManyEnds pipeline.bronze selected operation today s.bronze outcome lake) :
    MedallionInvariant pipeline { s with bronze := lake } := by
  have hmoment : ∀ (call : RunManyCall) (w : World call.Worker BronzeLake PyError RunEnd),
      call.selected.Nodup → Function.Injective call.runId → call.AnswersInSchema pipeline.bronze →
      (call.initial pipeline.bronze s.bronze).Run w →
        MedallionInvariant pipeline { s with bronze := w.shared } := by
    intro call w hdistinct hids hanswers hrun
    refine ⟨(RunManyCall.eachAlone hrun h.readable hdistinct hids).1, fun contract hmem => ?_, h.gold⟩
    obtain ⟨bronze, kept, hstored, hsilver⟩ := h.series contract hmem
    obtain ⟨bronze', hstored', hkeys⟩ := RunManyCall.storeInvariant hrun h.readable hdistinct hids
      hanswers (registered_of_mem hmem) hstored
    exact ⟨bronze', kept, hstored', hsilver.mono hkeys⟩
  cases hend with
  | returned hcall hids hanswers hreturns =>
    obtain ⟨w, hrun, rfl, -⟩ := hreturns.ended
    exact hmoment _ w hreturns.distinct hids hanswers hrun
  | raised e hdistinct => exact h
  | crashed hcall hdistinct hids hanswers hrun => exact hmoment _ _ hdistinct hids hanswers hrun

/-! ## Builds of Silver -/

/-- **The Silver of a series is current**, with regard to the Bronze next to it. -/
def SilverCurrent (pipeline : DailyMedallionPipeline) (s : MedallionLake)
    (contract : SeriesContract) : Prop :=
  ∃ bronze, pipeline.uow.readBronze s.bronze contract.key = .ok bronze
    ∧ IsCurrentSilver pipeline.silver contract bronze (s.silver contract.seriesId)

/-- All but the Silver is the same. -/
structure OnlySilverFiles (s s' : MedallionLake) : Prop where
  bronze : s'.bronze = s.bronze
  gold : s'.gold = s.gold
  inventory : s'.inventory = s.inventory
  events : s'.events = s.events

/-- **Builds of Silver keep the lake in order**, and where they return the Silver of their
series is current. -/
theorem MedallionInvariant.buildAll {contracts : List SeriesContract}
    {hdistinct : (contracts.map (·.seriesId)).Nodup}
    {faults : Fin contracts.length → List (Fault PyError)}
    {outcome : Outcome PyError (List SilverResult)} (h : MedallionInvariant pipeline s)
    (hcontracts : ∀ contract ∈ contracts, contract ∈ pipeline.seriesRegistry.contracts)
    (hend : MapEnds ((pipeline.silverWorkers contracts hdistinct).initial faults s) outcome s') :
    MedallionInvariant pipeline s' ∧ OnlySilverFiles s s'
      ∧ ∀ results, outcome = .returned results →
        ∀ contract ∈ contracts, SilverCurrent pipeline s' contract := by
  have hstored : ∀ i : Fin contracts.length, ∃ bronze kept,
      SeriesInvariant pipeline.bronze pipeline.silverFormat (contracts.get i)
        ⟨s.bronze, s.silver (contracts.get i).seriesId⟩ bronze kept :=
    fun i => h.series _ (hcontracts _ (List.get_mem _ i))
  choose bronze kept hseries using hstored
  have hreads : ∀ i, ∃ read, pipeline.uow.readBronze s.bronze (contracts.get i).key = .ok read
      ∧ read.rows = (bronze i).rows := fun i => (hseries i).stored.readBronze
  choose read hread hrows using hreads
  obtain ⟨honly, hheld, hcurrent⟩ := @SilverWorkers.mapEnds_builds _ _ _ _ _ read _ hread
    (fun i => ⟨kept i, (hseries i).silver.congr (hrows i)⟩) hend
  refine ⟨⟨honly.bronze ▸ h.readable, fun contract hmem => ?_, honly.gold ▸ h.gold⟩,
    ⟨honly.bronze, honly.gold, honly.inventory, honly.events⟩, fun results hresults contract hmem => ?_⟩
  · rw [honly.bronze]
    by_cases hbuilt : ∃ i : Fin contracts.length, (contracts.get i).seriesId = contract.seriesId
    · obtain ⟨i, hi⟩ := hbuilt
      obtain rfl : contracts.get i = contract :=
        List.inj_on_of_nodup_map pipeline.seriesRegistry.nodup
          (hcontracts _ (List.get_mem _ i)) hmem hi
      obtain ⟨kept', hkept'⟩ := hheld i
      exact ⟨bronze i, kept', (hseries i).stored, hkept'.congr (hrows i).symm⟩
    · -- nobody builds the series
      rw [honly.silver _ (fun i hi => hbuilt ⟨i, hi⟩)]
      exact h.series contract hmem
  · obtain ⟨i, rfl⟩ := List.get_of_mem hmem
    exact ⟨read i, honly.bronze.symm ▸ hread i, hcurrent results hresults i⟩

end Keeps

/-! ## The stages -/

section Events

variable {pipeline : DailyMedallionPipeline}

theorem moves_event (runId command stage status : String) (context : List (String × Json)) :
    Moves SameFiles (DailyMedallionPipeline.event runId command stage status context) :=
  moves_write (fun _ => ⟨rfl, rfl, rfl, rfl⟩)

theorem moves_logBronzeResults (runId command : String) (batch : BatchRunResult) :
    Moves SameFiles (pipeline.logBronzeResults runId command batch) :=
  moves_bind (moves_forEach (fun _ => moves_event _ _ _ _ _) _) (fun _ =>
    moves_bind (moves_forEach (fun _ => moves_bind (moves_ofExcept _) (fun _ =>
      moves_event _ _ _ _ _)) _) (fun _ => moves_event _ _ _ _ _))

end Events

/-- What is sent between two steps changes no file. -/
theorem wp_bind_event {α : Type} {I : MedallionLake → Prop} {R : α → MedallionLake → Prop}
    {s : MedallionLake} {runId command stage status : String} {context : List (String × Json)}
    {k : Unit → LakeProgram α} (hI : ∀ s', SameFiles s s' → I s')
    (hk : ∀ s', SameFiles s s' → wp (k ()) (Post.keeping I R) s') :
    wp (DailyMedallionPipeline.event runId command stage status context >>= k)
      (Post.keeping I R) s :=
  wp_bind ((moves_event runId command stage status context).wp (fun _ s' h => hk s' h)
    (fun _ s' h => hI s' h) (fun s' h => hI s' h))

section Stages

variable {pipeline : DailyMedallionPipeline} {pool : Pool} {inputs : CommandInputs}
  {runId command : String} {selected : List String} {seriesIds : List String} {today : Date}
  {s s' : MedallionLake}

/-- **The recovery keeps to Gold**, and leaves its current build alone. -/
theorem moves_recover (pipeline : DailyMedallionPipeline) (inputs : CommandInputs)
    (command : String) : Moves KeepsLayers (pipeline.recover inputs command) := by
  have hevent : ∀ stage status, Moves KeepsLayers
      (DailyMedallionPipeline.event inputs.runId command stage status []) := fun stage status =>
    (moves_event _ _ _ _ _).mono (fun _ _ h => h.keepsLayers)
  refine moves_bind (hevent _ _) (fun _ => moves_bind ?_ (fun _ => hevent _ _))
  exact fun s => wp_onPart _ (wp_mono (wp_and
    (GoldProgram.wp_reconcile pipeline.goldFormats inputs.recoveryClock .refl)
    (GoldProgram.moves_reconcile_current pipeline.goldFormats inputs.recoveryClock s.gold))
    (fun _ _ h => ⟨rfl, rfl, h.1.1, h.2⟩) (fun _ _ h => ⟨rfl, rfl, h.1, h.2⟩)
    (fun _ h => ⟨rfl, rfl, h.1, h.2⟩))

/-- The series of a command are distinct and registered. -/
theorem resolveSeries_eq_ok (h : pipeline.resolveSeries seriesIds = .ok selected) :
    selected.Nodup ∧ ∀ id ∈ selected, ∃ contract ∈ pipeline.seriesRegistry.contracts,
      contract.seriesId = id := by
  unfold DailyMedallionPipeline.resolveSeries at h
  simp only [bind_eq_ok, check_eq_ok, exists_const] at h
  obtain ⟨hdistinct, hknown, h⟩ := h
  obtain rfl := Except.ok.inj h
  refine ⟨nodup_of_duplicateKeys hdistinct, fun id hid => ?_⟩
  have hsome := List.filter_eq_nil_iff.mp hknown id hid
  cases hfound : pipeline.seriesRegistry.find? id with
  | none => exact absurd (by rw [hfound]; rfl) hsome
  | some contract => exact ⟨contract, SeriesRegistry.find?_eq_some.mp hfound⟩

/-- The contracts of the series of a command. -/
theorem contracts_eq_ok {contracts : List SeriesContract}
    (h : selected.mapM pipeline.contractOf = .ok contracts) :
    contracts.map (·.seriesId) = selected
      ∧ ∀ contract ∈ contracts, contract ∈ pipeline.seriesRegistry.contracts := by
  have hfound : List.Forall₂ (fun id contract => contract ∈ pipeline.seriesRegistry.contracts
      ∧ contract.seriesId = id) selected contracts := by
    refine (forall₂_of_mapM_eq_ok h).imp (fun id contract hcontract => ?_)
    unfold DailyMedallionPipeline.contractOf at hcontract
    split at hcontract
    · next found hfind =>
      cases hcontract
      exact SeriesRegistry.find?_eq_some.mp hfind
    · cases hcontract
  refine ⟨?_, fun contract hmem => ?_⟩
  · have hsame : List.Forall₂ (· = ·) (contracts.map (·.seriesId)) selected := by
      rw [List.forall₂_map_left_iff]
      exact hfound.flip.imp (fun _ _ h => h.2)
    rwa [List.forall₂_eq_eq_eq] at hsame
  · obtain ⟨id, -, hcontract, -⟩ := forall₂_exists_left hfound hmem
    exact hcontract

/-- **All runs of a call have succeeded.** -/
def BronzeUpdated (pipeline : DailyMedallionPipeline) (selected : List String)
    (operation : OperationMode) (today : Date) (lake : BronzeLake) (batch : BatchRunResult)
    (s : BronzeLake) : Prop :=
  ∃ (call : RunManyCall) (ends : call.Worker → RunEnd), call.selected = selected
    ∧ call.operation = operation ∧ call.today = today ∧ Function.Injective call.runId
    ∧ call.Returns pipeline.bronze lake ends batch s
    ∧ ∀ i, ∃ run result, ends i = .succeeded run result ∧ result ∈ batch.successes

/-- Where no series has failed, all have succeeded. -/
theorem RunManyEnds.updated {operation : OperationMode} {batch : BatchRunResult}
    {lake t : BronzeLake}
    (h : RunManyEnds pipeline.bronze selected operation today lake (.returned batch) t)
    (hnone : batch.failures = []) :
    BronzeUpdated pipeline selected operation today lake batch t := by
  cases h with
  | @returned call ends _ _ hcall hids hanswers hreturns =>
  obtain ⟨hselected, hoperation, htoday⟩ := hcall
  exact ⟨call, ends, hselected, hoperation, htoday, hids, hreturns, hreturns.succeeded hnone⟩

/-- All but Bronze is the same. -/
structure OnlyBronze (s s' : MedallionLake) : Prop where
  silver : s'.silver = s.silver
  gold : s'.gold = s.gold
  inventory : s'.inventory = s.inventory

/-- **The runs of Bronze**, as a stage of a command. -/
theorem wp_runMany (hserves : pool.Serves pipeline) {operation : OperationMode}
    (h : MedallionInvariant pipeline s) :
    wp (onPart MedallionLake.bronzePart (pool.runMany selected operation today))
      (Post.keeping (fun s' => MedallionInvariant pipeline s' ∧ OnlyBronze s s') (fun batch s' =>
        RunManyEnds pipeline.bronze selected operation today s.bronze (.returned batch) s'.bronze))
      s := by
  refine wp_onPart _ (wp_mono (wp_of_ends (E := RunManyEnds pipeline.bronze selected operation
    today s.bronze) (fun faults => hserves.runMany _ _ _ _ _)) ?_ ?_ ?_)
  · exact fun batch lake hend => ⟨⟨h.runMany hend, rfl, rfl, rfl⟩, hend⟩
  · exact fun e lake hend => ⟨h.runMany hend, rfl, rfl, rfl⟩
  · exact fun lake hend => ⟨h.runMany hend, rfl, rfl, rfl⟩

/-- What is sent keeps what a stage of Bronze keeps. -/
theorem MedallionInvariant.onlyBronze_sameFiles {s'' : MedallionLake}
    (h : MedallionInvariant pipeline s' ∧ OnlyBronze s s') (hsame : SameFiles s' s'') :
    MedallionInvariant pipeline s'' ∧ OnlyBronze s s'' :=
  ⟨h.1.keeps hsame.keepsLayers, hsame.silver.trans h.2.silver, hsame.gold.trans h.2.gold,
    hsame.inventory.trans h.2.inventory⟩

/-- **The update of Bronze** raises if any series has failed. -/
theorem wp_updateBronze (hserves : pool.Serves pipeline) (h : MedallionInvariant pipeline s) :
    wp (pipeline.updateBronze pool inputs selected today)
      (Post.keeping (fun s' => MedallionInvariant pipeline s' ∧ OnlyBronze s s') (fun batch s' =>
        batch.failures = []
          ∧ BronzeUpdated pipeline selected .update today s.bronze batch s'.bronze)) s := by
  have hI : ∀ s', SameFiles s s' → MedallionInvariant pipeline s' ∧ OnlyBronze s s' :=
    fun s' hsame => MedallionInvariant.onlyBronze_sameFiles ⟨h, rfl, rfl, rfl⟩ hsame
  refine wp_bind_event hI (fun s₁ h₁ => ?_)
  refine wp_bind_keeping (wp_mono (wp_runMany hserves (hI s₁ h₁).1) ?_ ?_ ?_)
    (P := fun batch s' => RunManyEnds pipeline.bronze selected .update today s.bronze
      (.returned batch) s'.bronze) (fun batch s₂ h₂ hend => ?_)
  all_goals
    have hchain : ∀ s', MedallionInvariant pipeline s' ∧ OnlyBronze s₁ s' →
        MedallionInvariant pipeline s' ∧ OnlyBronze s s' := fun s' hs' =>
      ⟨hs'.1, hs'.2.silver.trans h₁.silver, hs'.2.gold.trans h₁.gold,
        hs'.2.inventory.trans h₁.inventory⟩
  · exact fun batch s' hs' => ⟨hchain s' hs'.1, h₁.bronze ▸ hs'.2⟩
  · exact fun _ s' hs' => hchain s' hs'
  · exact fun s' hs' => hchain s' hs'
  · refine wp_bind_keeping (P := fun _ s' => s'.bronze = s₂.bronze)
      ((moves_logBronzeResults _ _ batch).keeping
        (fun s' hsame => MedallionInvariant.onlyBronze_sameFiles h₂ hsame)
        (fun _ s' hsame => hsame.bronze)) (fun _ s₃ h₃ hbronze => ?_)
    refine wp_bind_require h₃ (fun hnone => wp_pure_keeping h₃ ⟨hnone, ?_⟩)
    rw [hbronze]
    exact hend.updated hnone

/-! ### Silver -/

/-- Bronze and Gold are the same. -/
structure OnlySilverLayer (s s' : MedallionLake) : Prop where
  bronze : s'.bronze = s.bronze
  gold : s'.gold = s.gold
  inventory : s'.inventory = s.inventory

/-- **The Silver of some series**, as a stage of a command. -/
theorem wp_buildSelectedSilver (hserves : pool.Serves pipeline)
    (h : MedallionInvariant pipeline s) (hdistinct : selected.Nodup) :
    wp (pipeline.buildSelectedSilver pool runId command selected)
      (Post.keeping (fun s' => MedallionInvariant pipeline s' ∧ OnlySilverLayer s s')
        (fun _ s' => ∀ contract ∈ pipeline.seriesRegistry.contracts,
          contract.seriesId ∈ selected → SilverCurrent pipeline s' contract)) s := by
  have hI : ∀ s', SameFiles s s' → MedallionInvariant pipeline s' ∧ OnlySilverLayer s s' :=
    fun s' hsame => ⟨h.keeps hsame.keepsLayers, hsame.bronze, hsame.gold, hsame.inventory⟩
  refine wp_bind_event hI (fun s₁ h₁ => ?_)
  refine wp_bind_ofExcept (hI s₁ h₁) (fun contracts hcontracts => ?_)
  obtain ⟨hids, hregistered⟩ := contracts_eq_ok hcontracts
  have hnodup : (contracts.map (·.seriesId)).Nodup := hids ▸ hdistinct
  have hend : ∀ outcome s', (∃ faults, MapEnds ((pipeline.silverWorkers contracts hnodup).initial
      faults s₁) outcome s') → (MedallionInvariant pipeline s' ∧ OnlySilverLayer s s')
        ∧ ∀ results, outcome = .returned results →
          ∀ contract ∈ contracts, SilverCurrent pipeline s' contract := by
    rintro outcome s' ⟨faults, hend⟩
    obtain ⟨hinvariant, honly, hcurrent⟩ := (hI s₁ h₁).1.buildAll hregistered hend
    exact ⟨⟨hinvariant, honly.bronze.trans h₁.bronze, honly.gold.trans h₁.gold,
      honly.inventory.trans h₁.inventory⟩, hcurrent⟩
  refine wp_bind (wp_mono (wp_of_ends (E := fun outcome s' => ∃ faults, MapEnds
    ((pipeline.silverWorkers contracts hnodup).initial faults s₁) outcome s')
    (fun faults => hserves.buildAll contracts hnodup s₁ faults)) (fun results s₂ hs₂ => ?_)
    (fun e s' hs' => (hend _ _ hs').1) (fun s' hs' => (hend _ _ hs').1))
  obtain ⟨⟨hinvariant, honly⟩, hcurrent⟩ := hend _ _ hs₂
  refine (moves_event _ _ _ _ _).keeping (fun s' hsame => ?_) (fun _ s' hsame contract hmem hid => ?_)
  · exact ⟨hinvariant.keeps hsame.keepsLayers, hsame.bronze.trans honly.bronze,
      hsame.gold.trans honly.gold, hsame.inventory.trans honly.inventory⟩
  · rw [← hids] at hid
    obtain ⟨found, hfound, heq⟩ := List.mem_map.mp hid
    obtain rfl := List.inj_on_of_nodup_map pipeline.seriesRegistry.nodup (hregistered _ hfound)
      hmem heq
    obtain ⟨bronze, hread, hbuilt⟩ := hcurrent _ rfl _ hfound
    exact ⟨bronze, hsame.bronze.symm ▸ hread, hsame.silver.symm ▸ hbuilt⟩

/-! ### Gold -/

/-- **The canonical frame of Gold**: what is assembled of the Silver of all series. -/
def CanonicalGold (pipeline : DailyMedallionPipeline) (s : MedallionLake)
    (gold : GoldFrameBuild) : Prop :=
  ∃ frames, List.Forall₂ (fun contract frame =>
      pipeline.silver.read (s.silver contract.seriesId) = .ok frame)
      pipeline.seriesRegistry.contracts frames
    ∧ (∀ frame ∈ frames, frame.isEmpty = false)
    ∧ assembleGoldFrame pipeline.goldFormats.sha256 pipeline.writeCsv
      (DailyMedallionPipeline.silverBySeries pipeline.seriesRegistry.contracts frames) = .ok gold

theorem wp_canonicalGold (pipeline : DailyMedallionPipeline) (runId command : String)
    (s : MedallionLake) :
    wp (pipeline.canonicalGold runId command) (Post.keeping (SameFiles s)
      (fun gold s' => CanonicalGold pipeline s' gold)) s := by
  refine wp_bind_event (fun _ h => h) (fun s₁ h₁ => ?_)
  refine wp_bind_keeping (P := fun frames s' => SameFiles s₁ s' ∧ List.Forall₂ (fun contract frame =>
      pipeline.silver.read (s₁.silver contract.seriesId) = .ok frame)
      pipeline.seriesRegistry.contracts frames)
    (wp_mono (wp_collect_keeping (I := (· = s₁)) rfl (fun contract _ s' hs' =>
      wp_query_keeping hs' (fun frame hframe => hs' ▸ hframe))) ?_ ?_ ?_) ?_
  · rintro frames s' ⟨rfl, hframes⟩
    exact ⟨h₁, Std.Refl.refl _, hframes⟩
  · rintro _ s' rfl
    exact h₁
  · rintro s' rfl
    exact h₁
  · rintro frames s₂ h₂ ⟨hsame, hframes⟩
    refine wp_bind_require h₂ (fun hmissing => wp_bind_ofExcept h₂ (fun gold hgold => ?_))
    refine wp_bind_event (fun s' hs' => IsTrans.trans _ _ _ h₂ hs') (fun s₃ h₃ => ?_)
    refine wp_pure_keeping (IsTrans.trans _ _ _ h₂ h₃) ⟨frames, ?_, fun frame hframe => ?_, hgold⟩
    · rw [h₃.silver, hsame.silver]
      exact hframes
    · obtain ⟨contract, hcontract, -⟩ := forall₂_exists_left hframes hframe
      obtain ⟨entry, hentry, rfl⟩ : ∃ entry ∈ pipeline.seriesRegistry.contracts.zip frames,
          entry.2 = frame := by
        obtain ⟨i, hi, rfl⟩ := List.getElem_of_mem hframe
        have hlength := hframes.length_eq
        refine ⟨(pipeline.seriesRegistry.contracts[i], frames[i]), ?_, rfl⟩
        exact List.mem_iff_getElem.mpr ⟨i, by simp [hlength, hi], by simp⟩
      exact Bool.eq_false_iff.mpr (List.filter_eq_nil_iff.mp hmissing entry hentry)

/-- **The current build is what is assembled of the Silver that there is**, published by a
command. -/
def GoldIsOf (pipeline : DailyMedallionPipeline) (inputs : CommandInputs) (s : MedallionLake)
    (record : GoldCatalogRecord) : Prop :=
  ∃ gold, CanonicalGold pipeline s gold
    ∧ GoldProgram.PublishedAs pipeline.goldFormats (inputs.publishCall gold) s.gold record

theorem GoldIsOf.keeps {record : GoldCatalogRecord} (h : GoldIsOf pipeline inputs s record)
    (hkeeps : KeepsLayers s s') : GoldIsOf pipeline inputs s' record := by
  obtain ⟨gold, ⟨frames, hframes, hrest⟩, hpublished⟩ := h
  exact ⟨gold, ⟨frames, hkeeps.silver ▸ hframes, hrest⟩, hpublished.keeps hkeeps.current⟩

/-- **What a command that publishes keeps**: the lake is in order, and the current build is
the one that there was, or it is what is assembled of Silver. -/
structure PublishKeeps (pipeline : DailyMedallionPipeline) (inputs : CommandInputs)
    (s s' : MedallionLake) : Prop where
  invariant : MedallionInvariant pipeline s'
  current : KeepsCurrent s.gold s'.gold ∨ ∃ record, GoldIsOf pipeline inputs s' record

theorem PublishKeeps.keeps {s'' : MedallionLake} (h : PublishKeeps pipeline inputs s s')
    (hkeeps : KeepsLayers s' s'') : PublishKeeps pipeline inputs s s'' where
  invariant := h.invariant.keeps hkeeps
  current := by
    rcases h.current with hsame | ⟨record, hrecord⟩
    · exact .inl (hsame.trans hkeeps.current)
    · exact .inr ⟨record, hrecord.keeps hkeeps⟩

/-- **The publication of the canonical frame.** -/
theorem wp_publishGold {gold : GoldFrameBuild} {t : MedallionLake}
    (h : MedallionInvariant pipeline s) (hcurrent : KeepsCurrent t.gold s.gold)
    (hgold : CanonicalGold pipeline s gold) :
    wp (pipeline.publishGold inputs command gold) (Post.keeping
      (fun s' => PublishKeeps pipeline inputs t s' ∧ s'.bronze = s.bronze ∧ s'.silver = s.silver)
      (fun record s' => GoldIsOf pipeline inputs s' record
        ∧ RootViewsMatch pipeline.goldFormats s'.gold.lake)) s := by
  have hleaves : ∀ lake, Leads s.gold lake ∧ GoldProgram.PublishLeaves pipeline.goldFormats
      (inputs.publishCall gold) s.gold lake →
        PublishKeeps pipeline inputs t { s with gold := lake } := by
    rintro lake ⟨hleads, hlake | ⟨record, hrecord⟩⟩
    · exact ⟨h.of_leads rfl rfl hleads, .inl (hcurrent.trans hlake)⟩
    · exact ⟨h.of_leads rfl rfl hleads, .inr ⟨record, gold, hgold, hrecord⟩⟩
  refine wp_bind_keeping (P := fun record s' => GoldIsOf pipeline inputs s' record
      ∧ RootViewsMatch pipeline.goldFormats s'.gold.lake)
    (wp_onPart _ (wp_mono (GoldProgram.wp_publish_current pipeline.goldFormats
      (inputs.publishCall gold) s.gold) ?_ ?_ ?_)) ?_
  · exact fun record lake hs => ⟨⟨hleaves lake hs.1, rfl, rfl⟩, ⟨gold, hgold, hs.2.1⟩, hs.2.2⟩
  · exact fun _ lake hs => ⟨hleaves lake hs, rfl, rfl⟩
  · exact fun lake hs => ⟨hleaves lake hs, rfl, rfl⟩
  · rintro record s₁ ⟨hkeeps, hbronze, hsilver⟩ ⟨hrecord, hviews⟩
    have hI : ∀ s', SameFiles s₁ s' → PublishKeeps pipeline inputs t s' ∧ s'.bronze = s.bronze
        ∧ s'.silver = s.silver := fun s' hsame =>
      ⟨hkeeps.keeps hsame.keepsLayers, hsame.bronze.trans hbronze, hsame.silver.trans hsilver⟩
    refine wp_bind_event hI (fun s₂ h₂ => wp_pure_keeping (hI s₂ h₂) ?_)
    exact ⟨hrecord.keeps h₂.keepsLayers, h₂.gold.symm ▸ hviews⟩

end Stages
