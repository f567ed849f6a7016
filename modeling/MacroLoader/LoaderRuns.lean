import MacroLoader.FirstDay

/-!
# From the files to the database, run after run

Commands and synchronizations are processes of their own, started in any order, each finding
what the last one has left, and each may fail at any effect, or be killed there if it is not in
the middle of a commit of Bronze. Whatever the order, every command leaves the lake in order,
and has done what it is for where it returns (`command_correct`), and the database holds nothing,
or exactly the rows of one build that a command has published, of what was assembled of the
Silver of all series at that moment (`replica_has_origin`). So what is true of one process that
finds the lake in order is true of the last of many: a daily job that returns has brought the
database to what Bronze has (`dailyJob_shows_bronze`), and where it has published a build, the
synchronization that follows is not refused (`sync_succeeds_after_daily`).
-/

open Program

/-! ## Commands -/

section Commands

variable {pipeline : DailyMedallionPipeline}

end Commands

/-! ## The origin of the current build -/

section Origin

variable {pipeline : DailyMedallionPipeline}

/-- The builds that a lake says are current. -/
def MedallionLake.currentBuilds (s : MedallionLake) : Set GoldCatalogRecord :=
  {record | record ∈ s.gold.lake.records ∧ record.current = true}

/-- **Every current build has an origin**, in every lake that commands lead to, whichever of
them have failed or were killed between the commits of Bronze. -/
theorem current_has_origin (calls : List (PipelineCall pipeline)) :
    (lakeAfter calls).currentBuilds ⊆ {record | HasOrigin calls record} :=
  fun _ hrecord => hasOrigin_of_current hrecord.1 hrecord.2

/-- The build of the first day. -/
theorem current_has_origin_first : ∃ (pipeline : DailyMedallionPipeline)
    (call : PipelineCall pipeline) (record : GoldCatalogRecord),
    record ∈ (lakeAfter [call]).currentBuilds ∧ HasOrigin [call] record := by
  obtain ⟨pipeline, pool, inputs, batch, bronze, hday, hready⟩ := exists_firstDay
  obtain ⟨ran, lake, hran, hdone, -⟩ := hday.exists_run hready
  obtain ⟨record, -, gold, -, hpublished⟩ := hdone.gold
  let call : PipelineCall pipeline :=
    ⟨pool, hday.serves, inputs.command, .runDaily [] inputs.today, []⟩
  have hlake : lakeAfter [call] = lake := congrArg (fun ended => ended.2.1) hran
  have hcurrent : record ∈ (lakeAfter [call]).currentBuilds := by
    rw [hlake]
    exact ⟨hpublished.1, hpublished.2.1⟩
  exact ⟨pipeline, call, record, hcurrent, current_has_origin [call] hcurrent⟩

end Origin

/-! ## Runs -/

section Runs

variable {pipeline : DailyMedallionPipeline}

/-- **A process of the loader**: a command of the pipeline, a synchronization, or the making
anew of the schemas. -/
inductive LoaderCall (pipeline : DailyMedallionPipeline)
  | command (call : PipelineCall pipeline)
  | sync (inputs : SyncInputs) (faults : List (Fault PyError))
  | recreate (faults : List (Fault PyError))

/-- What a process leaves, however it has ended. -/
def LoaderCall.after (s : Loader) : LoaderCall pipeline → Loader
  | .command call => { s with lake := call.after s.lake }
  | .sync inputs faults => (goldSyncPostgres pipeline.goldFormats inputs s faults).2.1
  | .recreate faults => (recreateSchema s faults).2.1

/-- The commands among some processes. -/
def commandsOf (calls : List (LoaderCall pipeline)) : List (PipelineCall pipeline) :=
  calls.filterMap (fun
    | .command call => some call
    | _ => none)

/-- **What one process does**, with the commands that it consists of: a command works on the
lake, and what else there is works on the database, which it leaves as it was, or empty, or
with the current build. -/
inductive LoaderStep (s : Loader) : List (PipelineCall pipeline) → Loader → Prop
  | command (call : PipelineCall pipeline) : LoaderStep s [call] { s with lake := call.after s.lake }
  | idle {s' : Loader} (hsame : SameStored s s') : LoaderStep s [] s'
  | emptied {s' : Loader} (hlake : s'.lake = s.lake)
    (hempty : s'.session.replica = emptyReplica) : LoaderStep s [] s'
  | synced {s' : Loader} {inputs : SyncInputs} {record : GoldCatalogRecord} {bytes : Bytes}
    {source : KeyedTable Timestamp (WideRow Float64 × Sha256Hex)} (hlake : s'.lake = s.lake)
    (hcurrent : CurrentBuild pipeline.goldFormats.sha256 (readFrame pipeline.goldFormats)
      (inputs.env pipeline.goldFormats s.lake.gold.lake) record bytes source)
    (hholds : HoldsBuild pipeline.goldFormats.sha256 s'.session.replica source
      (buildState pipeline.goldFormats.sha256 record bytes source inputs.now)) : LoaderStep s [] s'

theorem LoaderCall.step (call : LoaderCall pipeline) (s : Loader) :
    LoaderStep s (commandsOf [call]) (call.after s) := by
  cases call with
  | command call => exact .command call
  | sync inputs faults =>
    refine ends_of_wp (E := fun _ s' => @LoaderStep pipeline s [] s') ?_ faults
    refine wp_mono (wp_goldSyncPostgres pipeline.goldFormats inputs s) (fun _ s' h => ?_)
      (fun _ s' h => .idle h) (fun s' h => .idle h)
    obtain ⟨hlake, record, bytes, source, hcurrent, -, hholds⟩ := h
    exact .synced hlake hcurrent hholds
  | recreate faults =>
    refine ends_of_wp (E := fun _ s' => @LoaderStep pipeline s [] s') ?_ faults
    exact wp_mono (wp_recreateSchema s) (fun _ s' h => .emptied h.1 h.2) (fun _ s' h => .idle h)
      (fun s' h => .idle h)

/-- **The lake and the database after some processes**, one after the other. -/
def loaderAfter (calls : List (LoaderCall pipeline)) : Loader :=
  calls.foldl LoaderCall.after .empty

variable {calls : List (LoaderCall pipeline)} {commands : List (PipelineCall pipeline)}

theorem loaderAfter_concat (call : LoaderCall pipeline) :
    loaderAfter (calls ++ [call]) = call.after (loaderAfter calls) := by
  rw [loaderAfter, List.foldl_concat]
  rfl

theorem commandsOf_concat (call : LoaderCall pipeline) :
    commandsOf (calls ++ [call]) = commandsOf calls ++ commandsOf [call] :=
  List.filterMap_append

/-- The lake is what the commands have made of it. -/
theorem LoaderStep.lake_eq {s s' : Loader} {earlier new : List (PipelineCall pipeline)}
    (h : LoaderStep s new s') (hs : s.lake = lakeAfter earlier) :
    s'.lake = lakeAfter (earlier ++ new) := by
  cases h with
  | command call =>
    show call.after s.lake = _
    rw [lakeAfter_concat, hs]
  | idle hsame => rw [List.append_nil, hsame.lake, hs]
  | emptied hlake _ => rw [List.append_nil, hlake, hs]
  | synced hlake _ _ => rw [List.append_nil, hlake, hs]

/-- The lake does not depend on what the database goes through. -/
theorem lake_loaderAfter (calls : List (LoaderCall pipeline)) :
    (loaderAfter calls).lake = lakeAfter (commandsOf calls) := by
  induction calls using List.reverseRecOn with
  | nil => rfl
  | append_singleton calls call ih =>
    rw [loaderAfter_concat, commandsOf_concat]
    exact (call.step (loaderAfter calls)).lake_eq ih

/-! ## The origin of the rows -/

/-- **The database holds what a command has published**, of what was assembled of the Silver
of all series right then. -/
def ReplicaIsOf (commands : List (PipelineCall pipeline)) (db : Replica) : Prop :=
  ∃ earlier call later, commands = earlier ++ call :: later
    ∧ ∃ record gold, CanonicalGold pipeline (lakeAfter (earlier ++ [call])) gold
      ∧ GoldProgram.PublishedAs pipeline.goldFormats (call.inputs.publishCall gold)
        (lakeAfter (earlier ++ [call])).gold record
      ∧ HoldsGold pipeline.goldFormats db record gold

theorem ReplicaIsOf.append {db : Replica} (h : ReplicaIsOf commands db)
    (later : List (PipelineCall pipeline)) : ReplicaIsOf (commands ++ later) db := by
  obtain ⟨earlier, call, between, rfl, hrest⟩ := h
  exact ⟨earlier, call, between ++ later, by simp, hrest⟩

/-- What a synchronization reads of the current build is what the command that published it
has assembled. -/
theorem replicaIsOf_of_current {s : Loader} {db : Replica} {inputs : SyncInputs}
    {record : GoldCatalogRecord} {bytes : Bytes}
    {source : KeyedTable Timestamp (WideRow Float64 × Sha256Hex)}
    (hframe : pipeline.goldFormats.KeepsAssembled pipeline.writeCsv)
    (hlake : s.lake = lakeAfter commands)
    (hcurrent : CurrentBuild pipeline.goldFormats.sha256 (readFrame pipeline.goldFormats)
      (inputs.env pipeline.goldFormats s.lake.gold.lake) record bytes source)
    (hholds : HoldsBuild pipeline.goldFormats.sha256 db source
      (buildState pipeline.goldFormats.sha256 record bytes source inputs.now)) :
    ReplicaIsOf commands db := by
  obtain ⟨records, hcatalog, hselected⟩ := hcurrent.selected
  obtain ⟨hmem, hc⟩ := current_of_selected hselected
  have hrecord : record ∈ (lakeAfter commands).gold.lake.records := by
    rw [← hlake]
    exact (show records = s.lake.gold.lake.records from (readCatalog_eq_ok hcatalog).1) ▸ hmem
  obtain ⟨earlier, call, later, heq, ⟨gold, hcanonical, hpublished⟩, hbuilds⟩ :=
    hasOrigin_of_current hrecord hc
  obtain ⟨frames, hframes, hempty, hassembled⟩ := hcanonical
  obtain ⟨rfl, hrows⟩ := hpublished.currentBuild rfl (hframe _ _ hassembled)
    (hlake ▸ hbuilds) hcurrent
  exact ⟨earlier, call, later, heq, record, gold, ⟨frames, hframes, hempty, hassembled⟩, hpublished,
    source, inputs.now, hrows, hholds⟩

/-- Every synchronization that gets to its end brings the build that is current then. -/
theorem replica_loaderAfter (hframe : pipeline.goldFormats.KeepsAssembled pipeline.writeCsv)
    (calls : List (LoaderCall pipeline)) :
    (loaderAfter calls).session.replica = emptyReplica
      ∨ ReplicaIsOf (commandsOf calls) (loaderAfter calls).session.replica := by
  induction calls using List.reverseRecOn with
  | nil => exact .inl rfl
  | append_singleton calls call ih =>
    rw [loaderAfter_concat, commandsOf_concat]
    have hstep := call.step (loaderAfter calls)
    generalize commandsOf [call] = new at *
    generalize call.after (loaderAfter calls) = s' at *
    cases hstep with
    | command call => exact ih.imp_right (fun h => h.append _)
    | idle hsame => exact hsame.replica ▸ ih.imp_right (fun h => h.append _)
    | emptied _ hempty => exact .inl hempty
    | synced _ hcurrent hholds =>
      exact .inr ((replicaIsOf_of_current hframe (lake_loaderAfter calls) hcurrent hholds).append _)

/-- **The lake is that of the commands alone, and the database holds nothing, or the rows of
one published build**, after any commands, synchronizations and reconstructions of the schema,
whichever of them have failed or were killed between the commits of Bronze: of a build that one
of the commands has published, assembled of the Silver of all series right then. -/
theorem replica_has_origin (hframe : pipeline.goldFormats.KeepsAssembled pipeline.writeCsv)
    (calls : List (LoaderCall pipeline)) :
    (loaderAfter calls).lake = lakeAfter (commandsOf calls)
      ∧ ((loaderAfter calls).session.replica = emptyReplica
        ∨ ReplicaIsOf (commandsOf calls) (loaderAfter calls).session.replica) :=
  ⟨lake_loaderAfter calls, replica_loaderAfter hframe calls⟩

end Runs

/-- The first day, and the database after it. -/
theorem replica_has_origin_estr : ∃ (pipeline : DailyMedallionPipeline)
    (calls : List (LoaderCall pipeline)),
    (loaderAfter calls).session.replica ≠ emptyReplica
      ∧ ReplicaIsOf (commandsOf calls) (loaderAfter calls).session.replica := by
  obtain ⟨pipeline, pool, inputs, batch, bronze, hday, hready⟩ := exists_firstDay
  obtain ⟨ran, lake, hran, -, result, s, hsync, hjob, -⟩ := hday.exists_run hready
  let call : PipelineCall pipeline :=
    ⟨pool, hday.serves, inputs.command, .runDaily [] inputs.today, []⟩
  let calls : List (LoaderCall pipeline) := [.command call, .sync inputs.sync []]
  have hlake : call.after .empty = lake := congrArg (fun ended => ended.2.1) hran
  have hs : loaderAfter calls = s := by
    show (goldSyncPostgres pipeline.goldFormats inputs.sync
      { Loader.empty with lake := call.after .empty } []).2.1 = s
    rw [hlake, hsync]
  have hne : (loaderAfter calls).session.replica ≠ emptyReplica := hs ▸ hjob.ne_emptyReplica
  exact ⟨pipeline, calls, hne, (replica_has_origin hday.frames calls).2.resolve_left hne⟩

/-! ## The job -/

section Job

variable {pipeline : DailyMedallionPipeline} {pool : Pool} {s s' : Loader}

/-- The lake is in order, and the database is as it was. -/
def LeftAlone (pipeline : DailyMedallionPipeline) (s s' : Loader) : Prop :=
  MedallionInvariant pipeline s'.lake ∧ s'.session.replica = s.session.replica

theorem LeftAlone.trans {s₁ : Loader} (h : LeftAlone pipeline s s₁) (hsame : SameStored s₁ s') :
    LeftAlone pipeline s s' :=
  ⟨hsame.lake ▸ h.1, hsame.replica.trans h.2⟩

/-- **What is assembled of the Silver of a lake is told apart from what the database
holds**, if that is a build at all. -/
def NewsToldApart (pipeline : DailyMedallionPipeline) (s : Loader) : Prop :=
  ∀ gold lake₀ record₀ gold₀, CanonicalGold pipeline s.lake gold →
    CanonicalGold pipeline lake₀ gold₀ →
      HoldsGold pipeline.goldFormats s.session.replica record₀ gold₀ →
        ToldApart pipeline.goldFormats gold.frame gold₀.frame

/-- **After a daily run the synchronization succeeds**, after any commands, synchronizations
and reconstructions of the schema, whichever of them have failed or were killed between the
commits of Bronze: unless the database holds a build that the published one cannot be told
apart from. -/
theorem sync_succeeds_after_daily
    (hframe : pipeline.goldFormats.KeepsAssembled pipeline.writeCsv)
    (hmanifest : pipeline.goldFormats.KeepsManifests)
    (hregistry : ∀ series : Series, series.contract ∈ pipeline.seriesRegistry.contracts)
    (hserves : pool.Serves pipeline) (earlier : List (LoaderCall pipeline)) (inputs : JobInputs)
    (hready : inputs.sync.Ready) :
    wp (onPart Loader.lakePart (pipeline.runDaily pool inputs.command [] inputs.today))
      ⟨fun _ s₁ => NewsToldApart pipeline s₁ →
          SyncSucceeds pipeline inputs (loaderAfter earlier) s₁,
        fun _ _ => True, fun _ => True⟩ (loaderAfter earlier) := by
  have h : MedallionInvariant pipeline (loaderAfter earlier).lake :=
    lake_loaderAfter earlier ▸ medallionInvariant_lakeAfter _
  refine wp_onPart Loader.lakePart (wp_mono (wp_runDaily hserves h) ?_ (fun _ _ _ => trivial)
    (fun _ _ => trivial))
  rintro ran lake ⟨hkeeps, selected, hselected, hdone⟩ happart
  -- what the database holds, a command has published
  refine hdone.syncSucceeds hframe hmanifest hregistry hkeeps.invariant hselected hready
    ((replica_loaderAfter hframe earlier).imp_right ?_)
  rintro ⟨_, _, _, _, record₀, gold₀, hgold₀, _, hholds₀⟩
  exact ⟨record₀, gold₀, hholds₀, fun gold hgold => happart gold _ record₀ gold₀ hgold hgold₀ hholds₀⟩

/-- The synchronization of the first day succeeds. -/
theorem sync_succeeds_after_daily_first : ∃ (pipeline : DailyMedallionPipeline) (pool : Pool)
    (inputs : JobInputs) (ran : PipelineCommandResult) (s : Loader),
    onPart Loader.lakePart (pipeline.runDaily pool inputs.command [] inputs.today)
        (@loaderAfter pipeline []) [] = (.returned ran, s, [])
      ∧ SyncSucceeds pipeline inputs (@loaderAfter pipeline []) s := by
  obtain ⟨pipeline, pool, inputs, batch, bronze, hday, hready⟩ := exists_firstDay
  obtain ⟨ran, s, hrun, hsession⟩ : Succeeds (onPart Loader.lakePart
      (pipeline.runDaily pool inputs.command [] inputs.today)) Loader.empty
      (fun _ s => s.session = Loader.empty.session) := by
    obtain ⟨ran, lake, hran, -⟩ := hday.exists_run hready
    exact succeeds_onPart Loader.lakePart ⟨ran, lake, hran, rfl⟩
  have hend := sync_succeeds_after_daily hday.frames hday.manifests hday.registered hday.serves []
    inputs hready []
  rw [show onPart Loader.lakePart (pipeline.runDaily pool inputs.command [] inputs.today)
    (@loaderAfter pipeline []) [] = _ from hrun] at hend
  -- the database holds nothing
  refine ⟨pipeline, pool, inputs, ran, s, hrun, hend (fun gold lake₀ record₀ gold₀ _ _ hholds => ?_)⟩
  exact absurd (by rw [hsession]; rfl) hholds.ne_emptyReplica

end Job
