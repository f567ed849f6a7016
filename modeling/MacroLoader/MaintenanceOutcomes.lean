import MacroLoader.MaintenanceProtocol

/-!
# What the processes achieve

A process that holds the runner lock is the only one that changes the lake and the database, so
that what it has done stays done until it gives the lock back, whatever the others try in the
meantime. For a daily job that has succeeded this means that the database shows Bronze at that
moment. For a reconstruction it means that there is a backup, as long as it holds the lock and
has begun to change anything, of exactly what it has found: the dump and the copy of the lake
have been made one after the other, but nobody else was there to change either of them
(`points_justified`).
-/

open Program

variable {pipeline : DailyMedallionPipeline}

namespace Maintenance

/-! ## What holds at each point -/

/-- The pipeline of a daily job has run, from where it started to the lake as it is. -/
def DailyRan (job : DailyCall pipeline) (start s : Loader) : Prop :=
  ∃ selected ran, pipeline.resolveSeries [] = .ok selected
    ∧ DailyDone pipeline job.inputs.command selected job.inputs.today start.lake s.lake ran

/-- The backup of what a reconstruction has found. -/
def backupOf (start : Loader) : ReconstructionBackup := ⟨start.lake, start.session.replica⟩

/-- **What a process has done so far**, on the lake and the database as they are. -/
def Point.Justified (s : Loader) (backups : List ReconstructionBackup) : Point pipeline → Prop
  | .dailyUpdated job start | .working (.sync job start _) _ => DailyRan job start s
  | .dailySucceeded job start => pipeline.goldFormats.KeepsAssembled pipeline.writeCsv →
    ∃ result, JobDone pipeline job.inputs start s result
  | .locked start => s = start
  | .stages start rest => rest <:+ lockedStages
    ∧ if .backup ∈ rest then s = start else backupOf start ∈ backups
  | .working (.stage start _ rest _) _ => rest <:+ lockedStages ∧ .backup ∉ rest
    ∧ backupOf start ∈ backups
  | .enabled start | .released start => backupOf start ∈ backups
  | _ => True

/-- Nothing is said of who does not hold the lock. -/
theorem Point.justified_of_not_holds {s : Loader} {backups : List ReconstructionBackup}
    {point : Point pipeline} (h : point.holds = false) : point.Justified s backups := by
  cases point <;> trivial

/-- A stage that changes something comes after the backup. -/
theorem backup_notMem_of_does {current : ReconstructionStage} {rest : List ReconstructionStage}
    {call : LoaderCall pipeline} (h : current :: rest <:+ lockedStages)
    (hdoes : Task.Does current call) : ReconstructionStage.backup ∉ current :: rest := by
  have hmem : current :: rest ∈ lockedStages.tails := (List.mem_tails _ _).mpr h
  simp only [lockedStages, ReconstructionStage.all, List.drop, List.tails, List.mem_cons,
    List.cons.injEq, List.not_mem_nil, or_false, reduceCtorEq] at hmem
  rcases hmem with ⟨rfl, rfl⟩ | ⟨rfl, rfl⟩ | ⟨rfl, rfl⟩ | ⟨rfl, rfl⟩ | ⟨rfl, rfl⟩ | ⟨rfl, rfl⟩
    | ⟨rfl, rfl⟩ | ⟨rfl, rfl⟩ | ⟨rfl, rfl⟩ | ⟨rfl, rfl⟩ <;> first | cases hdoes | decide

section Calls

variable {s : Loader} {start : Loader} {job : DailyCall pipeline} {faults : List (Fault PyError)}

/-- A daily run that returns has done what it is for. -/
theorem dailyRan_of_returns (hinvariant : MedallionInvariant pipeline s.lake)
    (hreturns : (Task.update job faults).loaderCall.Returns s) :
    DailyRan job s ((Task.update job faults).loaderCall.after s) := by
  obtain ⟨result, hresult⟩ := hreturns
  obtain ⟨selected, hselected, hdone⟩ := (PipelineCall.correct _ hinvariant).2 result hresult
  exact ⟨selected, result, hselected, hdone⟩

/-- So has the synchronization after it. -/
theorem jobDone_of_returns (hframe : pipeline.goldFormats.KeepsAssembled pipeline.writeCsv)
    (hinvariant : MedallionInvariant pipeline s.lake) (hran : DailyRan job start s)
    (hreturns : (Task.sync job start faults).loaderCall.Returns s) :
    ∃ result, JobDone pipeline job.inputs start
      ((Task.sync job start faults).loaderCall.after s) result := by
  obtain ⟨selected, ran, hselected, hdone⟩ := hran
  obtain ⟨result, hresult⟩ := hreturns
  refine ⟨result, ends_of_wp (E := fun outcome s' => outcome = .returned result →
    JobDone pipeline job.inputs start s' result) (wp_mono (wp_goldSyncPostgres
      pipeline.goldFormats job.inputs.sync s) ?_ (fun _ _ _ h => by cases h)
      (fun _ _ h => by cases h)) faults hresult⟩
  rintro _ s' ⟨hlake, record, bytes, source, hcurrent, hid, hholds⟩ hreturned
  obtain rfl := Outcome.returned.inj hreturned
  exact hdone.jobDone hframe hselected hinvariant.wellFormedCatalog hlake hcurrent hid hholds

end Calls

/-! ## What is kept by every step -/

section Steps

variable {t t' : System pipeline} {p q : ProcessId} {point : Point pipeline} {site : Site}

/-- **Every process** has done so far what its point says. -/
def Justified (t : System pipeline) : Prop :=
  ∀ p, (t.points p).Justified t.site.loader t.site.backups

theorem justified_initial : Justified (System.initial : System pipeline) := fun _ => trivial

/-- A process goes on, and changes nothing that the others have to do with. -/
theorem Justified.goTo (h : Justified t) (hself : point.Justified site.loader site.backups)
    (hloader : site.loader = t.site.loader) (hbackups : site.backups = t.site.backups) :
    Justified (t.goTo p point site) := by
  intro q
  by_cases hpq : q = p
  · subst hpq
    rw [goTo_points_self]
    exact hself
  · rw [goTo_points_of_ne hpq]
    show (t.points q).Justified site.loader site.backups
    rw [hloader, hbackups]
    exact h q

/-- The process that has the lock goes on, and changes what it likes: nothing is said of the
others. -/
theorem justified_goTo_holder (hlock : HoldersLocked t) (hp : (t.points p).holds = true)
    (hself : point.Justified site.loader site.backups) : Justified (t.goTo p point site) := by
  intro q
  by_cases hpq : q = p
  · subst hpq
    rw [goTo_points_self]
    exact hself
  · rw [goTo_points_of_ne hpq]
    refine Point.justified_of_not_holds (Bool.eq_false_iff.mpr (fun hq => ?_))
    exact hpq (hlock.unique hq hp)

/-- Which calls are finished and whether a reconstruction is does not matter. -/
theorem Justified.congr (h : Justified t) (hpoints : t'.points = t.points)
    (hsite : t'.site = t.site) : Justified t' := by
  intro p
  rw [hpoints, hsite]
  exact h p

theorem Step.justified (hreach : Reachable t) (h : Justified t) (hstep : Step p t t') :
    Justified t' := by
  have hlock := hreach.consistent.holders
  have hinvariant := hreach.medallionInvariant
  have hpoint : ∀ {point}, t.points p = point → point.Justified t.site.loader t.site.backups :=
    fun hp => hp ▸ h p
  have hseen : ∀ {task seen}, t.points p = .working task seen → seen = t.site.loader := fun hp =>
    hreach.serial.seen p _ _ (congrArg Point.work hp)
  cases hstep with
  | startDaily job hp => exact h.goTo trivial rfl rfl
  | lockDaily hp hfree => exact h.goTo trivial rfl rfl
  | checkDaily hp hmarker => exact h.goTo trivial rfl rfl
  | start hp => exact h.goTo trivial rfl rfl
  | disable hp => exact h.goTo trivial rfl rfl
  | lock hp hfree => exact h.goTo rfl rfl rfl
  | lockMaintenance hp hfree => exact h.goTo ⟨List.suffix_rfl, hpoint hp⟩ rfl rfl
  | @look start stage rest hp hlooking =>
    obtain ⟨hsuffix, hbackup⟩ := hpoint hp
    refine h.goTo ⟨(List.suffix_cons stage rest).trans hsuffix, ?_⟩ rfl rfl
    have hne : ReconstructionStage.backup ≠ stage := fun hstage => by
      rw [← hstage] at hlooking
      revert hlooking
      decide
    simpa only [List.mem_cons, hne, false_or] using hbackup
  | @backup start rest hp =>
    obtain ⟨hsuffix, hbackup⟩ := hpoint hp
    refine justified_goTo_holder hlock (by rw [hp]; rfl)
      ⟨(List.suffix_cons _ rest).trans hsuffix, ?_⟩
    -- there is one backup, and until then nothing has changed
    rw [if_pos List.mem_cons_self] at hbackup
    rw [if_neg (List.nodup_cons.mp (hsuffix.sublist.nodup (by decide))).1, ← hbackup]
    exact List.mem_cons_self
  | begin task hallowed hp =>
    have h' : Justified (t.goTo p (.working task t.site.loader) t.site) := by
      refine h.goTo ?_ rfl rfl
      cases task with
      | update job faults => trivial
      | sync job start faults =>
        have hran : (Point.dailyUpdated job start).Justified t.site.loader t.site.backups :=
          hpoint hp
        exact hran
      | stage start current rest call =>
        obtain ⟨hsuffix, hbackup⟩ := hpoint hp
        have hpassed := backup_notMem_of_does hsuffix hallowed
        rw [if_neg hpassed] at hbackup
        exact ⟨(List.suffix_cons current rest).trans hsuffix,
          fun hmem => hpassed (List.mem_cons_of_mem _ hmem), hbackup⟩
    exact h'.congr rfl rfl
  | @finish task seen hp hreturns =>
    obtain rfl := hseen hp
    have h' : Justified (t.goTo p (task.next t.site.loader)
        { t.site with loader := task.loaderCall.after t.site.loader }) := by
      refine justified_goTo_holder hlock (by rw [hp]; rfl) ?_
      cases task with
      | update job faults => exact dailyRan_of_returns hinvariant hreturns
      | sync job start faults =>
        exact fun hframe => jobDone_of_returns hframe hinvariant (hpoint hp) hreturns
      | stage start current rest call =>
        obtain ⟨hsuffix, hpassed, hbackup⟩ := hpoint hp
        exact ⟨hsuffix, by rwa [if_neg hpassed]⟩
    exact h'.congr rfl rfl
  | @fail task seen hp hreturns =>
    have h' : Justified (t.goTo p .ended
        ({ t.site with loader := task.loaderCall.after seen }.exit p)) :=
      justified_goTo_holder hlock (by rw [hp]; rfl) trivial
    exact h'.congr rfl rfl
  | @enable start hp hmarker =>
    have h' : Justified (t.goTo p (.enabled start) { t.site with marker := false }) :=
      h.goTo (hpoint hp).2 rfl rfl
    exact h'.congr rfl rfl
  | @release start hp =>
    have hbackup : (Point.enabled start).Justified t.site.loader t.site.backups := hpoint hp
    exact h.goTo hbackup rfl rfl
  | exit hp => exact h.goTo trivial rfl rfl
  | dropped => exact h

theorem Reachable.justified (h : Reachable t) : Justified t := by
  induction h with
  | refl => exact justified_initial
  | tail hreach hstep ih =>
    obtain ⟨p, hstep⟩ := hstep
    exact hstep.justified hreach ih

/-- **What the processes have done when they have come so far**, however the steps of the others
interleave with their own and wherever they are killed between the commits of Bronze. A daily
job that has succeeded and holds the lock has done the daily run, the database holds the build
that this has published, and, if the hash tells the rows apart, it shows for every series what
Bronze has. A reconstruction that is at a stage that changes the lake or the database, or past
all of them, has made a complete backup of the lake and the database as it has found them. -/
theorem points_justified (hframe : pipeline.goldFormats.KeepsAssembled pipeline.writeCsv)
    (h : Reachable t) :
    (∀ p job start, t.points p = .dailySucceeded job start →
        ∃ result, JobDone pipeline job.inputs start t.site.loader result)
      ∧ ∀ p start, (∃ stage rest call seen,
          t.points p = .working (.stage start stage rest call) seen) ∨ t.points p = .enabled start →
        backupOf start ∈ t.site.backups := by
  constructor
  · intro p job start hp
    have hjustified := h.justified p
    rw [hp] at hjustified
    exact hjustified hframe
  · rintro p start (⟨stage, rest, call, seen, hp⟩ | hp)
    · have hjustified := h.justified p
      rw [hp] at hjustified
      exact hjustified.2.2
    · have hjustified := h.justified p
      rw [hp] at hjustified
      exact hjustified

/-- The daily job of the first day, and the reconstruction after it. -/
theorem points_justified_begun :
    (∃ (pipeline : DailyMedallionPipeline) (t : System pipeline) (job : DailyCall pipeline)
      (result : GoldSyncResult), t.points 1 = .dailySucceeded job .empty
        ∧ JobDone pipeline job.inputs .empty t.site.loader result)
    ∧ ∃ (pipeline : DailyMedallionPipeline) (t : System pipeline) (start : Loader)
      (stage : ReconstructionStage) (rest : List ReconstructionStage) (call : LoaderCall pipeline)
      (seen : Loader), t.points 2 = .working (.stage start stage rest call) seen
        ∧ start.session.replica ≠ emptyReplica ∧ backupOf start ∈ t.site.backups := by
  constructor
  · obtain ⟨pipeline, job, t, hframe, h, hpoint, -⟩ := exists_firstJob
    obtain ⟨result, hdone⟩ := (points_justified hframe h.reachable).1 1 job .empty hpoint
    exact ⟨pipeline, t, job, result, hpoint, hdone⟩
  · obtain ⟨pipeline, t, start, stage, rest, call, seen, hframe, h, -, hne, hworks⟩ :=
      exists_firstReconstruction
    exact ⟨pipeline, t, start, stage, rest, call, seen, hworks, hne,
      (points_justified hframe h.reachable).2 2 start (.inl ⟨stage, rest, call, seen, hworks⟩)⟩

end Steps

end Maintenance
