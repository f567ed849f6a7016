import MacroLoader.ExclusiveWork
import MacroLoader.GuardedReconstruction

/-!
# The maintenance protocol

Daily jobs and reconstructions are started at any time, by the scheduler and by hand, and any
of them may be killed, at any step but the middle of a commit of Bronze. A daily job takes the
runner lock and then looks for the marker; a reconstruction sets the marker and then takes the
runner lock. The lake and the database are worked on under the lock only, so that whatever the
order of the steps, they are what the finished commands make one after the other
(`protocol_serial`).

The marker outlives the process that has set it, which is what it is for: after a
reconstruction that has failed, no daily job runs. It has one owner too few, though. A second
reconstruction that comes too early does not set the marker, which is there, and if it then
gets the lock from the first one, the first one has taken the marker away. So the protocol
keeps the daily job out of what a reconstruction has begun to change where no marker is taken
away while another reconstruction waits for the lock (`fail_closed`). That is a condition on the
run, which the scripts themselves do not see to.
-/

open Program

variable {pipeline : DailyMedallionPipeline}

/-- Whether a process of the loader has done what it was started for. -/
def LoaderCall.Returns (s : Loader) : LoaderCall pipeline → Prop
  | .command call => ∃ result, call.outcome s.lake = .returned result
  | .sync inputs faults =>
    ∃ result, (goldSyncPostgres pipeline.goldFormats inputs s faults).1 = .returned result
  | .recreate faults => (recreateSchema s faults).1 = .returned ()

namespace Maintenance

/-! ## The parties -/

/-- **A task**, which takes time: the pipeline or the synchronization of a daily job, or a
stage of a reconstruction. With it goes what there was when the job, or the reconstruction,
got the lock. -/
inductive Task (pipeline : DailyMedallionPipeline)
  | update (job : DailyCall pipeline) (faults : List (Fault PyError))
  | sync (job : DailyCall pipeline) (start : Loader) (faults : List (Fault PyError))
  | stage (start : Loader) (stage : ReconstructionStage) (rest : List ReconstructionStage)
    (call : LoaderCall pipeline)

/-- **How far a process is.** -/
inductive Point (pipeline : DailyMedallionPipeline)
  | ended
  | dailyStarted (job : DailyCall pipeline)
  | dailyLocked (job : DailyCall pipeline)
  | dailyEnabled (job : DailyCall pipeline)
  | dailyUpdated (job : DailyCall pipeline) (start : Loader)
  | dailySucceeded (job : DailyCall pipeline) (start : Loader)
  | started
  | marked
  | locked (start : Loader)
  | stages (start : Loader) (rest : List ReconstructionStage)
  | enabled (start : Loader)
  | released (start : Loader)
  | working (task : Task pipeline) (seen : Loader)

/-- Whether a process that is so far holds the runner lock. -/
def Point.holds : Point pipeline → Bool
  | .ended | .dailyStarted _ | .started | .marked => false
  | _ => true

namespace Task

/-- The process that does the task. -/
def loaderCall : Task pipeline → LoaderCall pipeline
  | update job faults =>
    .command ⟨job.pool, job.serves, job.inputs.command, .runDaily [] job.inputs.today, faults⟩
  | sync job _ faults => .sync job.inputs.sync faults
  | stage _ _ _ call => call

/-- Where the task begins. -/
def before : Task pipeline → Point pipeline
  | update job _ => .dailyEnabled job
  | sync job start _ => .dailyUpdated job start
  | stage start current rest _ => .stages start (current :: rest)

/-- Where it leads, if it is done. -/
def next (seen : Loader) : Task pipeline → Point pipeline
  | update job _ => .dailyUpdated job seen
  | sync job start _ => .dailySucceeded job start
  | stage start _ rest _ => .stages start rest

/-- Whether it is one of a reconstruction. -/
def isStage : Task pipeline → Bool
  | update .. | sync .. => false
  | stage .. => true

/-- Whether a call is what a stage of a reconstruction does. -/
def Does : ReconstructionStage → LoaderCall pipeline → Prop
  | .reconcile, .command call => ∃ today, call.command = .reconcile SeriesRegistry.canonical.ids today
  | .silver, .command call => call.command = .silverBuild SeriesRegistry.canonical.ids
  | .gold, .command call => call.command = .goldBuild
  | .schema, .recreate _ => True
  | .publication, .sync _ _ => True
  | .replay, .sync _ _ => True
  | _, _ => False

/-- Whether a task is one that a process may have. -/
def Allowed : Task pipeline → Prop
  | stage _ current _ call => Does current call
  | _ => True

end Task

/-- The stages that only look, and can be passed without a task. -/
def looking : List ReconstructionStage := [.endpoint, .verification, .dailyWrapper]

/-- The stages under the locks. -/
def lockedStages : List ReconstructionStage := ReconstructionStage.all.drop 2

/-! ## The system -/

/-- **The machine, and the processes on it**, with the calls that are finished, and whether a
reconstruction has begun to change something and none has passed since. -/
structure System (pipeline : DailyMedallionPipeline) where
  site : Site
  points : ProcessId → Point pipeline
  finished : List (LoaderCall pipeline)
  unfinished : Bool

namespace System

/-- No process, and nothing there. -/
def initial : System pipeline := ⟨.initial, fun _ => .ended, [], false⟩

/-- A process goes on to a point, with what it changes on the machine. -/
def goTo (t : System pipeline) (p : ProcessId) (point : Point pipeline) (site : Site) :
    System pipeline :=
  { t with
    site := site
    points := Function.update t.points p point }

end System

/-- **What a process can do**, one step at a time. It may end at each point, because it has
failed, or is killed, or has nothing left to do; in the middle of a task it ends as the task
does, which is never killed in the middle of a commit of Bronze. -/
inductive Step (p : ProcessId) : System pipeline → System pipeline → Prop
  | startDaily {t : System pipeline} (job : DailyCall pipeline) (h : t.points p = .ended) :
    Step p t (t.goTo p (.dailyStarted job) t.site)
  | lockDaily {t : System pipeline} {job : DailyCall pipeline}
    (h : t.points p = .dailyStarted job) (hfree : t.site.runnerLock = none) :
    Step p t (t.goTo p (.dailyLocked job) { t.site with runnerLock := some p })
  | checkDaily {t : System pipeline} {job : DailyCall pipeline}
    (h : t.points p = .dailyLocked job) (hmarker : t.site.marker = false) :
    Step p t (t.goTo p (.dailyEnabled job) t.site)
  | start {t : System pipeline} (h : t.points p = .ended) : Step p t (t.goTo p .started t.site)
  | disable {t : System pipeline} (h : t.points p = .started) :
    Step p t (t.goTo p .marked { t.site with marker := true })
  | lock {t : System pipeline} (h : t.points p = .marked) (hfree : t.site.runnerLock = none) :
    Step p t (t.goTo p (.locked t.site.loader) { t.site with runnerLock := some p })
  | lockMaintenance {t : System pipeline} {start : Loader} (h : t.points p = .locked start)
    (hfree : t.site.maintenanceLock = none) :
    Step p t (t.goTo p (.stages start lockedStages) { t.site with maintenanceLock := some p })
  | look {t : System pipeline} {start : Loader} {stage : ReconstructionStage}
    {rest : List ReconstructionStage} (h : t.points p = .stages start (stage :: rest))
    (hlooking : stage ∈ looking) : Step p t (t.goTo p (.stages start rest) t.site)
  | backup {t : System pipeline} {start : Loader} {rest : List ReconstructionStage}
    (h : t.points p = .stages start (.backup :: rest)) :
    Step p t (t.goTo p (.stages start rest)
      { t.site with backups := t.site.backup :: t.site.backups })
  | begin {t : System pipeline} (task : Task pipeline) (hallowed : task.Allowed)
    (h : t.points p = task.before) :
    Step p t { t.goTo p (.working task t.site.loader) t.site with
      unfinished := t.unfinished || task.isStage }
  | finish {t : System pipeline} {task : Task pipeline} {seen : Loader}
    (h : t.points p = .working task seen) (hreturns : task.loaderCall.Returns seen) :
    Step p t { t.goTo p (task.next seen) { t.site with loader := task.loaderCall.after seen } with
      finished := t.finished ++ [task.loaderCall] }
  | fail {t : System pipeline} {task : Task pipeline} {seen : Loader}
    (h : t.points p = .working task seen) (hreturns : ¬ task.loaderCall.Returns seen) :
    Step p t { t.goTo p .ended ({ t.site with loader := task.loaderCall.after seen }.exit p) with
      finished := t.finished ++ [task.loaderCall] }
  | enable {t : System pipeline} {start : Loader} (h : t.points p = .stages start [])
    (hmarker : t.site.marker = true) :
    Step p t { t.goTo p (.enabled start) { t.site with marker := false } with unfinished := false }
  | release {t : System pipeline} {start : Loader} (h : t.points p = .enabled start) :
    Step p t (t.goTo p (.released start) (t.site.freeMaintenanceLock p))
  | exit {t : System pipeline} (h : ∀ task seen, t.points p ≠ .working task seen) :
    Step p t (t.goTo p .ended (t.site.exit p))
  | dropped {t : System pipeline} : Step p t { t with site := { t.site with maintenanceLock := none } }

/-- Some process does something. -/
def SomeStep (t t' : System pipeline) : Prop := ∃ p, Step p t t'

/-- What the processes can do from here on, in any order. -/
abbrev Leads (t t' : System pipeline) : Prop := Relation.ReflTransGen SomeStep t t'

/-- What they can do from the beginning on. -/
def Reachable (t : System pipeline) : Prop := Leads .initial t

theorem Step.leads {p : ProcessId} {t t' : System pipeline} (h : Step p t t') : Leads t t' :=
  .single ⟨p, h⟩

/-! ## The runner lock -/

section Lock

variable {t t' : System pipeline} {p q : ProcessId} {point : Point pipeline} {site : Site}

theorem goTo_points_of_ne (h : q ≠ p) : (t.goTo p point site).points q = t.points q :=
  Function.update_of_ne h _ _

theorem goTo_points_self : (t.goTo p point site).points p = point := Function.update_self _ _ _

/-- Who is at work has the lock. -/
def HoldersLocked (t : System pipeline) : Prop :=
  ∀ p, (t.points p).holds = true → t.site.runnerLock = some p

theorem HoldersLocked.unique (h : HoldersLocked t) (hp : (t.points p).holds = true)
    (hq : (t.points q).holds = true) : p = q :=
  Option.some.inj ((h p hp).symm.trans (h q hq))

/-- A step of one process keeps the lock where it is, if another one has it. -/
theorem HoldersLocked.goTo (h : HoldersLocked t)
    (hself : point.holds = true → site.runnerLock = some p)
    (hothers : ∀ q ≠ p, t.site.runnerLock = some q → site.runnerLock = some q) :
    HoldersLocked (t.goTo p point site) := by
  intro q hq
  by_cases hpq : q = p
  · subst hpq
    exact hself (by rwa [goTo_points_self] at hq)
  · exact hothers q hpq (h q (by rwa [goTo_points_of_ne hpq] at hq))

theorem exit_runnerLock_of_ne (h : q ≠ p) (hq : site.runnerLock = some q) :
    (site.exit p).runnerLock = some q := by
  show (if site.runnerLock = some p then none else site.runnerLock) = some q
  rw [if_neg (fun hp => h (Option.some.inj (hq.symm.trans hp))), hq]

theorem Step.holdersLocked (h : HoldersLocked t) (hstep : Step p t t') : HoldersLocked t' := by
  have hkeep : ∀ q ≠ p, t.site.runnerLock = some q → t.site.runnerLock = some q := fun _ _ hq => hq
  have hexit : ∀ (site : Site), site.runnerLock = t.site.runnerLock → ∀ q ≠ p,
      t.site.runnerLock = some q → (site.exit p).runnerLock = some q := fun site hsite q hq hlock =>
    exit_runnerLock_of_ne hq (hsite.trans hlock)
  -- a process that goes on has the lock if it had it
  have hself : ∀ {point}, t.points p = point → point.holds = true →
      t.site.runnerLock = some p := fun hpoint hholds => h p (hpoint ▸ hholds)
  cases hstep with
  | startDaily job hp => exact h.goTo (fun hfalse => by cases hfalse) hkeep
  | lockDaily hp hfree =>
    exact h.goTo (fun _ => rfl) (fun q _ hq => by cases hfree.symm.trans hq)
  | checkDaily hp hmarker => exact h.goTo (fun _ => hself hp rfl) hkeep
  | start hp => exact h.goTo (fun hfalse => by cases hfalse) hkeep
  | disable hp => exact h.goTo (fun hfalse => by cases hfalse) hkeep
  | lock hp hfree => exact h.goTo (fun _ => rfl) (fun q _ hq => by cases hfree.symm.trans hq)
  | lockMaintenance hp hfree => exact h.goTo (fun _ => hself hp rfl) hkeep
  | look hp hlooking => exact h.goTo (fun _ => hself hp rfl) hkeep
  | backup hp => exact h.goTo (fun _ => hself hp rfl) hkeep
  | begin task hallowed hp =>
    exact h.goTo (fun _ => hself hp (by cases task <;> rfl)) hkeep
  | finish hp hreturns => exact h.goTo (fun _ => hself hp rfl) hkeep
  | fail hp hreturns => exact h.goTo (fun hfalse => by cases hfalse) (hexit _ rfl)
  | enable hp hmarker => exact h.goTo (fun _ => hself hp rfl) hkeep
  | release hp => exact h.goTo (fun _ => hself hp rfl) hkeep
  | exit hp => exact h.goTo (fun hfalse => by cases hfalse) (hexit _ rfl)
  | dropped => exact h

theorem HoldersLocked.leads (h : HoldersLocked t) (hleads : Leads t t') : HoldersLocked t' := by
  induction hleads with
  | refl => exact h
  | tail _ hstep ih =>
    obtain ⟨p, hstep⟩ := hstep
    exact hstep.holdersLocked ih

/-- No lock is left behind. -/
structure LocksHeld (t : System pipeline) : Prop where
  runner : ∀ p, t.site.runnerLock = some p → (t.points p).holds = true
  maintenance : ∀ p, t.site.maintenanceLock = some p → (t.points p).holds = true

/-- Only the machine and the points matter. -/
theorem LocksHeld.congr (h : LocksHeld t) (hsite : t'.site = t.site)
    (hpoints : t'.points = t.points) : LocksHeld t' :=
  ⟨hsite ▸ hpoints ▸ h.runner, hsite ▸ hpoints ▸ h.maintenance⟩

/-- A process that goes on with the lock that it has. -/
theorem LocksHeld.goTo (h : LocksHeld t)
    (hholds : (t.points p).holds = true → point.holds = true)
    (hrunner : ∀ q, site.runnerLock = some q → t.site.runnerLock = some q ∨ q = p ∧ point.holds = true)
    (hmaintenance : ∀ q, site.maintenanceLock = some q →
      t.site.maintenanceLock = some q ∨ q = p ∧ point.holds = true) :
    LocksHeld (t.goTo p point site) := by
  have hpoint : ∀ q, (t.points q).holds = true ∨ q = p ∧ point.holds = true →
      ((t.goTo p point site).points q).holds = true := by
    intro q hq
    by_cases hpq : q = p
    · subst hpq
      rw [goTo_points_self]
      exact hq.elim hholds And.right
    · rw [goTo_points_of_ne hpq]
      exact hq.resolve_right (fun hself => hpq hself.1)
  exact ⟨fun q hq => hpoint q ((hrunner q hq).imp_left (h.runner q)),
    fun q hq => hpoint q ((hmaintenance q hq).imp_left (h.maintenance q))⟩

/-- A process that ends. -/
theorem LocksHeld.goTo_exit (h : LocksHeld t) (hrunner : site.runnerLock = t.site.runnerLock)
    (hmaintenance : site.maintenanceLock = t.site.maintenanceLock) :
    LocksHeld (t.goTo p .ended (site.exit p)) := by
  have hfreed : ∀ {lock : Option ProcessId} {q : ProcessId},
      (if lock = some p then none else lock) = some q → q ≠ p ∧ lock = some q := by
    intro lock q hq
    split_ifs at hq with hlock
    exact ⟨fun hpq => hlock (hpq ▸ hq), hq⟩
  constructor
  · intro q hq
    obtain ⟨hpq, hq⟩ := hfreed hq
    rw [goTo_points_of_ne hpq]
    exact h.runner q (hrunner ▸ hq)
  · intro q hq
    obtain ⟨hpq, hq⟩ := hfreed hq
    rw [goTo_points_of_ne hpq]
    exact h.maintenance q (hmaintenance ▸ hq)

theorem Step.locksHeld (h : LocksHeld t) (hstep : Step p t t') : LocksHeld t' := by
  cases hstep with
  | startDaily job hp => exact h.goTo (by rw [hp]; exact id) (fun _ => .inl) (fun _ => .inl)
  | lockDaily hp hfree =>
    exact h.goTo (fun _ => rfl) (fun q hq => .inr ⟨(Option.some.inj hq).symm, rfl⟩) (fun _ => .inl)
  | checkDaily hp hmarker => exact h.goTo (fun _ => rfl) (fun _ => .inl) (fun _ => .inl)
  | start hp => exact h.goTo (by rw [hp]; exact id) (fun _ => .inl) (fun _ => .inl)
  | disable hp => exact h.goTo (by rw [hp]; exact id) (fun _ => .inl) (fun _ => .inl)
  | lock hp hfree =>
    exact h.goTo (fun _ => rfl) (fun q hq => .inr ⟨(Option.some.inj hq).symm, rfl⟩) (fun _ => .inl)
  | lockMaintenance hp hfree =>
    exact h.goTo (fun _ => rfl) (fun _ => .inl) (fun q hq => .inr ⟨(Option.some.inj hq).symm, rfl⟩)
  | look hp hlooking => exact h.goTo (fun _ => rfl) (fun _ => .inl) (fun _ => .inl)
  | backup hp => exact h.goTo (fun _ => rfl) (fun _ => .inl) (fun _ => .inl)
  | begin task hallowed hp =>
    have h' : LocksHeld (t.goTo p (.working task t.site.loader) t.site) :=
      h.goTo (fun _ => rfl) (fun _ => .inl) (fun _ => .inl)
    exact h'.congr rfl rfl
  | @finish task seen hp hreturns =>
    have hnext : (task.next seen).holds = true := by cases task <;> rfl
    have h' : LocksHeld (t.goTo p (task.next seen)
        { t.site with loader := task.loaderCall.after seen }) :=
      h.goTo (fun _ => hnext) (fun _ => .inl) (fun _ => .inl)
    exact h'.congr rfl rfl
  | @fail task seen hp hreturns =>
    have h' := @LocksHeld.goTo_exit _ _ p { t.site with loader := task.loaderCall.after seen } h
      rfl rfl
    exact h'.congr rfl rfl
  | @enable start hp hmarker =>
    have h' : LocksHeld (t.goTo p (.enabled start) { t.site with marker := false }) :=
      h.goTo (fun _ => rfl) (fun _ => .inl) (fun _ => .inl)
    exact h'.congr rfl rfl
  | release hp =>
    refine h.goTo (fun _ => rfl) (fun _ => .inl) (fun q hq => .inl ?_)
    replace hq : (if t.site.maintenanceLock = some p then none else t.site.maintenanceLock)
      = some q := hq
    split_ifs at hq
    exact hq
  | exit hp => exact h.goTo_exit rfl rfl
  | dropped => exact ⟨h.runner, fun q hq => (by cases hq)⟩

theorem LocksHeld.leads (h : LocksHeld t) (hleads : Leads t t') : LocksHeld t' := by
  induction hleads with
  | refl => exact h
  | tail _ hstep ih =>
    obtain ⟨p, hstep⟩ := hstep
    exact hstep.locksHeld ih

/-- **The locks are where they belong**: who is at work has the runner lock, and who has a lock
is at work. -/
structure Consistent (t : System pipeline) : Prop where
  holders : HoldersLocked t
  held : LocksHeld t

theorem Consistent.leads (h : Consistent t) (hleads : Leads t t') : Consistent t' :=
  ⟨h.holders.leads hleads, h.held.leads hleads⟩

theorem consistent_initial : Consistent (System.initial : System pipeline) :=
  ⟨fun p hfalse => (by cases hfalse), fun p hp => (by cases hp), fun p hp => (by cases hp)⟩

theorem Reachable.consistent (h : Reachable t) : Consistent t := consistent_initial.leads h

/-! ## One after the other -/

open ExclusiveWork

/-- The task of a process in the middle of it, with what it has seen. -/
def Point.work : Point pipeline → Option (LoaderCall pipeline × Loader)
  | .working task seen => some (task.loaderCall, seen)
  | _ => none

/-- **What the lock is about**, of a system: the lake and the database, who holds the lock, and
the tasks. -/
def workOf (t : System pipeline) : Work ProcessId Loader (LoaderCall pipeline) :=
  ⟨t.site.loader, t.site.runnerLock, fun p => (t.points p).work, t.finished⟩

/-- What a finished call leaves. -/
def leaves (call : LoaderCall pipeline) (seen : Loader) : Loader := call.after seen

theorem workOf_goTo : workOf (t.goTo p point site)
    = ⟨site.loader, site.runnerLock, Function.update (workOf t).working p point.work,
      t.finished⟩ := by
  refine congrArg (fun working => Work.mk site.loader site.runnerLock working t.finished) ?_
  funext q
  by_cases hpq : q = p
  · subst hpq
    rw [goTo_points_self, Function.update_self]
  · rw [goTo_points_of_ne hpq, Function.update_of_ne hpq]
    rfl

/-- A process that was at no task is at none. -/
theorem workOf_goTo_idle (hp : (t.points p).work = none) (hpoint : point.work = none) :
    workOf (t.goTo p point site) = { workOf t with
      shared := site.loader
      holder := site.runnerLock } := by
  rw [workOf_goTo, hpoint, show Function.update (workOf t).working p none = (workOf t).working from
    (hp ▸ Function.update_eq_self p (workOf t).working)]
  rfl

/-- A process whose task is finished. -/
theorem workOf_finish (hpoint : point.work = none) (finished : List (LoaderCall pipeline)) :
    workOf { t.goTo p point site with finished := finished }
      = ⟨site.loader, site.runnerLock, Function.update (workOf t).working p none, finished⟩ := by
  have h : workOf (t.goTo p point site) = _ := workOf_goTo
  rw [hpoint] at h
  exact congrArg (fun w : Work ProcessId Loader (LoaderCall pipeline) =>
    { w with finished := finished }) h

/-- A step that has nothing to do with the lock. -/
theorem steps_idle (hp : (t.points p).work = none) (hpoint : point.work = none)
    (hloader : site.loader = t.site.loader) (hlock : site.runnerLock = t.site.runnerLock) :
    Work.Steps leaves (workOf t) (workOf (t.goTo p point site)) := by
  rw [workOf_goTo_idle hp hpoint, hloader, hlock]
  exact .refl

/-- A process that ends gives the lock back, if it has it. -/
theorem steps_exit {w : Work ProcessId Loader (LoaderCall pipeline)} (hidle : w.working p = none)
    (hsite : site.runnerLock = w.holder) :
    Work.Steps leaves w { w with holder := (site.exit p).runnerLock } := by
  have hlock : (site.exit p).runnerLock = if w.holder = some p then none else w.holder := by
    rw [← hsite]
    rfl
  rw [hlock]
  split_ifs with hholds
  · exact .single (.release hholds hidle)
  · exact .refl

/-- **Every step of a process is one under the lock, or none.** -/
theorem Step.steps_workOf (h : HoldersLocked t) (hstep : Step p t t') :
    Work.Steps leaves (workOf t) (workOf t') := by
  have hidle : ∀ {point : Point pipeline}, t.points p = point → point.work = none →
      (t.points p).work = none := fun hpoint hwork => hpoint ▸ hwork
  cases hstep with
  | startDaily job hp => exact steps_idle (hidle hp rfl) rfl rfl rfl
  | lockDaily hp hfree =>
    rw [workOf_goTo_idle (hidle hp rfl) rfl]
    exact .single (.acquire p hfree)
  | checkDaily hp hmarker => exact steps_idle (hidle hp rfl) rfl rfl rfl
  | start hp => exact steps_idle (hidle hp rfl) rfl rfl rfl
  | disable hp => exact steps_idle (hidle hp rfl) rfl rfl rfl
  | lock hp hfree =>
    rw [workOf_goTo_idle (hidle hp rfl) rfl]
    exact .single (.acquire p hfree)
  | lockMaintenance hp hfree => exact steps_idle (hidle hp rfl) rfl rfl rfl
  | look hp hlooking => exact steps_idle (hidle hp rfl) rfl rfl rfl
  | backup hp => exact steps_idle (hidle hp rfl) rfl rfl rfl
  | begin task hallowed hp =>
    have hbefore : task.before.holds = true ∧ task.before.work = none := by
      cases task <;> exact ⟨rfl, rfl⟩
    show Work.Steps leaves (workOf t) (workOf (t.goTo p (.working task t.site.loader) t.site))
    rw [workOf_goTo]
    exact .single (.begin task.loaderCall (h p (hp ▸ hbefore.1)) (hidle hp hbefore.2))
  | @finish task seen hp hreturns =>
    have hworks : (workOf t).working p = some (task.loaderCall, seen) := congrArg Point.work hp
    rw [workOf_finish (by cases task <;> rfl)]
    exact .single (.finish hworks)
  | @fail task seen hp hreturns =>
    have hworks : (workOf t).working p = some (task.loaderCall, seen) := congrArg Point.work hp
    rw [workOf_finish rfl]
    refine Relation.ReflTransGen.head (.finish hworks) ?_
    have hsite : ({ t.site with loader := leaves task.loaderCall seen } : Site).runnerLock
        = t.site.runnerLock := rfl
    exact steps_exit (Function.update_self _ _ _) hsite
  | @enable start hp hmarker =>
    have h' : Work.Steps leaves (workOf t)
        (workOf (t.goTo p (.enabled start) { t.site with marker := false })) :=
      steps_idle (hidle hp rfl) rfl rfl rfl
    exact h'
  | release hp => exact steps_idle (hidle hp rfl) rfl rfl rfl
  | exit hp =>
    have hnone : (t.points p).work = none := by
      cases hpoint : t.points p with
      | working task seen => exact absurd hpoint (hp task seen)
      | _ => rfl
    rw [workOf_goTo_idle hnone rfl]
    exact steps_exit hnone rfl
  | dropped => exact .refl

/-- **The calls have run one after the other.** -/
theorem Reachable.serial (h : Reachable t) :
    Work.Serial leaves (Loader.empty) (workOf t) := by
  refine Work.serial_of_reachable ?_
  induction h with
  | refl => exact .refl
  | tail hreach hstep ih =>
    obtain ⟨p, hstep⟩ := hstep
    exact ih.trans (hstep.steps_workOf (Reachable.consistent hreach).holders)

/-- The lake is in order at each moment. -/
theorem Reachable.medallionInvariant (h : Reachable t) :
    MedallionInvariant pipeline t.site.loader.lake := by
  have hloader : t.site.loader = loaderAfter t.finished := h.serial.shared
  rw [hloader, lake_loaderAfter]
  exact medallionInvariant_lakeAfter _

end Lock

/-! ## The marker -/

section Marker

variable {t t' : System pipeline} {p q r : ProcessId}

/-- A process whose reconstruction wants the daily job disabled. -/
def Point.disables : Point pipeline → Bool
  | .marked | .locked _ | .stages _ _ | .working (.stage ..) _ => true
  | _ => false

/-- A daily job that has found that it may run. -/
def Point.runsDaily : Point pipeline → Bool
  | .dailyEnabled _ | .dailyUpdated _ _ | .dailySucceeded _ _ => true
  | .working (.update _ _) _ | .working (.sync _ _ _) _ => true
  | _ => false

/-- A step that does not take the marker away while a reconstruction waits for the lock. -/
def OrderlyStep (t t' : System pipeline) : Prop :=
  SomeStep t t' ∧ (t.site.marker = true → t'.site.marker = false → ∀ q, t.points q ≠ .marked)

/-- What is reached without that. -/
def Orderly (t : System pipeline) : Prop := Relation.ReflTransGen OrderlyStep .initial t

theorem Orderly.reachable (h : Orderly t) : Reachable t :=
  Relation.ReflTransGen.mono (fun _ _ hstep => hstep.1) _ _ h

/-- **The marker is there** for whom it is there, and as long as a reconstruction is
unfinished, and no daily job that has found the marker absent is at work then. -/
structure FailsClosed (t : System pipeline) : Prop where
  marker : ∀ p, (t.points p).disables = true → t.site.marker = true
  unfinished : t.unfinished = true → t.site.marker = true
  daily : ∀ p, (t.points p).runsDaily = true → t.unfinished = false

theorem failsClosed_initial : FailsClosed (System.initial : System pipeline) where
  marker _ hfalse := by cases hfalse
  unfinished hfalse := by cases hfalse
  daily _ hfalse := by cases hfalse

/-- A process that goes on, with the marker as it is. -/
theorem FailsClosed.goTo {point : Point pipeline} {site : Site} (h : FailsClosed t)
    (hmarker : t.site.marker = true → site.marker = true)
    (hdisables : point.disables = true → site.marker = true)
    (hdaily : point.runsDaily = true → t.unfinished = false) : FailsClosed (t.goTo p point site) := by
  refine ⟨fun q hq => ?_, fun hu => hmarker (h.unfinished hu), fun q hq => ?_⟩
  · by_cases hpq : q = p
    · subst hpq
      exact hdisables (by rwa [goTo_points_self] at hq)
    · exact hmarker (h.marker q (by rwa [goTo_points_of_ne hpq] at hq))
  · by_cases hpq : q = p
    · subst hpq
      exact hdaily (by rwa [goTo_points_self] at hq)
    · exact h.daily q (by rwa [goTo_points_of_ne hpq] at hq)

/-- Which calls are finished does not matter. -/
theorem FailsClosed.finished (h : FailsClosed t) (finished : List (LoaderCall pipeline)) :
    FailsClosed { t with finished := finished } := ⟨h.marker, h.unfinished, h.daily⟩

theorem Point.holds_of_runsDaily {point : Point pipeline} (h : point.runsDaily = true) :
    point.holds = true := by
  cases point <;> first | rfl | cases h

theorem Point.holds_of_disables {point : Point pipeline} (h : point.disables = true) :
    point.holds = true ∨ point = .marked := by
  cases point <;> first | exact .inl rfl | exact .inr rfl | cases h

/-- A task of a reconstruction begins, and leaves it unfinished, where the marker is there and
no daily job runs; or one of a daily job does, which may run. -/
theorem FailsClosed.begin {task : Task pipeline} (hlock : HoldersLocked t) (h : FailsClosed t)
    (hp : t.points p = task.before) :
    FailsClosed { t.goTo p (.working task t.site.loader) t.site with
      unfinished := t.unfinished || task.isStage } := by
  cases task with
  | update job faults =>
    have h' : FailsClosed (t.goTo p (.working (.update job faults) t.site.loader) t.site) :=
      h.goTo id (fun hfalse => by cases hfalse) (fun _ => h.daily p (by rw [hp]; rfl))
    rw [Task.isStage, Bool.or_false]
    exact h'
  | sync job start faults =>
    have h' : FailsClosed (t.goTo p (.working (.sync job start faults) t.site.loader) t.site) :=
      h.goTo id (fun hfalse => by cases hfalse) (fun _ => h.daily p (by rw [hp]; rfl))
    rw [Task.isStage, Bool.or_false]
    exact h'
  | stage start stage rest call =>
    have hmarker : t.site.marker = true := h.marker p (by rw [hp]; rfl)
    refine ⟨fun _ _ => hmarker, fun _ => hmarker, fun q hq => ?_⟩
    replace hq : ((t.goTo p (.working (.stage start stage rest call) t.site.loader)
      t.site).points q).runsDaily = true := hq
    -- a daily job that runs has the lock, which the reconstruction has
    by_cases hpq : q = p
    · subst hpq
      rw [goTo_points_self] at hq
      cases hq
    · rw [goTo_points_of_ne hpq] at hq
      exact absurd (hlock.unique (Point.holds_of_runsDaily hq) (by rw [hp]; rfl)) hpq

/-- The marker is taken away by the one reconstruction for which it is there. -/
theorem failsClosed_enable {start : Loader} (hlock : HoldersLocked t)
    (hp : t.points p = .stages start []) (hnone : ∀ q, t.points q ≠ .marked) :
    FailsClosed { t.goTo p (.enabled start) { t.site with marker := false } with
      unfinished := false } := by
  refine ⟨fun q hq => ?_, fun hfalse => (by cases hfalse), fun _ _ => rfl⟩
  replace hq : ((t.goTo p (.enabled start) { t.site with marker := false }).points q).disables
    = true := hq
  by_cases hpq : q = p
  · subst hpq
    rw [goTo_points_self] at hq
    cases hq
  · rw [goTo_points_of_ne hpq] at hq
    rcases Point.holds_of_disables hq with hholds | hmarked
    · exact absurd (hlock.unique hholds (by rw [hp]; rfl)) hpq
    · exact absurd hmarked (hnone q)

theorem Step.failsClosed (hlock : HoldersLocked t) (h : FailsClosed t) (hstep : Step p t t')
    (horderly : t.site.marker = true → t'.site.marker = false → ∀ q, t.points q ≠ .marked) :
    FailsClosed t' := by
  have hmarker : ∀ {point : Point pipeline}, t.points p = point → point.disables = true →
      t.site.marker = true := fun hpoint hdisables => h.marker p (hpoint ▸ hdisables)
  have hdaily : ∀ {point : Point pipeline}, t.points p = point → point.runsDaily = true →
      t.unfinished = false := fun hpoint hruns => h.daily p (hpoint ▸ hruns)
  cases hstep with
  | startDaily job hp =>
    exact h.goTo id (fun hfalse => by cases hfalse) (fun hfalse => by cases hfalse)
  | lockDaily hp hfree =>
    exact h.goTo id (fun hfalse => by cases hfalse) (fun hfalse => by cases hfalse)
  | checkDaily hp hnone =>
    refine h.goTo id (fun hfalse => by cases hfalse) (fun _ => ?_)
    cases hunfinished : t.unfinished with
    | false => rfl
    | true => cases hnone.symm.trans (h.unfinished hunfinished)
  | start hp => exact h.goTo id (fun hfalse => by cases hfalse) (fun hfalse => by cases hfalse)
  | disable hp => exact h.goTo (fun _ => rfl) (fun _ => rfl) (fun hfalse => by cases hfalse)
  | lock hp hfree => exact h.goTo id (fun _ => hmarker hp rfl) (fun hfalse => by cases hfalse)
  | lockMaintenance hp hfree =>
    exact h.goTo id (fun _ => hmarker hp rfl) (fun hfalse => by cases hfalse)
  | look hp hlooking => exact h.goTo id (fun _ => hmarker hp rfl) (fun hfalse => by cases hfalse)
  | backup hp => exact h.goTo id (fun _ => hmarker hp rfl) (fun hfalse => by cases hfalse)
  | begin task hallowed hp => exact h.begin hlock hp
  | @finish task seen hp hreturns =>
    have h' : FailsClosed (t.goTo p (task.next seen)
        { t.site with loader := task.loaderCall.after seen }) := by
      refine h.goTo id (fun hd => hmarker hp ?_) (fun hr => hdaily hp ?_)
      · cases task <;> first | rfl | cases hd
      · cases task <;> first | rfl | cases hr
    exact h'.finished _
  | @fail task seen hp hreturns =>
    have h' : FailsClosed (t.goTo p .ended
        ({ t.site with loader := task.loaderCall.after seen }.exit p)) :=
      h.goTo id (fun hfalse => by cases hfalse) (fun hfalse => by cases hfalse)
    exact h'.finished _
  | @enable start hp hthere => exact failsClosed_enable hlock hp (horderly hthere rfl)
  | release hp => exact h.goTo id (fun hfalse => by cases hfalse) (fun hfalse => by cases hfalse)
  | exit hp => exact h.goTo id (fun hfalse => by cases hfalse) (fun hfalse => by cases hfalse)
  | dropped => exact ⟨h.marker, h.unfinished, h.daily⟩

/-- **No daily job works on an unfinished reconstruction**, that is, from the moment on at which
one that has the lock begins its first stage that changes something until one has passed all its
stages, however long that takes and whoever fails or is killed in between: where no marker is
taken away while another reconstruction waits for the lock. A job that was at work before, when
the marker was set, goes on, and the reconstruction does not get the lock from it. -/
theorem fail_closed (h : Orderly t) : FailsClosed t := by
  induction h with
  | refl => exact failsClosed_initial
  | tail hreach hstep ih =>
    obtain ⟨⟨p, hstep⟩, horderly⟩ := hstep
    exact hstep.failsClosed (Orderly.reachable hreach).consistent.holders ih horderly

/-! ### The first day -/

/-- A process does a task, from its beginning to its end. -/
theorem Orderly.task (h : Orderly t) (task : Task pipeline) (hallowed : task.Allowed)
    (hp : t.points p = task.before) (hreturns : task.loaderCall.Returns t.site.loader) :
    ∃ t', Orderly t' ∧ t'.points p = task.next t.site.loader
      ∧ t'.site = { t.site with loader := task.loaderCall.after t.site.loader }
      ∧ ∀ q ≠ p, t'.points q = t.points q := by
  have hbegin := h.tail ⟨⟨p, .begin task hallowed hp⟩, fun htrue hfalse => by
    cases htrue.symm.trans hfalse⟩
  have hfinish := hbegin.tail ⟨⟨p, .finish (Function.update_self _ _ _) hreturns⟩,
    fun htrue hfalse => by cases htrue.symm.trans hfalse⟩
  refine ⟨_, hfinish, Function.update_self _ _ _, rfl, fun q hq => ?_⟩
  exact (Function.update_of_ne hq _ _).trans (Function.update_of_ne hq _ _)

/-- **A daily job can do its work**, on a machine on which there is nothing yet. -/
theorem exists_firstJob : ∃ (pipeline : DailyMedallionPipeline) (job : DailyCall pipeline)
    (t : System pipeline), pipeline.goldFormats.KeepsAssembled pipeline.writeCsv ∧ Orderly t
      ∧ t.points 1 = .dailySucceeded job .empty ∧ t.site.runnerLock = some 1
      ∧ t.site.loader.session.replica ≠ emptyReplica
      ∧ t.points 2 = .ended ∧ t.site.maintenanceLock = none := by
  obtain ⟨pipeline, pool, inputs, batch, bronze, hday, hready⟩ := exists_firstDay
  obtain ⟨ran, lake, hran, -, result, s, hsync, hjob, -⟩ := hday.exists_run hready
  let job : DailyCall pipeline := ⟨pool, hday.serves, inputs⟩
  let update : Task pipeline := .update job []
  let sync : Task pipeline := .sync job .empty []
  have hupdate : update.loaderCall.Returns .empty := ⟨ran, congrArg Prod.fst hran⟩
  have hlake : update.loaderCall.after .empty = { Loader.empty with lake := lake } :=
    congrArg (fun ended => { Loader.empty with lake := ended.2.1 }) hran
  have hreturns : sync.loaderCall.Returns (update.loaderCall.after .empty) := by
    rw [hlake]
    exact ⟨result, congrArg Prod.fst hsync⟩
  have hs : sync.loaderCall.after (update.loaderCall.after .empty) = s := by
    rw [hlake]
    exact congrArg (fun ended => ended.2.1) hsync
  -- the job takes the lock, finds no marker, and does its two tasks
  have h₁ : Orderly _ := .single ⟨⟨1, .startDaily (t := (System.initial : System pipeline)) job rfl⟩,
    fun hfalse => by cases hfalse⟩
  have h₂ := h₁.tail ⟨⟨1, .lockDaily goTo_points_self rfl⟩, fun hfalse => by cases hfalse⟩
  have h₃ : Orderly _ :=
    h₂.tail ⟨⟨1, .checkDaily goTo_points_self rfl⟩, fun hfalse => by cases hfalse⟩
  obtain ⟨t, h₄, hpoint, hsite, hothers⟩ := h₃.task update trivial goTo_points_self hupdate
  replace hpoint : t.points 1 = sync.before := hpoint
  have hloader : t.site.loader = update.loaderCall.after .empty := congrArg Site.loader hsite
  obtain ⟨t', h₅, hpoint', hsite', hothers'⟩ := h₄.task sync trivial hpoint (hloader ▸ hreturns)
  refine ⟨pipeline, job, t', hday.frames, h₅, hpoint', ?_, ?_, ?_, ?_⟩
  · rw [hsite', hsite]
    rfl
  · rw [hsite', hloader, hs]
    exact hjob.ne_emptyReplica
  · rw [hothers' 2 (by decide), hothers 2 (by decide)]
    rfl
  · rw [hsite', hsite]
    rfl

/-- A reconstruction gets the locks, if they are free, makes its backup, and begins to change
things. -/
theorem begins_reconcile (job : DailyCall pipeline) (h : Orderly t) (hq : t.points q = .ended)
    (hfree : t.site.runnerLock = none) (hnone : t.site.maintenanceLock = none) :
    ∃ (t' : System pipeline) (stage : ReconstructionStage) (rest : List ReconstructionStage)
      (call : LoaderCall pipeline) (seen : Loader), Orderly t' ∧ t'.unfinished = true
      ∧ t'.points q = .working (.stage t.site.loader stage rest call) seen := by
  -- no step takes the marker away
  have hkeeps : ∀ {marker : Bool} {u : System pipeline}, marker = true → marker = false →
      ∀ r, u.points r ≠ .marked := fun htrue hfalse => by cases htrue.symm.trans hfalse
  let call : LoaderCall pipeline := .command
    ⟨job.pool, job.serves, job.inputs.command, .reconcile SeriesRegistry.canonical.ids 0, []⟩
  have h₁ := h.tail ⟨⟨q, .start hq⟩, hkeeps⟩
  have h₂ := h₁.tail ⟨⟨q, .disable goTo_points_self⟩, fun _ => hkeeps rfl⟩
  have h₃ := h₂.tail ⟨⟨q, .lock goTo_points_self hfree⟩, fun _ => hkeeps rfl⟩
  have h₄ := h₃.tail ⟨⟨q, .lockMaintenance goTo_points_self hnone⟩, fun _ => hkeeps rfl⟩
  have h₅ := h₄.tail ⟨⟨q, .look goTo_points_self (by decide)⟩, fun _ => hkeeps rfl⟩
  have h₆ := h₅.tail ⟨⟨q, .backup goTo_points_self⟩, fun _ => hkeeps rfl⟩
  have h₇ := h₆.tail ⟨⟨q, .begin (.stage t.site.loader .reconcile _ call) ⟨0, rfl⟩
    goTo_points_self⟩, fun _ => hkeeps rfl⟩
  exact ⟨_, _, _, _, _, h₇, Bool.or_true _, Function.update_self _ _ _⟩

/-- The machine after the first day. -/
theorem exists_afterFirstDay : ∃ (pipeline : DailyMedallionPipeline) (_ : DailyCall pipeline)
    (t : System pipeline), pipeline.goldFormats.KeepsAssembled pipeline.writeCsv ∧ Orderly t
      ∧ t.points 2 = .ended ∧ t.site.runnerLock = none ∧ t.site.maintenanceLock = none
      ∧ t.site.loader.session.replica ≠ emptyReplica := by
  obtain ⟨pipeline, job, t, hframe, h, hpoint, hlock, hne, hidle, hnone⟩ := exists_firstJob
  have hexit := h.tail ⟨⟨1, .exit (fun task seen hworks => by cases hpoint.symm.trans hworks)⟩,
    fun htrue hfalse => by cases htrue.symm.trans hfalse⟩
  have hfree : (t.site.exit 1).runnerLock = none := if_pos hlock
  have hmaintenance : (t.site.exit 1).maintenanceLock = none := by
    show (if t.site.maintenanceLock = some 1 then none else t.site.maintenanceLock) = none
    rw [hnone]
    rfl
  exact ⟨pipeline, job, _, hframe, hexit, (goTo_points_of_ne (by decide)).trans hidle, hfree,
    hmaintenance, hne⟩

/-- After the first day a reconstruction may begin to change things. -/
theorem exists_firstReconstruction : ∃ (pipeline : DailyMedallionPipeline) (t : System pipeline)
    (start : Loader) (stage : ReconstructionStage) (rest : List ReconstructionStage)
    (call : LoaderCall pipeline) (seen : Loader),
    pipeline.goldFormats.KeepsAssembled pipeline.writeCsv ∧ Orderly t ∧ t.unfinished = true
      ∧ start.session.replica ≠ emptyReplica
      ∧ t.points 2 = .working (.stage start stage rest call) seen := by
  obtain ⟨pipeline, job, t, hframe, h, hidle, hfree, hnone, hne⟩ := exists_afterFirstDay
  obtain ⟨t', stage, rest, call, seen, h', hunfinished, hworks⟩ :=
    begins_reconcile job h hidle hfree hnone
  exact ⟨pipeline, t', _, stage, rest, call, seen, hframe, h', hunfinished, hne, hworks⟩

end Marker

/-- The reconstruction after it. -/
theorem fail_closed_begun : ∃ (pipeline : DailyMedallionPipeline) (t : System pipeline),
    t.unfinished = true ∧ FailsClosed t := by
  obtain ⟨pipeline, t, _, _, _, _, _, _, h, hunfinished, -⟩ := exists_firstReconstruction
  exact ⟨pipeline, t, hunfinished, fail_closed h⟩

end Maintenance
