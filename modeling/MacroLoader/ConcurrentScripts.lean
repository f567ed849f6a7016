import MacroLoader.MaintenanceRuns

/-!
# The scripts side by side

Several daily jobs and reconstructions execute their scripts on one machine. Each goes on by
one operation at a time: the test of a lock or of the marker, the pipeline, a synchronization, a
stage of a reconstruction; between two operations of one, the others do what they like, and any
of them may be killed, but not in the middle of a commit of Bronze. Such a system of scripts
does nothing that the protocol does not (`scripts_refine`). Whatever is proved of the protocol
is therefore true of the scripts, and in the first place that the lake and the database are
those that the same commands would leave if they were given one after the other
(`scripts_serial`).
-/

open Program

variable {pipeline : DailyMedallionPipeline}

namespace Maintenance

/-! ## Scripts by their operations -/

/-- What a daily job does next. -/
inductive DailyPart
  | lock | marker | update | sync

/-- An operation of a daily job, and what it does after that, if the script does not end. -/
def DailyPart.operation (job : DailyCall pipeline) (p : ProcessId) :
    DailyPart → Program Site PyError (Option DailyPart)
  | lock => do
    let locked ← tryRunnerLock p
    pure (if locked then some marker else none)
  | marker => do
    let disabled ← query (fun s => .ok s.marker)
    pure (if disabled then none else some update)
  | update => do
    let _ ← onPart Site.loaderPart (onPart Loader.lakePart
      (pipeline.runDaily job.pool job.inputs.command [] job.inputs.today))
    pure (some sync)
  | sync => do
    let _ ← onPart Site.loaderPart (goldSyncPostgres pipeline.goldFormats job.inputs.sync)
    pure none

/-- **What a process has still to do.** -/
inductive Party (pipeline : DailyMedallionPipeline)
  | idle
  | daily (job : DailyCall pipeline) (next : DailyPart)
  | reconstruction (guarded : GuardedReconstruction pipeline)
    (completed : List ReconstructionStage) (handles : Handles)

/-- **The machine with its processes.** -/
structure Machine (pipeline : DailyMedallionPipeline) where
  site : Site
  parties : ProcessId → Party pipeline

namespace Machine

/-- No process, and nothing there. -/
def initial : Machine pipeline := ⟨.initial, fun _ => .idle⟩

/-- A process goes on. -/
def goOn (m : Machine pipeline) (p : ProcessId) (party : Party pipeline) (site : Site) :
    Machine pipeline := ⟨site, Function.update m.parties p party⟩

/-- **What can happen to a process**: it is started, its next operation is executed, whatever
fails in it, or it is killed. After an operation with which its script ends, it is gone. -/
inductive Step (p : ProcessId) : Machine pipeline → Machine pipeline → Prop
  | startDaily {m : Machine pipeline} (job : DailyCall pipeline) (h : m.parties p = .idle) :
    Step p m (m.goOn p (.daily job .lock) m.site)
  | daily {m : Machine pipeline} {job : DailyCall pipeline} {part next : DailyPart} {site : Site}
    {faults rest : List (Fault PyError)} (h : m.parties p = .daily job part)
    (hrun : part.operation job p m.site faults = (.returned (some next), site, rest)) :
    Step p m (m.goOn p (.daily job next) site)
  | endDaily {m : Machine pipeline} {job : DailyCall pipeline} {part : DailyPart}
    {outcome : Outcome PyError (Option DailyPart)} {site : Site}
    {faults rest : List (Fault PyError)} (h : m.parties p = .daily job part)
    (hrun : part.operation job p m.site faults = (outcome, site, rest))
    (hends : ∀ next, outcome ≠ .returned (some next)) :
    Step p m (m.goOn p .idle (site.exit p))
  | startReconstruction {m : Machine pipeline} (guarded : GuardedReconstruction pipeline)
    (hprocess : guarded.process = p) (h : m.parties p = .idle) :
    Step p m (m.goOn p (.reconstruction guarded [] ⟨false, false⟩) m.site)
  | stage {m : Machine pipeline} {guarded : GuardedReconstruction pipeline}
    {stage : ReconstructionStage} {handles : Handles} {s : Site × Handles}
    {faults rest : List (Fault PyError)}
    (h : m.parties p = .reconstruction guarded stage.before handles)
    (hrun : guarded.reconstruction.operation stage (m.site, handles) faults
      = (.returned true, s, rest)) :
    Step p m (m.goOn p (.reconstruction guarded (stage.before ++ [stage]) s.2) s.1)
  | endReconstruction {m : Machine pipeline} {guarded : GuardedReconstruction pipeline}
    {stage : ReconstructionStage} {handles : Handles} {outcome : Outcome PyError Bool}
    {s : Site × Handles} {faults rest : List (Fault PyError)}
    (h : m.parties p = .reconstruction guarded stage.before handles)
    (hrun : guarded.reconstruction.operation stage (m.site, handles) faults = (outcome, s, rest))
    (hends : outcome ≠ .returned true) : Step p m (m.goOn p .idle (s.1.exit p))
  | enable {m : Machine pipeline} {guarded : GuardedReconstruction pipeline} {handles : Handles}
    {outcome : Outcome PyError Unit} {s : Site × Handles} {faults rest : List (Fault PyError)}
    (h : m.parties p = .reconstruction guarded ReconstructionStage.all handles)
    (hrun : guarded.enableScheduling (m.site, handles) faults = (outcome, s, rest)) :
    Step p m (m.goOn p .idle (s.1.exit p))
  | killed {m : Machine pipeline} : Step p m (m.goOn p .idle (m.site.exit p))

/-- Whatever happens, in any order. -/
def Reachable (m : Machine pipeline) : Prop :=
  Relation.ReflTransGen (fun m m' => ∃ p, Step p m m') .initial m

end Machine

/-! ## The simulation -/

/-- Whether a process is past the runner lock, which is the second stage of a
reconstruction. -/
def Party.holds : Party pipeline → Bool
  | .idle | .daily _ .lock => false
  | .daily _ _ => true
  | .reconstruction _ completed _ => decide (1 < completed.length)

/-- How far a process is that has still to do something. -/
def Party.IsAt (p : ProcessId) (point : Point pipeline) : Party pipeline → Prop
  | .idle => point = .ended
  | .daily job .lock => point = .dailyStarted job
  | .daily job .marker => point = .dailyLocked job
  | .daily job .update => point = .dailyEnabled job
  | .daily job .sync => ∃ start, point = .dailyUpdated job start
  | .reconstruction guarded completed _ =>
    guarded.process = p ∧ ∃ start, point = pointAfter start completed

/-- **The protocol accounts for a machine**: it has the same state, and each process is as far
as it is there. -/
structure Accounts (m : Machine pipeline) (t : System pipeline) : Prop where
  site : t.site = m.site
  parties : ∀ p, (m.parties p).IsAt p (t.points p)

section Simulation

variable {m m' : Machine pipeline} {t t' : System pipeline} {p q : ProcessId}
  {party : Party pipeline} {point : Point pipeline} {site : Site}

theorem goOn_parties_self : (m.goOn p party site).parties p = party := Function.update_self _ _ _

/-- A process leaves the others where they are. -/
theorem Step.points_of_ne (hstep : Step p t t') (hq : q ≠ p) : t'.points q = t.points q := by
  cases hstep <;> first | exact Function.update_of_ne hq _ _ | rfl

theorem Alone.points_of_ne (h : Alone p t t') (hq : q ≠ p) : t'.points q = t.points q := by
  induction h with
  | refl => rfl
  | tail _ hstep ih => exact (hstep.points_of_ne hq).trans ih

/-- A process of the machine goes on as the one of the protocol does. -/
theorem Accounts.comesTo (h : Accounts m t) (hcomes : ComesTo p t point site)
    (hparty : party.IsAt p point) : ∃ t', Leads t t' ∧ Accounts (m.goOn p party site) t' := by
  obtain ⟨t', halone, hpoint, hsite⟩ := hcomes
  refine ⟨t', halone.leads, hsite, fun q => ?_⟩
  by_cases hqp : q = p
  · subst hqp
    show (Function.update m.parties q party q).IsAt q (t'.points q)
    rw [Function.update_self, hpoint]
    exact hparty
  · show (Function.update m.parties p party q).IsAt q (t'.points q)
    rw [Function.update_of_ne hqp, halone.points_of_ne hqp]
    exact h.parties q

/-- Between two operations a process is at no task. -/
theorem Party.IsAt.work_eq_none (h : party.IsAt p point) : point.work = none := by
  cases party with
  | idle => exact h ▸ rfl
  | daily job next =>
    cases next with
    | sync =>
      obtain ⟨_, rfl⟩ := h
      rfl
    | _ => exact h ▸ rfl
  | reconstruction guarded completed handles =>
    obtain ⟨_, start, rfl⟩ := h
    exact work_pointAfter start completed

/-- What an operation of a daily job leaves, for the protocol. -/
def PartDone (p : ProcessId) (t : System pipeline) (job : DailyCall pipeline) :
    Option DailyPart → Site → Prop
  | some next, s => ∃ point, (Party.daily job next).IsAt p point ∧ ComesTo p t point s
  | none, s => ComesTo p t .ended (s.exit p)

/-- **Every operation of a daily job keeps to the protocol**, from any state in which the job has
come so far. -/
theorem wp_dailyPart {job : DailyCall pipeline} {part : DailyPart}
    (h : (Party.daily job part).IsAt p (t.points p)) :
    wp (part.operation job p) (PartKeeps p t (PartDone p t job)) t.site := by
  cases part with
  | lock =>
    refine wp_bind (wp_mono (wp_dailyLock (comesTo_self h)) (fun locked s' hs' => wp_pure ?_)
      (fun _ _ h => h) (fun _ h => h))
    cases locked with
    | false => exact hs'
    | true => exact ⟨_, rfl, hs'⟩
  | marker =>
    refine wp_bind (wp_mono (wp_dailyMarker (comesTo_self h)) (fun disabled s' hs' => wp_pure ?_)
      (fun _ _ h => h) (fun _ h => h))
    cases disabled with
    | true => exact hs'
    | false => exact ⟨_, rfl, hs'⟩
  | update =>
    refine wp_bind (wp_mono (wp_dailyUpdate (comesTo_self h)) (fun _ s' hs' => wp_pure ?_)
      (fun _ _ h => h) (fun _ h => h))
    obtain ⟨start, hs'⟩ := hs'
    exact ⟨_, ⟨start, rfl⟩, hs'⟩
  | sync =>
    obtain ⟨start, h⟩ := h
    exact wp_bind (wp_mono (wp_dailySync (comesTo_self h)) (fun _ s' hs' => wp_pure hs')
      (fun _ _ h => h) (fun _ h => h))

/-- What holds of every end of a program, at the one that it has come to. -/
theorem at_of_run {σ α : Type} {program : Program σ PyError α} {Q : Post σ PyError α} {s : σ}
    {faults : List (Fault PyError)} {end_ : Outcome PyError α × σ × List (Fault PyError)}
    (h : wp program Q s) (hrun : program s faults = end_) : Q.At end_ := hrun ▸ h faults

/-- **What happens on the machine, happens in the protocol.** -/
theorem Accounts.step (h : Accounts m t) (hstep : Machine.Step p m m') :
    ∃ t', Leads t t' ∧ Accounts m' t' := by
  have hat := h.parties p
  cases hstep with
  | startDaily job hp =>
    rw [hp] at hat
    rw [← h.site]
    exact h.comesTo ((comesTo_self hat).tail (fun t' hpoint hsite =>
      ⟨_, .startDaily job hpoint, goTo_points_self, hsite⟩)) rfl
  | daily hp hrun =>
    rw [hp] at hat
    rw [← h.site] at hrun
    obtain ⟨point, hpoint, hcomes⟩ := at_of_run (wp_dailyPart hat) hrun
    exact h.comesTo hcomes hpoint
  | @endDaily job part outcome site faults rest hp hrun hends =>
    rw [hp] at hat
    rw [← h.site] at hrun
    have hend := at_of_run (wp_dailyPart hat) hrun
    have hcomes : ComesTo p t .ended (site.exit p) := by
      rcases outcome with (_ | next) | e | _
      · exact hend
      · exact absurd rfl (hends next)
      · exact hend
      · exact hend
    exact h.comesTo hcomes rfl
  | startReconstruction guarded hprocess hp =>
    rw [hp] at hat
    rw [← h.site]
    exact h.comesTo ((comesTo_self hat).tail (fun t' hpoint hsite =>
      ⟨_, .start hpoint, goTo_points_self, hsite⟩)) ⟨hprocess, t.site.loader, rfl⟩
  | @stage guarded stage handles s faults rest hp hrun =>
    rw [hp] at hat
    rw [← h.site] at hrun
    obtain ⟨rfl, start, hpoint⟩ := hat
    have hcompleted : Completed guarded.process t stage.before (t.site, handles) :=
      ⟨start, comesTo_self hpoint⟩
    obtain ⟨start', hcomes⟩ := at_of_run (wp_operation hcompleted) hrun
    exact h.comesTo hcomes ⟨rfl, start', rfl⟩
  | @endReconstruction guarded stage handles outcome s faults rest hp hrun hends =>
    rw [hp] at hat
    rw [← h.site] at hrun
    obtain ⟨rfl, start, hpoint⟩ := hat
    have hcompleted : Completed guarded.process t stage.before (t.site, handles) :=
      ⟨start, comesTo_self hpoint⟩
    have hend := at_of_run (wp_operation hcompleted) hrun
    have hcomes : ComesTo guarded.process t .ended (s.1.exit guarded.process) := by
      rcases outcome with (_ | _) | e | _
      · exact hend
      · exact absurd rfl hends
      · exact hend
      · exact hend
    exact h.comesTo hcomes rfl
  | @enable guarded handles outcome s faults rest hp hrun =>
    rw [hp] at hat
    rw [← h.site] at hrun
    obtain ⟨rfl, start, hpoint⟩ := hat
    have hcompleted : Completed guarded.process t ReconstructionStage.all (t.site, handles) :=
      ⟨start, comesTo_self hpoint⟩
    have hend := at_of_run (wp_enableScheduling hcompleted) hrun
    have hcomes : ComesTo guarded.process t .ended (s.1.exit guarded.process) := by
      rcases outcome with _ | e | _ <;> exact hend
    exact h.comesTo hcomes rfl
  | killed =>
    rw [← h.site]
    exact h.comesTo ((comesTo_self rfl).exit hat.work_eq_none) rfl

theorem exists_accounts (h : m.Reachable) : ∃ t, Reachable t ∧ Accounts m t := by
  induction h with
  | refl => exact ⟨.initial, .refl, rfl, fun _ => rfl⟩
  | tail _ hstep ih =>
    obtain ⟨p, hstep⟩ := hstep
    obtain ⟨t, hreach, haccounts⟩ := ih
    obtain ⟨t', hleads, haccounts'⟩ := haccounts.step hstep
    exact ⟨t', hreach.trans hleads, haccounts'⟩

theorem holds_pointAfter {start : Loader} {completed : List ReconstructionStage}
    (h : 1 < completed.length) : (pointAfter start completed : Point pipeline).holds = true := by
  rcases completed with _ | ⟨_, _ | ⟨_, _⟩⟩
  · cases h
  · exact absurd h (lt_irrefl 1)
  · rfl

/-- Who is past the lock in the script is so in the protocol. -/
theorem Party.IsAt.holds (h : party.IsAt p point) (hparty : party.holds = true) :
    point.holds = true := by
  cases party with
  | idle => cases hparty
  | daily job next =>
    cases next with
    | lock => cases hparty
    | marker => exact h ▸ rfl
    | update => exact h ▸ rfl
    | sync =>
      obtain ⟨_, rfl⟩ := h
      rfl
  | reconstruction guarded completed handles =>
    obtain ⟨_, start, rfl⟩ := h
    exact holds_pointAfter (of_decide_eq_true hparty)

/-- **The scripts side by side do nothing that the protocol does not**, wherever they are killed
between the commits of Bronze: the protocol reaches a state with the same machine, in which every
process is as far as its script is. So a process that is past the lock in its script has the
lock, and there is one such process at most. -/
theorem scripts_refine (h : m.Reachable) : ∃ t, Reachable t ∧ Accounts m t
    ∧ ∀ p, (m.parties p).holds = true → m.site.runnerLock = some p := by
  obtain ⟨t, hreach, haccounts⟩ := exists_accounts h
  refine ⟨t, hreach, haccounts, fun p hp => ?_⟩
  rw [← haccounts.site]
  exact hreach.consistent.holders p ((haccounts.parties p).holds hp)

/-- **The first day on a machine**: the daily job has published a build, and then it has brought
it to the database. -/
theorem exists_firstMachine : ∃ (pipeline : DailyMedallionPipeline) (job : DailyCall pipeline)
    (m m' : Machine pipeline), pipeline.goldFormats.KeepsAssembled pipeline.writeCsv
      ∧ m.Reachable ∧ m.parties 1 = .daily job .sync
      ∧ (∃ record, record ∈ m.site.loader.lake.currentBuilds)
      ∧ m'.Reachable ∧ m'.site.loader.session.replica ≠ emptyReplica := by
  obtain ⟨pipeline, pool, inputs, batch, bronze, hday, hready⟩ := exists_firstDay
  obtain ⟨ran, lake, hran, hdone, result, s, hsync, hjob, -⟩ := hday.exists_run hready
  obtain ⟨record, -, gold, -, hpublished⟩ := hdone.gold
  let job : DailyCall pipeline := ⟨pool, hday.serves, inputs⟩
  let locked : Site := { Site.initial with runnerLock := some 1 }
  let updated : Site := { locked with loader := { Loader.empty with lake := lake } }
  have hlock : DailyPart.lock.operation job 1 Site.initial []
      = (.returned (some .marker), locked, []) := rfl
  have hmarker : DailyPart.marker.operation job 1 locked []
      = (.returned (some .update), locked, []) := rfl
  have hupdate : DailyPart.update.operation job 1 locked []
      = (.returned (some .sync), updated, []) := by
    obtain ⟨_, _, hrun, rfl, rfl⟩ : Succeeds (DailyPart.update.operation job 1) locked
        (fun next site => next = some .sync ∧ site = updated) :=
      succeeds_bind (succeeds_onPart Site.loaderPart (succeeds_onPart Loader.lakePart
        ⟨ran, lake, hran, succeeds_pure ⟨rfl, rfl⟩⟩))
    exact hrun
  have hlast : DailyPart.sync.operation job 1 updated []
      = (.returned none, { updated with loader := s }, []) := by
    obtain ⟨_, _, hrun, rfl, rfl⟩ : Succeeds (DailyPart.sync.operation job 1) updated
        (fun next site => next = none ∧ site = { updated with loader := s }) :=
      succeeds_bind (succeeds_onPart Site.loaderPart ⟨result, s, hsync, succeeds_pure ⟨rfl, rfl⟩⟩)
    exact hrun
  -- the operations of the job, one after the other
  have h₁ : (Machine.initial.goOn 1 (.daily job .lock) .initial).Reachable :=
    .single ⟨1, .startDaily job rfl⟩
  have h₂ := h₁.tail ⟨1, .daily goOn_parties_self hlock⟩
  have h₃ := h₂.tail ⟨1, .daily goOn_parties_self hmarker⟩
  have h₄ := h₃.tail ⟨1, .daily goOn_parties_self hupdate⟩
  have h₅ := h₄.tail ⟨1, .endDaily goOn_parties_self hlast (fun next h => by cases h)⟩
  exact ⟨pipeline, job, _, _, hday.frames, h₄, goOn_parties_self,
    ⟨record, hpublished.1, hpublished.2.1⟩, h₅, hjob.ne_emptyReplica⟩

/-- The daily job between its pipeline and its synchronization. -/
theorem scripts_refine_started : ∃ (pipeline : DailyMedallionPipeline) (job : DailyCall pipeline)
    (m : Machine pipeline) (t : System pipeline), m.parties 1 = .daily job .sync
      ∧ (∃ record, record ∈ m.site.loader.lake.currentBuilds) ∧ Reachable t ∧ Accounts m t
      ∧ m.site.runnerLock = some 1 := by
  obtain ⟨pipeline, job, m, -, -, h, hparty, hbuild, -⟩ := exists_firstMachine
  obtain ⟨t, hreach, haccounts, hholds⟩ := scripts_refine h
  exact ⟨pipeline, job, m, t, hparty, hbuild, hreach, haccounts, hholds 1 (by rw [hparty]; rfl)⟩

end Simulation

end Maintenance
