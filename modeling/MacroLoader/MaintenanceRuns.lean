import MacroLoader.MaintenanceProtocol

/-!
# The scripts keep to the protocol

The protocol says of a process only how far it is. What a process executes is a script, with
its handlers, its open files and its report. Here the one is proved to be an account of the
other: whatever a stage of the reconstruction does to the machine, and however it ends, the
protocol has steps of this process that do the same, from any state in which the process has
come so far, whatever the others have done meanwhile (`wp_operation`). So the whole script, on
its own, is some steps of the protocol (`reconstruction_refines`), and so is the script of the
daily job (`daily_refines`).

A script that ends gives back no more than the end of its process would. What is compared is
therefore the machine after that.
-/

open Program

variable {pipeline : DailyMedallionPipeline}

namespace Site

variable {p : ProcessId} {s : Site}

theorem exit_freeRunnerLock : (s.freeRunnerLock p).exit p = s.exit p := by
  unfold exit freeMaintenanceLock freeRunnerLock
  split_ifs <;> simp_all

theorem exit_freeMaintenanceLock : (s.freeMaintenanceLock p).exit p = s.exit p := by
  unfold exit freeMaintenanceLock freeRunnerLock
  split_ifs <;> simp_all

/-- A lock that has been taken is given back. -/
theorem exit_takeRunnerLock (h : s.runnerLock = none) :
    ({ s with runnerLock := some p } : Site).exit p = s.exit p := by
  unfold exit freeMaintenanceLock freeRunnerLock
  simp [h]

theorem exit_takeMaintenanceLock (h : s.maintenanceLock = none) :
    ({ s with maintenanceLock := some p } : Site).exit p = s.exit p := by
  unfold exit freeMaintenanceLock freeRunnerLock
  simp [h]

end Site

namespace Maintenance

/-- What one process does, step after step. -/
abbrev Alone (p : ProcessId) (t t' : System pipeline) : Prop :=
  Relation.ReflTransGen (Step p) t t'

theorem Alone.leads {p : ProcessId} {t t' : System pipeline} (h : Alone p t t') : Leads t t' :=
  Relation.ReflTransGen.mono (fun _ _ hstep => ⟨p, hstep⟩) _ _ h

/-- **The process comes to a point**, and leaves the machine as it is given. -/
def ComesTo (p : ProcessId) (t : System pipeline) (point : Point pipeline) (site : Site) : Prop :=
  ∃ t', Alone p t t' ∧ t'.points p = point ∧ t'.site = site

section ComesTo

variable {p : ProcessId} {t : System pipeline} {point : Point pipeline} {site : Site}

theorem comesTo_self (h : t.points p = point) : ComesTo p t point t.site := ⟨t, .refl, h, rfl⟩

/-- One step more. -/
theorem ComesTo.tail {point' : Point pipeline} {site' : Site} (h : ComesTo p t point site)
    (hstep : ∀ t' : System pipeline, t'.points p = point → t'.site = site →
      ∃ t'', Step p t' t'' ∧ t''.points p = point' ∧ t''.site = site') :
    ComesTo p t point' site' := by
  obtain ⟨t', halone, hpoint, hsite⟩ := h
  obtain ⟨t'', hstep, hpoint', hsite'⟩ := hstep t' hpoint hsite
  exact ⟨t'', halone.tail hstep, hpoint', hsite'⟩

/-- A process that is not in the middle of a task may end. -/
theorem ComesTo.exit (h : ComesTo p t point site) (hidle : point.work = none) :
    ComesTo p t .ended (site.exit p) := by
  refine h.tail (fun t' hpoint hsite => ⟨_, .exit (fun task seen hworking => ?_), goTo_points_self,
    congrArg (·.exit p) hsite⟩)
  rw [← hpoint, hworking] at hidle
  cases hidle

end ComesTo

/-! ## Tasks -/

/-- **A program is a call of the loader**, whose faults are those that it is given. -/
structure IsCall {α : Type} (m : Program Loader PyError α)
    (call : List (Fault PyError) → LoaderCall pipeline) : Prop where
  after : ∀ s faults, (call faults).after s = (m s faults).2.1
  returns : ∀ s faults, (call faults).Returns s ↔ ∃ a, (m s faults).1 = .returned a

theorem isCall_command {pool : Pool} (serves : pool.Serves pipeline) (inputs : CommandInputs)
    (command : DailyMedallionPipeline.Command) :
    IsCall (onPart Loader.lakePart (pipeline.run pool inputs command))
      (fun faults => .command ⟨pool, serves, inputs, command, faults⟩) :=
  ⟨fun _ _ => rfl, fun _ _ => Iff.rfl⟩

theorem isCall_sync (inputs : SyncInputs) :
    IsCall (goldSyncPostgres pipeline.goldFormats inputs)
      (fun faults => (.sync inputs faults : LoaderCall pipeline)) :=
  ⟨fun _ _ => rfl, fun _ _ => Iff.rfl⟩

theorem isCall_recreate :
    IsCall recreateSchema (fun faults => (.recreate faults : LoaderCall pipeline)) :=
  ⟨fun _ _ => rfl, fun _ _ => ⟨fun h => ⟨(), h⟩, fun ⟨_, h⟩ => h⟩⟩

section Task

variable {p : ProcessId} {t : System pipeline} {α : Type} {m : Program Loader PyError α}
  (task : List (Fault PyError) → Task pipeline) {before : Point pipeline} {s : Site}

/-- **A program that is a task** is begun and finished, or fails, which is the end of its
process. -/
theorem wp_task (hm : IsCall m (fun faults => (task faults).loaderCall))
    (hallowed : ∀ faults, (task faults).Allowed) (hbefore : ∀ faults, (task faults).before = before)
    (h : ComesTo p t before s) :
    wp (onPart Site.loaderPart m)
      ⟨fun _ s' => ∃ faults, ComesTo p t ((task faults).next s.loader) s',
        fun _ s' => ComesTo p t .ended (s'.exit p),
        fun s' => ComesTo p t .ended (s'.exit p)⟩ s := by
  have hbegin : ∀ faults, ComesTo p t (.working (task faults) s.loader) s := by
    refine fun faults => h.tail (fun t' hpoint hsite => ⟨_, .begin (task faults) (hallowed faults)
      (hpoint.trans (hbefore faults).symm), ?_, hsite⟩)
    rw [← hsite]
    exact Function.update_self _ _ _
  -- what fails does not return, so that the task has failed
  have hfail : ∀ faults loader, (∀ a, (m s.loader faults).1 ≠ .returned a) →
      (m s.loader faults).2.1 = loader →
      ComesTo p t .ended (({ s with loader := loader } : Site).exit p) := by
    intro faults loader hends hloader
    have hreturns : ¬ (task faults).loaderCall.Returns s.loader := fun hreturns => by
      obtain ⟨a, ha⟩ := (hm.returns s.loader faults).mp hreturns
      exact hends a ha
    refine (hbegin faults).tail (fun t' hpoint hsite => ⟨_, .fail hpoint hreturns, ?_, ?_⟩)
    · exact Function.update_self _ _ _
    · subst hsite
      rw [← hloader, ← hm.after]
      rfl
  refine wp_onPart _ (wp_mono (wp_runs m s.loader) ?_ ?_ ?_)
  · rintro a loader ⟨faults, rest, hrun⟩
    have hreturns : (task faults).loaderCall.Returns s.loader :=
      (hm.returns s.loader faults).mpr ⟨a, by rw [hrun]⟩
    refine ⟨faults, (hbegin faults).tail (fun t' hpoint hsite =>
      ⟨_, .finish hpoint hreturns, ?_, ?_⟩)⟩
    · rw [← hsite]
      exact Function.update_self _ _ _
    · subst hsite
      show ({ t'.site with loader := (task faults).loaderCall.after t'.site.loader } : Site) = _
      rw [hm.after, hrun]
      rfl
  · rintro e loader ⟨faults, rest, hrun⟩
    exact hfail faults loader (fun a ha => by rw [hrun] at ha; cases ha) (by rw [hrun])
  · rintro loader ⟨faults, rest, hrun⟩
    exact hfail faults loader (fun a ha => by rw [hrun] at ha; cases ha) (by rw [hrun])

end Task

/-! ## Locks -/

section Locks

variable {p : ProcessId} {s : Site} {α : Type} {Q : Post Site PyError α}

/-- An effect does what it does in the state that it is in. -/
theorem wp_effect_congr {f g : Site → Except PyError α × Site} (h : f s = g s)
    (hg : wp (effect g) Q s) : wp (effect f) Q s := by
  intro faults
  unfold effect
  rw [h]
  exact hg faults

/-- **A lock is taken if it is free.** What has failed may have taken it; the end of the process
gives it back. -/
theorem wp_tryLock {Q : Post Site PyError Bool} {holder : Site → Option ProcessId}
    {take : Site → Site} (hexit : holder s = none → (take s).exit p = s.exit p)
    (hlocked : holder s = none → Q.returned true (take s)) (hheld : Q.returned false s)
    (hraised : ∀ e s', s'.exit p = s.exit p → Q.raised e s')
    (hcrashed : ∀ s', s'.exit p = s.exit p → Q.crashed s') :
    wp (effect (fun s => if holder s = none then (.ok true, take s) else (.ok false, s))) Q s := by
  by_cases hfree : holder s = none
  · refine @wp_effect_congr _ _ _ _ (fun s => (.ok true, take s)) (if_pos hfree) ?_
    refine wp_effect (fun a s' h => ?_) (fun e s' h => by cases h)
      (fun e => ⟨hraised e s rfl, hraised e _ (hexit hfree)⟩)
      ⟨hcrashed s rfl, hcrashed _ (hexit hfree)⟩
    cases h
    exact hlocked hfree
  · refine @wp_effect_congr _ _ _ _ (fun s => (.ok false, s)) (if_neg hfree) ?_
    refine wp_effect (fun a s' h => ?_) (fun e s' h => by cases h)
      (fun e => ⟨hraised e s rfl, hraised e s rfl⟩) ⟨hcrashed s rfl, hcrashed s rfl⟩
    cases h
    exact hheld

/-- The marker is taken away if it is there. -/
theorem wp_takeMarker {Q : Post Site PyError Unit} {e : PyError}
    (htaken : s.marker = true → Q.returned () { s with marker := false })
    (hraised : ∀ e, Q.raised e s ∧ (s.marker = true → Q.raised e { s with marker := false }))
    (hcrashed : Q.crashed s ∧ (s.marker = true → Q.crashed { s with marker := false })) :
    wp (effect (fun s => if s.marker = true then (.ok (), { s with marker := false })
      else (.error e, s))) Q s := by
  by_cases hmarker : s.marker = true
  · refine @wp_effect_congr _ _ _ _ (fun s => (.ok (), { s with marker := false }))
      (if_pos hmarker) ?_
    exact wp_write (htaken hmarker) (fun e => (hraised e).imp_right (fun h => h hmarker))
      (hcrashed.imp_right (fun h => h hmarker))
  · refine @wp_effect_congr _ _ _ _ (fun s => (.error e, s)) (if_neg hmarker) ?_
    refine wp_effect (fun a s' h => by cases h) (fun e' s' h => ?_)
      (fun e' => ⟨(hraised e').1, (hraised e').1⟩) ⟨hcrashed.1, hcrashed.1⟩
    cases h
    exact (hraised e).1

end Locks

/-! ## The stages of a reconstruction -/

section Stages

/-- Where a reconstruction is after some stages. -/
def pointAfter (start : Loader) : List ReconstructionStage → Point pipeline
  | [] => .started
  | [_] => .marked
  | completed => .stages start (ReconstructionStage.all.drop completed.length)

/-- Between two stages a reconstruction is at no task. -/
theorem work_pointAfter (start : Loader) (completed : List ReconstructionStage) :
    (pointAfter start completed : Point pipeline).work = none := by
  rcases completed with _ | ⟨_, _ | ⟨_, _⟩⟩ <;> rfl

variable {guarded : GuardedReconstruction pipeline} {t : System pipeline}

/-- The machine, of a process that has completed some stages. -/
def Completed (p : ProcessId) (t : System pipeline) (completed : List ReconstructionStage)
    (s : Site × Handles) : Prop := ∃ start, ComesTo p t (pointAfter start completed) s.1

/-- The machine that a process leaves to the end of it. -/
def Leaves (p : ProcessId) (t : System pipeline) (s : Site × Handles) : Prop :=
  ComesTo p t .ended (s.1.exit p)

/-- Between two stages a process may end. -/
theorem Completed.leaves {p : ProcessId} {completed : List ReconstructionStage}
    {s : Site × Handles} (h : Completed p t completed s) : Leaves p t s := by
  obtain ⟨start, h⟩ := h
  exact h.exit (work_pointAfter start completed)

/-- The end of a process makes machines the same. -/
theorem Leaves.congr {p : ProcessId} {s s' : Site × Handles} (h : Leaves p t s)
    (hexit : s'.1.exit p = s.1.exit p) : Leaves p t s' := by
  rw [Leaves, hexit]
  exact h

theorem wp_releaseRunnerLock {s : Site × Handles} (h : Leaves guarded.process t s) :
    wp guarded.releaseRunnerLock (Post.always (Leaves guarded.process t)) s := by
  refine wp_update ?_
  show Leaves _ t (if s.2.runnerHandle = true then _ else _)
  split_ifs
  · exact h.congr Site.exit_freeRunnerLock
  · exact h

theorem wp_releasePostgresLock {s : Site × Handles} (h : Leaves guarded.process t s) :
    wp guarded.releasePostgresLock (Post.always (Leaves guarded.process t)) s := by
  refine wp_update ?_
  show Leaves _ t (if s.2.maintenanceConnection = true then _ else _)
  split_ifs
  · exact h.congr Site.exit_freeMaintenanceLock
  · exact h

/-- What an operation of a stage leaves, for the protocol. -/
abbrev StageKeeps (p : ProcessId) (t : System pipeline) (stage : ReconstructionStage) :
    Post (Site × Handles) PyError Bool :=
  ProductionReconstruction.StagePost (Completed p t) (fun _ => Leaves p t) (Leaves p t) stage

/-- The same for an operation whose result is not looked at. -/
abbrev OperationKeeps {α : Type} (p : ProcessId) (t : System pipeline)
    (stage : ReconstructionStage) : Post (Site × Handles) PyError α :=
  ⟨fun _ => Completed p t (stage.before ++ [stage]), fun _ => Leaves p t, Leaves p t⟩

variable {p : ProcessId} {stage : ReconstructionStage} {s : Site × Handles} {α : Type}

theorem wp_goesOn {m : Program (Site × Handles) PyError α} (h : wp m (OperationKeeps p t stage) s) :
    wp (ProductionReconstruction.operation.goesOn m) (StageKeeps p t stage) s :=
  wp_bind (wp_mono h (fun _ _ h => wp_pure h) (fun _ _ h => h) (fun _ h => h))

/-- An operation whose result says whether the stage is passed. -/
theorem wp_accepts {m : Program (Site × Handles) PyError α} {accepts : α → Bool}
    (h : wp m (OperationKeeps p t stage) s) :
    wp (m >>= fun a => pure (accepts a)) (StageKeeps p t stage) s := by
  refine wp_bind (wp_mono h (fun a s' h => wp_pure ?_) (fun _ _ h => h) (fun _ h => h))
  show if accepts a then _ else _
  split_ifs
  · exact h
  · exact h.leaves

/-- A stage that only looks. -/
theorem wp_looking {m : Program (Site × Handles) PyError α} {start : Loader}
    {rest : List ReconstructionStage} (hm : Moves (· = ·) m)
    (h : ComesTo p t (.stages start (stage :: rest)) s.1) (hlooking : stage ∈ looking)
    (hnext : (pointAfter start (stage.before ++ [stage]) : Point pipeline) = .stages start rest) :
    wp m (OperationKeeps p t stage) s := by
  have hleaves : Leaves p t s := h.exit rfl
  refine hm.wp (fun a s' hs => ?_) (fun e s' hs => ?_) (fun s' hs => ?_)
  · subst hs
    refine ⟨start, h.tail (fun t' hpoint hsite => ⟨_, .look hpoint hlooking, ?_, hsite⟩)⟩
    exact goTo_points_self.trans hnext.symm
  · exact hs ▸ hleaves
  · exact hs ▸ hleaves

/-- A stage that is a task. -/
theorem wp_stageTask {m : Program Loader PyError α} {start : Loader}
    {rest : List ReconstructionStage} {call : List (Fault PyError) → LoaderCall pipeline}
    (hm : IsCall m call) (hdoes : ∀ faults, Task.Does stage (call faults))
    (h : ComesTo p t (.stages start (stage :: rest)) s.1)
    (hnext : (pointAfter start (stage.before ++ [stage]) : Point pipeline) = .stages start rest) :
    wp (GuardedReconstruction.onLoader m) (OperationKeeps p t stage) s := by
  refine wp_onPart _ (wp_mono (wp_task (fun faults => .stage start stage rest (call faults))
    hm hdoes (fun _ => rfl) h) (fun a s' h => ?_) (fun _ _ h => h) (fun _ h => h))
  obtain ⟨faults, h⟩ := h
  exact ⟨start, hnext ▸ h⟩

/-- A command of the pipeline. -/
theorem wp_command {inputs : CommandInputs} {command : DailyMedallionPipeline.Command}
    {start : Loader} {rest : List ReconstructionStage}
    (hdoes : ∀ faults, Task.Does stage
      (.command ⟨guarded.pool, guarded.serves, inputs, command, faults⟩))
    (h : ComesTo p t (.stages start (stage :: rest)) s.1)
    (hnext : (pointAfter start (stage.before ++ [stage]) : Point pipeline) = .stages start rest) :
    wp (guarded.command inputs command) (OperationKeeps p t stage) s :=
  wp_bind (wp_mono (wp_stageTask (isCall_command guarded.serves inputs command) hdoes h hnext)
    (fun _ _ h => wp_pure h) (fun _ _ h => h) (fun _ h => h))

/-- The marker is set, wherever setting it is cut. -/
theorem wp_disableScheduling (h : ComesTo p t .started s.1) :
    wp GuardedReconstruction.disableScheduling (OperationKeeps p t .maintenance) s := by
  have hset : ComesTo p t .marked { s.1 with marker := true } :=
    h.tail (fun t' hpoint hsite => ⟨_, .disable hpoint, goTo_points_self, hsite ▸ rfl⟩)
  have hleaves : Leaves p t s ∧ Leaves p t ({ s.1 with marker := true }, s.2) :=
    ⟨h.exit rfl,
      hset.exit rfl⟩
  exact wp_onPart _ (wp_write ⟨s.1.loader, hset⟩ (fun _ => hleaves) hleaves)

/-- The locks are taken, or the process leaves what it has found. -/
theorem wp_acquireLocks (h : ComesTo guarded.process t .marked s.1) :
    wp guarded.acquireLocks (OperationKeeps guarded.process t .locks) s := by
  have hleaves : ∀ s' : Site × Handles, s'.1.exit guarded.process = s.1.exit guarded.process →
      Leaves guarded.process t s' := fun s' hs' =>
    Leaves.congr (h.exit rfl) hs'
  have hraise : ∀ s' : Site × Handles, s'.1.exit guarded.process = s.1.exit guarded.process →
      ∀ e, wp (do guarded.releaseRunnerLock; throw e)
        (OperationKeeps (α := Unit) guarded.process t .locks) s' := fun s' hs' e =>
    wp_bind (wp_mono (wp_releaseRunnerLock (hleaves s' hs')) (fun _ _ h => wp_throw h)
      (fun _ _ h => h) (fun _ h => h))
  refine wp_bind (wp_onPart _ (wp_tryCatch (wp_tryLock Site.exit_takeRunnerLock (fun hfree => ?_)
    ?_ (fun e s' hs' => ?_) (fun s' hs' => hleaves _ hs'))))
  · -- the runner lock is there, and the lock on the server is tried
    have hlocked : ComesTo guarded.process t (.locked s.1.loader)
        { s.1 with runnerLock := some guarded.process } :=
      h.tail (fun t' hpoint hsite => ⟨_, .lock hpoint (hsite ▸ hfree),
        goTo_points_self.trans (hsite ▸ rfl), hsite ▸ rfl⟩)
    have htaken := Site.exit_takeRunnerLock (p := guarded.process) hfree
    refine wp_bind (wp_require (fun _ => wp_bind (wp_update (wp_tryCatch (wp_bind (wp_onPart _
      (wp_tryLock Site.exit_takeMaintenanceLock (fun hfree' => ?_) ?_ (fun e s' hs' => ?_)
        (fun s' hs' => hleaves _ (hs'.trans htaken)))))))) (fun hfalse => absurd rfl hfalse))
    · refine wp_bind (wp_require (fun _ => wp_update ?_) (fun hfalse => absurd rfl hfalse))
      exact ⟨s.1.loader, hlocked.tail (fun t' hpoint hsite =>
        ⟨_, .lockMaintenance hpoint (hsite ▸ hfree'), goTo_points_self, hsite ▸ rfl⟩)⟩
    · exact wp_bind (wp_require (fun htrue => by cases htrue) (fun _ => hraise _ htaken _))
    · exact hraise _ (hs'.trans htaken) e
  · exact wp_bind (wp_require (fun htrue => by cases htrue) (fun _ => hleaves _ rfl))
  · refine wp_bind (wp_update (wp_pure (wp_bind (wp_require (fun htrue => by cases htrue)
      (fun _ => hleaves _ ?_)))))
    exact Site.exit_freeRunnerLock.trans hs'

theorem moves_preflightEndpoint : Moves (· = ·) guarded.preflightEndpoint := fun _ =>
  wp_bind (wp_require (fun _ => wp_bind (wp_require (fun _ => wp_bind (wp_read
    (wp_require (fun _ => rfl) (fun _ => rfl)))) (fun _ => rfl))) (fun _ => rfl))

theorem moves_verifyPostgres : Moves (· = ·) guarded.verifyPostgres :=
  moves_onPart_eq _ (moves_onPart_eq _ (moves_bind (moves_query _) (fun _ =>
    moves_onPart_eq _ (moves_verify _))))

theorem moves_verifyDailyWrapper : Moves (· = ·) GuardedReconstruction.verifyDailyWrapper :=
  moves_query _

/-- The backup is of what there is, and is there with its last file. -/
theorem wp_validateBackup {start : Loader} {rest : List ReconstructionStage}
    (h : ComesTo p t (.stages start (.backup :: rest)) s.1)
    (hnext : (pointAfter start (ReconstructionStage.before .backup ++ [.backup]) : Point pipeline)
      = .stages start rest) :
    wp GuardedReconstruction.validateBackup (OperationKeeps p t .backup) s := by
  have hmade : ComesTo p t (.stages start rest) { s.1 with backups := s.1.backup :: s.1.backups } :=
    h.tail (fun t' hpoint hsite => ⟨_, .backup hpoint, goTo_points_self, hsite ▸ rfl⟩)
  have hleaves : Leaves p t s := h.exit rfl
  have hleaves' : Leaves p t ({ s.1 with backups := s.1.backup :: s.1.backups }, s.2) :=
    hmade.exit rfl
  refine wp_onPart _ (wp_bind (wp_query (fun lake hlake => ?_) (fun _ => hleaves) hleaves))
  refine wp_bind (wp_ofExcept (fun record hrecord => ?_) (fun _ _ => hleaves))
  refine wp_bind (wp_require (fun _ => ?_) (fun _ => hleaves))
  refine wp_bind (wp_require (fun _ => ?_) (fun _ => hleaves))
  refine wp_bind (wp_query (fun copied hcopied => ?_) (fun _ => hleaves) hleaves)
  refine wp_bind (wp_query (fun dump hdump => ?_) (fun _ => hleaves) hleaves)
  obtain rfl := Except.ok.inj hcopied
  obtain rfl := Except.ok.inj hdump
  exact wp_write ⟨start, hnext ▸ hmade⟩ (fun _ => ⟨hleaves, hleaves'⟩) ⟨hleaves, hleaves'⟩

/-- **Every stage keeps to the protocol**, from any state in which the process has come so far:
where it is passed, steps of this process lead to the point after it and to what it has made of
the machine; where it is not, or is cut, they lead to the end of the process. -/
theorem wp_operation (h : Completed guarded.process t stage.before s) :
    wp (guarded.reconstruction.operation stage) (StageKeeps guarded.process t stage) s := by
  obtain ⟨start, h⟩ := h
  cases stage with
  | maintenance => exact wp_goesOn (wp_disableScheduling h)
  | locks => exact wp_goesOn (wp_acquireLocks h)
  | endpoint => exact wp_goesOn (wp_looking moves_preflightEndpoint h (by decide) rfl)
  | backup => exact wp_goesOn (wp_validateBackup h rfl)
  | reconcile => exact wp_goesOn (wp_command (fun _ => ⟨guarded.today, rfl⟩) h rfl)
  | silver => exact wp_goesOn (wp_command (fun _ => rfl) h rfl)
  | gold => exact wp_goesOn (wp_command (fun _ => rfl) h rfl)
  | schema => exact wp_goesOn (wp_stageTask isCall_recreate (fun _ => trivial) h rfl)
  | publication => exact wp_goesOn (wp_stageTask (isCall_sync _) (fun _ => trivial) h rfl)
  | verification => exact wp_accepts (wp_looking moves_verifyPostgres h (by decide) rfl)
  | replay => exact wp_accepts (wp_stageTask (isCall_sync _) (fun _ => trivial) h rfl)
  | dailyWrapper => exact wp_goesOn (wp_looking moves_verifyDailyWrapper h (by decide) rfl)

/-- The marker is taken away after all stages, and the locks are given back, or left to the end
of the process. -/
theorem wp_enableScheduling (h : Completed guarded.process t ReconstructionStage.all s) :
    wp guarded.enableScheduling (Post.always (Leaves guarded.process t)) s := by
  have hleaves := h.leaves
  obtain ⟨start, h⟩ := h
  have henabled : s.1.marker = true →
      Leaves guarded.process t ({ s.1 with marker := false }, s.2) := fun hmarker =>
    ComesTo.exit (h.tail (fun t' hpoint hsite => ⟨_, .enable hpoint (hsite ▸ hmarker),
      Function.update_self _ _ _, hsite ▸ rfl⟩)) rfl
  refine wp_bind (wp_onPart _ (wp_takeMarker (fun hmarker => ?_)
    (fun _ => ⟨hleaves, henabled⟩) ⟨hleaves, henabled⟩))
  exact wp_bind_always (wp_releasePostgresLock (henabled hmarker))
    (fun _ _ hs' => wp_releaseRunnerLock hs')

/-- **The script of a reconstruction is steps of the protocol**: from any state in which its
process has not begun, steps of this process alone lead to its end, with the machine as the
script leaves it, whatever fails and wherever it is killed between the commits of Bronze. -/
theorem reconstruction_refines (h : t.points guarded.process = .ended)
    (faults : List (Fault PyError)) :
    ComesTo guarded.process t .ended
      ((guarded.script t.site faults).2.1.exit guarded.process) := by
  have hstart : ComesTo guarded.process t .started t.site :=
    (comesTo_self h).tail (fun t' hpoint hsite => ⟨_, .start hpoint, goTo_points_self, hsite⟩)
  refine ends_of_wp (E := fun _ (s' : Site) =>
    ComesTo guarded.process t .ended (s'.exit guarded.process)) (wp_withLocal ?_) faults
  exact ProductionReconstruction.wp_run (I := Completed guarded.process t)
    (F := fun _ => Leaves guarded.process t) ⟨t.site.loader, hstart⟩
    (fun stage s' hs' => wp_operation hs') (fun _ _ hs' => hs')
    (fun s' hs' => wp_enableScheduling hs')

/-- The reconstruction after the first day. -/
theorem reconstruction_refines_first : ∃ (pipeline : DailyMedallionPipeline)
    (guarded : GuardedReconstruction pipeline) (t : System pipeline),
    t.site.runnerLock = none ∧ t.site.loader.session.replica ≠ emptyReplica
      ∧ ComesTo guarded.process t .ended
        ((guarded.script t.site []).2.1.exit guarded.process) := by
  obtain ⟨pipeline, job, t, -, -, hidle, hfree, -, hne⟩ := exists_afterFirstDay
  let guarded : GuardedReconstruction pipeline :=
    { process := 2
      pool := job.pool
      serves := job.serves
      runtimeEndpoint := postgresEndpoint
      adminEndpoint := postgresEndpoint
      today := 0
      reconcileInputs := job.inputs.command
      silverInputs := job.inputs.command
      goldInputs := job.inputs.command
      publish := job.inputs.sync
      replay := job.inputs.sync
      inspect := .error (.valueError "no evidence") }
  exact ⟨pipeline, guarded, t, hfree, hne, @reconstruction_refines _ guarded t hidle []⟩

end Stages

/-! ## The daily job -/

section Daily

variable {p : ProcessId} {t : System pipeline} {job : DailyCall pipeline} {start : Loader}
  {s : Site}

/-- What a step of the script leaves, for the protocol, if it may end there. -/
abbrev PartKeeps {α : Type} (p : ProcessId) (t : System pipeline) (next : α → Site → Prop) :
    Post Site PyError α :=
  ⟨next, fun _ s' => ComesTo p t .ended (s'.exit p), fun s' => ComesTo p t .ended (s'.exit p)⟩

theorem wp_dailyLock (h : ComesTo p t (.dailyStarted job) s) :
    wp (tryRunnerLock p) (PartKeeps p t (fun locked s' =>
      if locked = true then ComesTo p t (.dailyLocked job) s' else ComesTo p t .ended (s'.exit p)))
      s := by
  have hends : ∀ s' : Site, s'.exit p = s.exit p → ComesTo p t .ended (s'.exit p) :=
    fun s' hs' => (hs' ▸ h.exit rfl :
      ComesTo p t .ended (s'.exit p))
  refine wp_tryLock Site.exit_takeRunnerLock (fun hfree => ?_) (hends s rfl)
    (fun e s' hs' => hends s' hs') (fun s' hs' => hends s' hs')
  exact h.tail (fun t' hpoint hsite => ⟨_, .lockDaily hpoint (hsite ▸ hfree), goTo_points_self,
    hsite ▸ rfl⟩)

theorem wp_dailyMarker (h : ComesTo p t (.dailyLocked job) s) :
    wp (query (fun s => .ok s.marker)) (PartKeeps p t (fun disabled s' =>
      if disabled = true then ComesTo p t .ended (s'.exit p)
      else ComesTo p t (.dailyEnabled job) s')) s := by
  have hends := h.exit rfl
  refine wp_query (fun disabled hdisabled => ?_) (fun _ => hends) hends
  cases disabled with
  | true => exact hends
  | false =>
    exact h.tail (fun t' hpoint hsite => ⟨_, .checkDaily hpoint
      (hsite ▸ Except.ok.inj hdisabled), goTo_points_self, hsite⟩)

theorem wp_dailyUpdate (h : ComesTo p t (.dailyEnabled job) s) :
    wp (onPart Site.loaderPart (onPart Loader.lakePart
      (pipeline.runDaily job.pool job.inputs.command [] job.inputs.today)))
      (PartKeeps p t (fun _ s' => ∃ start, ComesTo p t (.dailyUpdated job start) s')) s := by
  have hupdate : IsCall (onPart Loader.lakePart
      (pipeline.runDaily job.pool job.inputs.command [] job.inputs.today))
      (fun faults => (Task.update job faults).loaderCall) :=
    isCall_command job.serves job.inputs.command (.runDaily [] job.inputs.today)
  refine wp_mono (wp_task (Task.update job) hupdate (fun _ => trivial) (fun _ => rfl) h)
    (fun _ s' hs' => ?_) (fun _ _ hs' => hs') (fun _ hs' => hs')
  obtain ⟨_, hs'⟩ := hs'
  exact ⟨s.loader, hs'⟩

theorem wp_dailySync (h : ComesTo p t (.dailyUpdated job start) s) :
    wp (onPart Site.loaderPart (goldSyncPostgres pipeline.goldFormats job.inputs.sync))
      (PartKeeps p t (fun _ s' => ComesTo p t .ended (s'.exit p))) s := by
  refine wp_mono (wp_task (Task.sync job start) (isCall_sync job.inputs.sync) (fun _ => trivial)
    (fun _ => rfl) h) (fun _ s' hs' => ?_) (fun _ _ hs' => hs') (fun _ hs' => hs')
  obtain ⟨_, hs'⟩ := hs'
  exact hs'.exit rfl

/-- **So is the script of the daily job.** -/
theorem daily_refines (job : DailyCall pipeline) (h : t.points p = .ended)
    (faults : List (Fault PyError)) :
    ComesTo p t .ended ((job.script p t.site faults).2.1.exit p) := by
  have hstart : ComesTo p t (.dailyStarted job) t.site :=
    (comesTo_self h).tail (fun t' hpoint hsite =>
      ⟨_, .startDaily job hpoint, goTo_points_self, hsite⟩)
  refine ends_of_wp (E := fun _ (s' : Site) => ComesTo p t .ended (s'.exit p)) ?_ faults
  refine wp_bind (wp_mono (wp_dailyLock hstart) (fun locked s₁ h₁ => ?_) (fun _ _ h => h)
    (fun _ h => h))
  cases locked with
  | false => exact wp_pure h₁
  | true =>
    refine wp_bind (wp_mono (wp_dailyMarker h₁) (fun disabled s₂ h₂ => ?_) (fun _ _ h => h)
      (fun _ h => h))
    cases disabled with
    | true => exact wp_pure h₂
    | false =>
      refine wp_bind ?_
      rw [dailyJob, onPart_bind]
      refine wp_bind (wp_mono (wp_dailyUpdate h₂) (fun _ s₃ h₃ => ?_) (fun _ _ h => h)
        (fun _ h => h))
      obtain ⟨start, h₃⟩ := h₃
      exact wp_mono (wp_dailySync h₃) (fun _ _ h => wp_pure h) (fun _ _ h => h) (fun _ h => h)

/-- **A daily job that nothing keeps out** is done, with exit code 0. -/
theorem succeeds_dailyScript {job : DailyCall pipeline} {Q : GoldSyncResult → Loader → Prop}
    (hfree : s.runnerLock = none) (hmarker : s.marker = false)
    (h : Succeeds (dailyJob pipeline job.pool job.inputs) s.loader Q) :
    Succeeds (job.script p) s (fun code s' => code = 0 ∧ ∃ result, Q result s'.loader) := by
  refine succeeds_bind (succeeds_effect (if_pos hfree) ?_)
  refine succeeds_bind (succeeds_query (a := false) (congrArg Except.ok hmarker) ?_)
  refine succeeds_bind (succeeds_onPart Site.loaderPart (h.mono (fun result _ hresult => ?_)))
  exact succeeds_pure ⟨rfl, result, hresult⟩

/-- The job of the first day. -/
theorem daily_refines_first : ∃ (pipeline : DailyMedallionPipeline) (job : DailyCall pipeline)
    (s : Site), job.script 1 .initial [] = (.returned 0, s, [])
      ∧ s.loader.session.replica ≠ emptyReplica
      ∧ ComesTo 1 (System.initial : System pipeline) .ended (s.exit 1) := by
  obtain ⟨pipeline, pool, inputs, batch, bronze, hday, hready⟩ := exists_firstDay
  let job : DailyCall pipeline := ⟨pool, hday.serves, inputs⟩
  obtain ⟨_, s, hrun, rfl, result, hdone⟩ : Succeeds (job.script 1) Site.initial _ :=
    succeeds_dailyScript rfl rfl (succeeds_dailyJob_first hday hready)
  have hcomes := daily_refines (p := 1) (t := (System.initial : System pipeline)) job rfl []
  rw [show job.script 1 (System.initial : System pipeline).site [] = _ from hrun] at hcomes
  exact ⟨pipeline, job, s, hrun, hdone.ne_emptyReplica, hcomes⟩

end Daily

/-! ## The report and the marker -/

section Marker

/-- The marker is as it was. -/
def SameMarker (s s' : Site) : Prop := s'.marker = s.marker

instance refl_sameMarker : Std.Refl SameMarker := ⟨fun _ => rfl⟩

instance isTrans_sameMarker : IsTrans Site SameMarker := ⟨fun _ _ _ h h' => h'.trans h⟩

/-- The same of a process with its handles. -/
def KeepsMarker (s s' : Site × Handles) : Prop := SameMarker s.1 s'.1

instance refl_keepsMarker : Std.Refl KeepsMarker := ⟨fun _ => rfl⟩

instance isTrans_keepsMarker : IsTrans (Site × Handles) KeepsMarker :=
  ⟨fun _ _ _ h h' => h'.trans h⟩

variable {guarded : GuardedReconstruction pipeline} {α : Type}

theorem keepsMarker_onSite {m : Program Site PyError α} (h : Moves SameMarker m) :
    Moves KeepsMarker (onPart .fst m) := (moves_onPart _ h).mono (fun _ _ hs => hs.1)

/-- What runs on the lake and the database does not touch the marker. -/
theorem keepsMarker_onLoader (m : Program Loader PyError α) :
    Moves KeepsMarker (GuardedReconstruction.onLoader m) := by
  refine keepsMarker_onSite ((moves_onPart (R := fun _ _ => True) _ (fun s => ?_)).mono ?_)
  · exact wp_mono (wp_true m s) (fun _ _ h => h) (fun _ _ h => h) (fun _ h => h)
  · exact fun s s' hs => (congrArg Site.marker hs.2).trans rfl

theorem keepsMarker_of_eq {m : Program (Site × Handles) PyError α} (h : Moves (· = ·) m) :
    Moves KeepsMarker m := h.mono (fun _ _ hs => hs ▸ rfl)

theorem keepsMarker_update {f : Site × Handles → Site × Handles} (h : ∀ s, KeepsMarker s (f s)) :
    Moves KeepsMarker (update f : Program (Site × Handles) PyError Unit) := fun s =>
  wp_update (h s)

theorem keepsMarker_releaseRunnerLock : Moves KeepsMarker guarded.releaseRunnerLock := by
  refine keepsMarker_update (fun s => ?_)
  split_ifs <;> rfl

theorem keepsMarker_acquireLocks : Moves KeepsMarker guarded.acquireLocks := by
  have hrunner : Moves SameMarker (tryRunnerLock guarded.process) :=
    moves_effect (fun s => by show Site.marker (Prod.snd (ite _ _ _)) = _; split_ifs <;> rfl)
  have hmaintenance : Moves SameMarker (tryMaintenanceLock guarded.process) :=
    moves_effect (fun s => by show Site.marker (Prod.snd (ite _ _ _)) = _; split_ifs <;> rfl)
  refine moves_bind (keepsMarker_onSite (moves_tryCatch hrunner (fun _ =>
    moves_bind (fun s => wp_update rfl) (fun _ => moves_pure _)))) (fun locked => ?_)
  refine moves_bind moves_require (fun _ => moves_bind (keepsMarker_update (fun _ => rfl))
    (fun _ => moves_tryCatch ?_ (fun e => ?_)))
  · exact moves_bind (keepsMarker_onSite hmaintenance) (fun _ => moves_bind moves_require
      (fun _ => keepsMarker_update (fun _ => rfl)))
  · exact moves_bind keepsMarker_releaseRunnerLock (fun _ => moves_throw e)

theorem keepsMarker_validateBackup : Moves KeepsMarker GuardedReconstruction.validateBackup :=
  keepsMarker_onSite (moves_bind (moves_query _) (fun _ => moves_bind (moves_ofExcept _) (fun _ =>
    moves_bind moves_require (fun _ => moves_bind moves_require (fun _ =>
      moves_bind (moves_query _) (fun _ => moves_bind (moves_query _) (fun _ =>
        moves_write (fun _ => rfl))))))))

/-- Only the first stage changes the marker. -/
theorem keepsMarker_operation {stage : ReconstructionStage} (h : stage ≠ .maintenance) :
    Moves KeepsMarker (guarded.reconstruction.operation stage) := by
  have hgoesOn : ∀ {α : Type} {m : Program (Site × Handles) PyError α}, Moves KeepsMarker m →
      Moves KeepsMarker (ProductionReconstruction.operation.goesOn m) := fun hm =>
    moves_bind hm (fun _ => moves_pure _)
  have hcommand : ∀ inputs command, Moves KeepsMarker (guarded.command inputs command) := fun _ _ =>
    moves_bind (keepsMarker_onLoader _) (fun _ => moves_pure _)
  cases stage with
  | maintenance => exact absurd rfl h
  | locks => exact hgoesOn keepsMarker_acquireLocks
  | endpoint => exact hgoesOn (keepsMarker_of_eq moves_preflightEndpoint)
  | backup => exact hgoesOn keepsMarker_validateBackup
  | reconcile => exact hgoesOn (hcommand _ _)
  | silver => exact hgoesOn (hcommand _ _)
  | gold => exact hgoesOn (hcommand _ _)
  | schema => exact hgoesOn (keepsMarker_onLoader _)
  | publication => exact hgoesOn (keepsMarker_onLoader _)
  | verification =>
    exact moves_bind (keepsMarker_of_eq moves_verifyPostgres) (fun _ => moves_pure _)
  | replay => exact moves_bind (keepsMarker_onLoader _) (fun _ => moves_pure _)
  | dailyWrapper => exact hgoesOn (keepsMarker_of_eq moves_verifyDailyWrapper)

/-- **The daily job stays disabled on every failure** that is reported: if the report names a
stage that has failed, the marker is there, unless it is the stage that sets it; and after the
report that all have passed, it is not. -/
theorem report_marker (s : Site) :
    wp guarded.script
      ⟨fun report s' => (report = .passed ∧ s'.marker = false)
          ∨ ∃ stage, report = .failed stage ∧ (stage = .maintenance ∨ s'.marker = true),
        fun _ _ => True, fun _ => True⟩ s := by
  refine wp_withLocal (ProductionReconstruction.wp_run
    (I := fun completed s' => completed = [] ∨ s'.1.marker = true)
    (F := fun stage s' => stage = .maintenance ∨ s'.1.marker = true) (.inl rfl)
    (fun stage s' h => ?_) (fun stage s' h => .inr ⟨stage, rfl, h⟩) (fun s' _ => ?_))
  · by_cases hstage : stage = .maintenance
    · subst hstage
      exact wp_bind (wp_onPart _ (wp_write (wp_pure (.inr rfl))
        (fun _ => ⟨.inl rfl, .inl rfl⟩) ⟨trivial, trivial⟩))
    · have hmarker : s'.1.marker = true :=
        h.resolve_left (by cases stage <;> first | exact absurd rfl hstage | decide)
      refine (keepsMarker_operation hstage).wp (fun goesOn t ht => ?_)
        (fun _ t ht => .inr (ht.trans hmarker)) (fun _ _ => trivial)
      show if goesOn = true then _ else _
      split_ifs
      · exact .inr (ht.trans hmarker)
      · exact .inr (ht.trans hmarker)
  · refine wp_bind (wp_onPart _ (wp_takeMarker (fun _ => ?_) (fun _ => ⟨trivial, fun _ => trivial⟩)
      ⟨trivial, fun _ => trivial⟩))
    refine wp_bind (wp_update (wp_update (.inl ⟨rfl, ?_⟩)))
    split_ifs <;> rfl

end Marker

end Maintenance
