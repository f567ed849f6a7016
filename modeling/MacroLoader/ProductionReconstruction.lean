import MacroLoader.ProgramParts
import MacroLoader.InventoryRefresh
import MacroLoader.PostgresConformance

/-!
# The production reconstruction

A reconstruction makes everything anew: Bronze from the sources, Silver and Gold from Bronze,
and the database from Gold. It does so in twelve stages, of which the first ones only make
sure that nothing else is at work and that there is a backup, and the last ones only look at
what has come out. A stage is not begun before the one before it has passed, and after the
first that fails nothing more is done: in particular the daily job, which the first stage has
disabled, is enabled again after all stages only (`run_ends`).

What the stages do is left to an adapter. Nothing here depends on it, not even the report:
whatever the operations do, it names the stages that have passed and the one that has not.
-/

open Program

/-! ## The stages -/

/-- A stage of a reconstruction. -/
inductive ReconstructionStage
  | maintenance | locks | endpoint | backup | reconcile | silver | gold | schema | publication
  | verification | replay | dailyWrapper
  deriving DecidableEq

namespace ReconstructionStage

/-- The name of a stage. -/
def name : ReconstructionStage → String
  | maintenance => "maintenance"
  | locks => "locks"
  | endpoint => "endpoint"
  | backup => "backup"
  | reconcile => "reconcile"
  | silver => "silver"
  | gold => "gold"
  | schema => "schema"
  | publication => "publication"
  | verification => "verification"
  | replay => "replay"
  | dailyWrapper => "daily_wrapper"

/-- All stages, in order. -/
def all : List ReconstructionStage :=
  [maintenance, locks, endpoint, backup, reconcile, silver, gold, schema, publication, verification,
    replay, dailyWrapper]

/-- `_STAGES`. -/
def names : List String := all.map name

/-- The stages before one. -/
def before (stage : ReconstructionStage) : List ReconstructionStage :=
  all.takeWhile (fun other => other ≠ stage)

end ReconstructionStage

/-! ## Reports -/

/-- `ProductionReconstructionReport.__post_init__`. -/
def validateReport (status : String) (completedStages : List String)
    (failedStage : Option String) : Except PyError Unit := do
  check (status ∈ ["PASS", "FAIL"]) (.valueError "reconstruction status must be PASS or FAIL")
  check completedStages.Nodup (.valueError "reconstruction stages must be unique")
  check (∀ stage ∈ completedStages, stage ∈ ReconstructionStage.names)
    (.valueError "reconstruction report contains an unknown stage")
  check (completedStages = ReconstructionStage.names.take completedStages.length)
    (.valueError "reconstruction stages must be an ordered prefix")
  if status = "PASS" then
    check (completedStages = ReconstructionStage.names ∧ failedStage = none)
      (.valueError "PASS report requires every stage and no failure")
  else do
    check (∃ stage ∈ ReconstructionStage.names, failedStage = some stage)
      (.valueError "reconstruction report contains an unknown failed stage")
    check (∀ stage ∈ completedStages, failedStage ≠ some stage)
      (.valueError "FAIL report requires one uncompleted known stage")

/-- **The report of a reconstruction**, which has passed its own checks. -/
structure ProductionReconstructionReport where
  status : String
  completedStages : List String
  failedStage : Option String
  valid : validateReport status completedStages failedStage = .ok ()

namespace ProductionReconstructionReport

/-- The constructor, which raises if a check does not pass. -/
def make (status : String) (completedStages : List String) (failedStage : Option String) :
    Except PyError ProductionReconstructionReport :=
  match h : validateReport status completedStages failedStage with
  | .ok () => .ok ⟨status, completedStages, failedStage, h⟩
  | .error e => .error e

theorem make_eq_ok {status : String} {completedStages : List String}
    {failedStage : Option String} (h : validateReport status completedStages failedStage = .ok ()) :
    make status completedStages failedStage = .ok ⟨status, completedStages, failedStage, h⟩ := by
  unfold make
  split
  · rfl
  · next e he => cases h.symm.trans he

theorem valid_passed : validateReport "PASS" ReconstructionStage.names none = .ok () := by
  decide +kernel

theorem valid_failed (stage : ReconstructionStage) :
    validateReport "FAIL" (stage.before.map ReconstructionStage.name) (some stage.name)
      = .ok () := by
  cases stage <;> decide +kernel

/-- The report that all stages have passed. -/
def passed : ProductionReconstructionReport :=
  ⟨"PASS", ReconstructionStage.names, none, valid_passed⟩

/-- The report that a stage has failed, and that the ones before it have passed. -/
def failed (stage : ReconstructionStage) : ProductionReconstructionReport :=
  ⟨"FAIL", stage.before.map ReconstructionStage.name, some stage.name, valid_failed stage⟩

end ProductionReconstructionReport

/-! ## The orchestration -/

/-- `ProductionReconstructionOperations`: what the stages do, in a state of which nothing is
known. -/
structure ProductionReconstructionOperations (σ : Type) where
  disableScheduling : Program σ PyError Unit
  acquireLocks : Program σ PyError Unit
  preflightEndpoint : Program σ PyError Unit
  validateBackup : Program σ PyError Unit
  reconcile : List String → Program σ PyError Unit
  rebuildSilver : List String → Program σ PyError Unit
  publishGold : Program σ PyError Unit
  recreateSchema : Program σ PyError Unit
  publishPostgres : Program σ PyError GoldSyncResult
  verifyPostgres : Program σ PyError PostgresConformanceReport
  replayPostgres : Program σ PyError GoldSyncResult
  verifyDailyWrapper : Program σ PyError Unit
  enableScheduling : Program σ PyError Unit

/-- `ProductionReconstruction`, of every registered series. -/
structure ProductionReconstruction (σ : Type) where
  operations : ProductionReconstructionOperations σ
  seriesIds : List String
  every : seriesIds = SeriesRegistry.canonical.ids

namespace ProductionReconstruction

variable {σ : Type} (reconstruction : ProductionReconstruction σ)

/-- `_run_stage`, which adds the stage to the ones that are completed. -/
def runStage {α : Type} (stage : String) (operation : Program σ PyError α) :
    Program (σ × List String) PyError α := do
  let result ← onPart .fst operation
  update (fun s => (s.1, s.2 ++ [stage]))
  pure result

/-- `_failed_report`. -/
def failedReport (failedStage : String) :
    Program (σ × List String) PyError (Option ProductionReconstructionReport) := do
  let s ← read
  let report ← ofExcept (ProductionReconstructionReport.make "FAIL" s.2 (some failedStage))
  pure (some report)

/-- The stages, and a report if they end early. -/
def stages : Program (σ × List String) PyError (Option ProductionReconstructionReport) := do
  let operations := reconstruction.operations
  let seriesIds := reconstruction.seriesIds
  runStage "maintenance" operations.disableScheduling
  runStage "locks" operations.acquireLocks
  runStage "endpoint" operations.preflightEndpoint
  runStage "backup" operations.validateBackup
  runStage "reconcile" (operations.reconcile seriesIds)
  runStage "silver" (operations.rebuildSilver seriesIds)
  runStage "gold" operations.publishGold
  runStage "schema" operations.recreateSchema
  let _ ← runStage "publication" operations.publishPostgres
  let verification ← onPart .fst operations.verifyPostgres
  if verification.status ≠ "PASS" then failedReport "verification" else
    update (fun s => (s.1, s.2 ++ ["verification"]))
    let replay ← onPart .fst operations.replayPostgres
    if replay.inserted ≠ 0 ∨ replay.updated ≠ 0 ∨ replay.deleted ≠ 0 then failedReport "replay" else
      update (fun s => (s.1, s.2 ++ ["replay"]))
      runStage "daily_wrapper" operations.verifyDailyWrapper
      pure none

/-- `_STAGES[len(completed)]`. -/
def stageAfter (completed : List String) : Except PyError String :=
  match ReconstructionStage.names[completed.length]? with
  | some stage => .ok stage
  | none => .error (.lookupError "tuple index out of range")

/-- **`ProductionReconstruction.run`.** -/
def run : Program σ PyError ProductionReconstructionReport := withLocal [] (do
  let failed ← tryCatch reconstruction.stages (fun _ => do
    let s ← read
    let failedStage ← ofExcept (stageAfter s.2)
    failedReport failedStage)
  match failed with
  | some report => pure report
  | none => do
    onPart .fst reconstruction.operations.enableScheduling
    let s ← read
    ofExcept (ProductionReconstructionReport.make "PASS" s.2 none))

/-! ## What a run does -/

/-- The operation of a stage, and whether the run goes on after it. -/
def operation : ReconstructionStage → Program σ PyError Bool
  | .maintenance => goesOn reconstruction.operations.disableScheduling
  | .locks => goesOn reconstruction.operations.acquireLocks
  | .endpoint => goesOn reconstruction.operations.preflightEndpoint
  | .backup => goesOn reconstruction.operations.validateBackup
  | .reconcile => goesOn (reconstruction.operations.reconcile reconstruction.seriesIds)
  | .silver => goesOn (reconstruction.operations.rebuildSilver reconstruction.seriesIds)
  | .gold => goesOn reconstruction.operations.publishGold
  | .schema => goesOn reconstruction.operations.recreateSchema
  | .publication => goesOn reconstruction.operations.publishPostgres
  | .verification => do
    let verification ← reconstruction.operations.verifyPostgres
    pure (verification.status = "PASS")
  | .replay => do
    let replay ← reconstruction.operations.replayPostgres
    pure (replay.inserted = 0 ∧ replay.updated = 0 ∧ replay.deleted = 0)
  | .dailyWrapper => goesOn reconstruction.operations.verifyDailyWrapper
where
  /-- It goes on wherever an operation returns. -/
  goesOn {α : Type} (m : Program σ PyError α) : Program σ PyError Bool := do
    let _ ← m
    pure true

section Rule

variable {reconstruction} {I : List ReconstructionStage → σ → Prop}
  {F : ReconstructionStage → σ → Prop} {C : σ → Prop}

/-- What is to hold after a stage: of the state, which of the stages have been completed. -/
def StagePost (I : List ReconstructionStage → σ → Prop) (F : ReconstructionStage → σ → Prop)
    (C : σ → Prop) (stage : ReconstructionStage) : Post σ PyError Bool :=
  ⟨fun goesOn s => if goesOn then I (stage.before ++ [stage]) s else F stage s,
    fun _ s => F stage s, C⟩

/-- The end of a run in the middle of its stages, before the handler. -/
def StageEnds (I : List ReconstructionStage → σ → Prop) (F : ReconstructionStage → σ → Prop)
    (C : σ → Prop) :
    Post (σ × List String) PyError (Option ProductionReconstructionReport) :=
  ⟨fun failed p => match failed with
      | none => p.2 = ReconstructionStage.names ∧ I ReconstructionStage.all p.1
      | some report => ∃ stage, report = .failed stage ∧ F stage p.1,
    fun _ p => ∃ stage : ReconstructionStage,
      p.2 = stage.before.map ReconstructionStage.name ∧ F stage p.1,
    fun p => C p.1⟩

/-- Of the stages before one, the report that this one has failed can be made. -/
theorem wp_failedReport {stage : ReconstructionStage} {p : σ × List String}
    {Q : Post (σ × List String) PyError (Option ProductionReconstructionReport)}
    (hp : p.2 = stage.before.map ReconstructionStage.name)
    (h : Q.returned (some (.failed stage)) p) : wp (failedReport stage.name) Q p := by
  have hmake := ProductionReconstructionReport.make_eq_ok
    (ProductionReconstructionReport.valid_failed stage)
  refine wp_bind (wp_read (wp_bind (wp_ofExcept (fun report hreport => ?_) (fun e he => ?_))))
  · rw [hp, hmake] at hreport
    exact wp_pure (Except.ok.inj hreport ▸ h)
  · rw [hp, hmake] at he
    cases he

/-- An operation of a stage and what comes after it, with the list as it was. -/
theorem wp_bind_stage {α : Type} (stage : ReconstructionStage) {m : Program σ PyError α}
    {accepts : α → Bool}
    {k : α → Program (σ × List String) PyError (Option ProductionReconstructionReport)}
    {p : σ × List String} (hp : p.2 = stage.before.map ReconstructionStage.name)
    (hm : wp (m >>= fun a => pure (accepts a)) (StagePost I F C stage) p.1)
    (hpass : ∀ a t, accepts a = true → I (stage.before ++ [stage]) t →
      wp (k a) (StageEnds I F C) (t, p.2))
    (hfail : ∀ a t, accepts a = false → F stage t → wp (k a) (StageEnds I F C) (t, p.2)) :
    wp (onPart .fst m >>= k) (StageEnds I F C) p := by
  refine wp_bind (wp_onPart .fst (wp_mono (wp_bind_pure_iff.mp hm) (fun a t ht => ?_)
    (fun _ t ht => ⟨stage, hp, ht⟩) (fun t ht => ht)))
  replace ht : (StagePost I F C stage).returned (accepts a) t := ht
  cases haccepts : accepts a with
  | true =>
    rw [haccepts] at ht
    exact hpass a t haccepts ht
  | false =>
    rw [haccepts] at ht
    exact hfail a t haccepts ht

/-- A stage is added to the list. -/
theorem wp_bind_completed (stage : ReconstructionStage) {t : σ} {completed : List String}
    {k : Unit → Program (σ × List String) PyError (Option ProductionReconstructionReport)}
    (hp : completed = stage.before.map ReconstructionStage.name)
    (hk : wp (k ()) (StageEnds I F C) (t, (stage.before ++ [stage]).map ReconstructionStage.name)) :
    wp (update (fun s => (s.1, s.2 ++ [stage.name])) >>= k) (StageEnds I F C) (t, completed) := by
  refine wp_bind (wp_update ?_)
  rw [List.map_append, ← hp] at hk
  exact hk

/-- A stage that is added to the list, and what comes after it. -/
theorem wp_bind_runStage {α : Type} (stage : ReconstructionStage) {m : Program σ PyError α}
    {k : α → Program (σ × List String) PyError (Option ProductionReconstructionReport)}
    {p : σ × List String} (hp : p.2 = stage.before.map ReconstructionStage.name)
    (hm : wp (operation.goesOn m) (StagePost I F C stage) p.1)
    (hk : ∀ a p', p'.2 = (stage.before ++ [stage]).map ReconstructionStage.name →
      I (stage.before ++ [stage]) p'.1 → wp (k a) (StageEnds I F C) p') :
    wp (runStage stage.name m >>= k) (StageEnds I F C) p := by
  rw [runStage, run_bind_assoc]
  refine wp_bind_stage stage hp hm (fun a t _ ht => ?_) (fun _ _ h _ => by cases h)
  rw [run_bind_assoc]
  exact wp_bind_completed stage hp (hk a _ rfl ht)

/-- **The stages, one after the other.** -/
theorem wp_stages {s : σ} (hs : I [] s)
    (hstage : ∀ stage s, I stage.before s →
      wp (reconstruction.operation stage) (StagePost I F C stage) s) :
    wp reconstruction.stages (StageEnds I F C) (s, []) := by
  refine wp_bind_runStage .maintenance rfl (hstage .maintenance s hs) (fun _ p hp hI => ?_)
  refine wp_bind_runStage .locks hp (hstage .locks p.1 hI) (fun _ p hp hI => ?_)
  refine wp_bind_runStage .endpoint hp (hstage .endpoint p.1 hI) (fun _ p hp hI => ?_)
  refine wp_bind_runStage .backup hp (hstage .backup p.1 hI) (fun _ p hp hI => ?_)
  refine wp_bind_runStage .reconcile hp (hstage .reconcile p.1 hI) (fun _ p hp hI => ?_)
  refine wp_bind_runStage .silver hp (hstage .silver p.1 hI) (fun _ p hp hI => ?_)
  refine wp_bind_runStage .gold hp (hstage .gold p.1 hI) (fun _ p hp hI => ?_)
  refine wp_bind_runStage .schema hp (hstage .schema p.1 hI) (fun _ p hp hI => ?_)
  refine wp_bind_runStage .publication hp (hstage .publication p.1 hI) (fun _ p hp hI => ?_)
  -- the two stages whose result is looked at
  refine wp_bind_stage .verification hp (hstage .verification p.1 hI)
    (fun verification t hpass hI => ?_) (fun verification t hfail hF => ?_)
  · rw [if_neg (not_not.mpr (of_decide_eq_true hpass))]
    refine wp_bind_completed .verification hp ?_
    refine wp_bind_stage .replay rfl (hstage .replay t hI) (fun replay t hpass hI => ?_)
      (fun replay t hfail hF => ?_)
    · rw [if_neg (by simpa using hpass)]
      refine wp_bind_completed .replay rfl ?_
      exact wp_bind_runStage .dailyWrapper rfl (hstage .dailyWrapper t hI)
        (fun _ p hp hI => wp_pure ⟨hp, hI⟩)
    · rw [if_pos (by simpa only [← not_and_or] using of_decide_eq_false hfail)]
      exact @wp_failedReport _ .replay _ _ rfl ⟨_, rfl, hF⟩
  · rw [if_pos (of_decide_eq_false hfail)]
    exact @wp_failedReport _ .verification _ _ hp ⟨_, rfl, hF⟩

/-- **A run**, by what each operation does. -/
theorem wp_run {s : σ} {Q : Post σ PyError ProductionReconstructionReport} (hs : I [] s)
    (hstage : ∀ stage s, I stage.before s →
      wp (reconstruction.operation stage) (StagePost I F Q.crashed stage) s)
    (hfailed : ∀ stage s, F stage s → Q.returned (.failed stage) s)
    (henable : ∀ s, I ReconstructionStage.all s →
      wp reconstruction.operations.enableScheduling
        ⟨fun _ => Q.returned .passed, Q.raised, Q.crashed⟩ s) :
    wp reconstruction.run Q s := by
  refine wp_withLocal (wp_bind (wp_tryCatch (wp_mono (wp_stages hs hstage) ?_ ?_
    (fun _ h => h))))
  · rintro (_ | report) p h
    · obtain ⟨hp, hI⟩ := h
      refine wp_bind (wp_onPart .fst (wp_mono (henable p.1 hI) (fun _ t ht => ?_)
        (fun _ _ h => h) (fun _ h => h)))
      refine wp_bind (wp_read (wp_ofExcept (fun report hreport => ?_) (fun e he => ?_)))
      · rw [show (StatePart.fst.set t p).2 = p.2 from rfl, hp,
          ProductionReconstructionReport.make_eq_ok
            ProductionReconstructionReport.valid_passed] at hreport
        exact Except.ok.inj hreport ▸ ht
      · rw [show (StatePart.fst.set t p).2 = p.2 from rfl, hp,
          ProductionReconstructionReport.make_eq_ok
            ProductionReconstructionReport.valid_passed] at he
        cases he
    · obtain ⟨stage, rfl, hF⟩ := h
      exact wp_pure (hfailed stage p.1 hF)
  · -- the stage that has raised is the one after those that are completed
    rintro _ p ⟨stage, hp, hF⟩
    have hafter : stageAfter p.2 = .ok stage.name := by
      rw [hp]
      cases stage <;> rfl
    refine wp_bind (wp_read (wp_bind (wp_ofExcept (fun name hname => ?_) (fun e he => ?_))))
    · rw [hafter] at hname
      obtain rfl := Except.ok.inj hname
      exact wp_failedReport hp (wp_pure (hfailed stage p.1 hF))
    · rw [hafter] at he
      cases he

end Rule

/-- **Some stages have been performed**, one after the other, and the run has gone on after
each. -/
inductive Performed (s : σ) : List ReconstructionStage → σ → Prop
  | start : Performed s [] s
  | next {stages : List ReconstructionStage} {stage : ReconstructionStage} {s' s'' : σ}
    {faults rest : List (Fault PyError)} (h : Performed s stages s')
    (hstage : reconstruction.operation stage s' faults = (.returned true, s'', rest)) :
    Performed s (stages ++ [stage]) s''

/-- **How a run ends**: all stages are performed, and then the daily job is enabled; or the
stages before one are performed, this one is not passed, and nothing follows. -/
inductive RunEnds (s : σ) : Outcome PyError ProductionReconstructionReport → σ → Prop
  | passed {s' s'' : σ} {faults rest : List (Fault PyError)}
    (h : reconstruction.Performed s ReconstructionStage.all s')
    (henable : reconstruction.operations.enableScheduling s' faults = (.returned (), s'', rest)) :
    RunEnds s (.returned .passed) s''
  | rejected {stage : ReconstructionStage} {s' s'' : σ} {faults rest : List (Fault PyError)}
    (h : reconstruction.Performed s stage.before s')
    (hstage : reconstruction.operation stage s' faults = (.returned false, s'', rest)) :
    RunEnds s (.returned (.failed stage)) s''
  | failed {stage : ReconstructionStage} {s' s'' : σ} {e : PyError}
    {faults rest : List (Fault PyError)} (h : reconstruction.Performed s stage.before s')
    (hstage : reconstruction.operation stage s' faults = (.raised e, s'', rest)) :
    RunEnds s (.returned (.failed stage)) s''
  | notEnabled {s' s'' : σ} {e : PyError} {faults rest : List (Fault PyError)}
    (h : reconstruction.Performed s ReconstructionStage.all s')
    (henable : reconstruction.operations.enableScheduling s' faults = (.raised e, s'', rest)) :
    RunEnds s (.raised e) s''
  | stopped {stage : ReconstructionStage} {s' s'' : σ} {faults rest : List (Fault PyError)}
    (h : reconstruction.Performed s stage.before s')
    (hstage : reconstruction.operation stage s' faults = (.crashed, s'', rest)) :
    RunEnds s .crashed s''
  | stoppedEnabling {s' s'' : σ} {faults rest : List (Fault PyError)}
    (h : reconstruction.Performed s ReconstructionStage.all s')
    (henable : reconstruction.operations.enableScheduling s' faults = (.crashed, s'', rest)) :
    RunEnds s .crashed s''

/-- **A run does its stages in order and stops at the first that is not passed**, whatever
the operations do and whatever fails: the report names the stages that are completed and the
one that is not, passes its own checks, and the daily job is enabled after all stages only. -/
theorem run_ends (s : σ) (faults : List (Fault PyError)) :
    reconstruction.RunEnds s (reconstruction.run s faults).1 (reconstruction.run s faults).2.1 := by
  refine ends_of_wp (E := reconstruction.RunEnds s) ?_ faults
  refine wp_run (I := reconstruction.Performed s)
    (F := fun stage s'' => reconstruction.RunEnds s (.returned (.failed stage)) s'')
    .start (fun stage s' h => ?_) (fun stage s'' h => h) (fun s' h => ?_)
  · refine wp_mono (wp_runs (reconstruction.operation stage) s') ?_ ?_ ?_
    · rintro goesOn s'' ⟨faults, rest, hstage⟩
      cases goesOn with
      | true => exact .next h hstage
      | false => exact .rejected h hstage
    · exact fun e s'' ⟨faults, rest, hstage⟩ => .failed h hstage
    · exact fun s'' ⟨faults, rest, hstage⟩ => .stopped h hstage
  · refine wp_mono (wp_runs reconstruction.operations.enableScheduling s') ?_ ?_ ?_
    · exact fun _ s'' ⟨faults, rest, henable⟩ => .passed h henable
    · exact fun e s'' ⟨faults, rest, henable⟩ => .notEnabled h henable
    · exact fun s'' ⟨faults, rest, henable⟩ => .stoppedEnabling h henable

end ProductionReconstruction
