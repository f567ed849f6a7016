import MacroLoader.Interleaving
import MacroLoader.Medallion

/-!
# Silver builds at the same time

The pipeline builds the Silver of its series in the threads of a pool. A build reads the
Bronze of its series and the Silver that there is, and writes months of Silver one by one; it
reads and writes no Silver but its own, and it writes no Bronze at all. So the builds do not
meet, and what one leaves is what it would leave alone, in whatever order the steps are made
and wherever some of them stop (`mapEnds_builds`).

The pool itself is `PolarsExecutionPolicy.map`: it waits for the calls that have begun, and
raises what the first failing one raised.
-/

open Program

/-! ## The pool -/

/-- **How `PolarsExecutionPolicy.map` may end**: with the results of all calls, in their
order; with the error of the first call that raised, where later calls may have been left
out; or not at all, because the process stopped. -/
inductive MapEnds {n : ℕ} {σ ε α : Type} (start : World (Fin n) σ ε (Except ε α)) :
    Outcome ε (List α) → σ → Prop
  | returned {w : World (Fin n) σ ε (Except ε α)} (values : Fin n → α) (hrun : start.Run w)
    (hdone : ∀ i, w.script i = .done (.ok (values i))) :
    MapEnds start (.returned (List.ofFn values)) w.shared
  | raised {w : World (Fin n) σ ε (Except ε α)} (i : Fin n) (e : ε) (hrun : start.Run w)
    (hraised : w.script i = .done (.error e))
    (hbefore : ∀ j < i, ∃ a, w.script j = .done (.ok a))
    (hothers : ∀ j, (∃ r, w.script j = .done r) ∨ w.script j = start.script j) :
    MapEnds start (.raised e) w.shared
  | crashed {w : World (Fin n) σ ε (Except ε α)} (hrun : start.Run w) :
    MapEnds start .crashed w.shared

/-! ## A build in its steps -/

/-- What a build is to write. -/
structure SilverPlan where
  merged : CanonicalFrame
  diff : FrameDiff CanonicalRow
  months : List Month

/-- A difference, and the months that have been written. -/
abbrev SilverResult := FrameDiff CanonicalRow × List Month

namespace SilverRepository

variable (repository : SilverRepository) (contract : SeriesContract)

/-- A build, from the Bronze that it has read up to its first write. -/
def planBuild (bronze : BronzeFrame) : SeriesProgram SilverPlan := do
  let candidate ← ofExcept (canonicalizeSilver contract bronze)
  let existing ← query (fun s => repository.read s.silver)
  require ("observation_date" ∈ candidate.columns)
    (.valueError "date column missing from incoming: observation_date")
  let merge ← ofExcept (mergeFrames silverLayout existing candidate)
  if merge.2.hasChanges = false then pure ⟨merge.1, merge.2, []⟩
  else do
    let months ← ofExcept (changedMonths merge.2.changed)
    pure ⟨merge.1, merge.2, months⟩

/-- The writes of a build. -/
def writePlan (plan : SilverPlan) (months : List Month) : SeriesProgram SilverResult := do
  forEach months (repository.writeMonth plan.merged)
  return (plan.diff, plan.months)

/-- A step of a build that only reads. -/
def readingStep {β : Type} (m : SeriesProgram β)
    (next : β → Script MedallionLake PyError (Except PyError SilverResult)) :
    Script MedallionLake PyError (Except PyError SilverResult) :=
  .reading (onPart (MedallionLake.seriesPart contract.seriesId) m) (fun r =>
    match r with
    | .ok b => next b
    | .error e => .done (.error e))

/-- A step of a build that writes. -/
def writingStep {β : Type} (m : SeriesProgram β)
    (next : β → Script MedallionLake PyError (Except PyError SilverResult)) :
    Script MedallionLake PyError (Except PyError SilverResult) :=
  .locked (onPart (MedallionLake.seriesPart contract.seriesId) m) (fun lake seen => seen = lake)
    (fun r =>
      match r with
      | .ok b => next b
      | .error e => .done (.error e))

/-- The writes of a build, month by month. -/
def writeScript (plan : SilverPlan) :
    List Month → Script MedallionLake PyError (Except PyError SilverResult)
  | [] => .done (.ok (plan.diff, plan.months))
  | month :: rest =>
    writingStep contract (repository.writeMonth plan.merged month) (fun _ => writeScript plan rest)

/-- The steps of a build. -/
def buildScript : Script MedallionLake PyError (Except PyError SilverResult) :=
  readingStep contract (query (fun s => repository.uow.readBronze s.bronze contract.key))
    (fun bronze => readingStep contract (repository.planBuild contract bronze)
      (fun plan => repository.writeScript contract plan plan.months))

/-! ### A script is its build -/

variable {repository contract}

/-- **A build is what is planned of it, and its writes.** -/
theorem build_eq : repository.build contract
    = query (fun s => repository.uow.readBronze s.bronze contract.key) >>= fun bronze =>
      repository.planBuild contract bronze >>= fun plan =>
        repository.writePlan plan plan.months := by
  unfold build planBuild upsertMonthly
  simp only [run_bind_assoc]
  refine congrArg _ (funext (fun bronze => congrArg _ (funext (fun candidate => ?_))))
  refine congrArg _ (funext (fun existing => congrArg _ (funext (fun _ => ?_))))
  refine congrArg _ (funext (fun merge => ?_))
  split_ifs with hchanges
  · rfl
  · rw [run_bind_assoc]
    rfl

theorem run_readingStep {β : Type} {m : SeriesProgram β}
    {next : β → Script MedallionLake PyError (Except PyError SilverResult)}
    {k : β → SeriesProgram SilverResult}
    (h : ∀ b, (next b).run
      = attempt (onPart (MedallionLake.seriesPart contract.seriesId) (k b))) :
    (readingStep contract m next).run
      = attempt (onPart (MedallionLake.seriesPart contract.seriesId) (m >>= k)) := by
  rw [onPart_bind, attempt_bind]
  refine congrArg _ (funext (fun r => ?_))
  cases r with
  | ok b => exact h b
  | error e => rfl

theorem run_writingStep {β : Type} {m : SeriesProgram β}
    {next : β → Script MedallionLake PyError (Except PyError SilverResult)}
    {k : β → SeriesProgram SilverResult}
    (h : ∀ b, (next b).run
      = attempt (onPart (MedallionLake.seriesPart contract.seriesId) (k b))) :
    (writingStep contract m next).run
      = attempt (onPart (MedallionLake.seriesPart contract.seriesId) (m >>= k)) := by
  rw [onPart_bind, attempt_bind]
  refine congrArg _ (funext (fun r => ?_))
  cases r with
  | ok b => exact h b
  | error e => rfl

theorem run_writeScript (plan : SilverPlan) (months : List Month) :
    (repository.writeScript contract plan months).run
      = attempt (onPart (MedallionLake.seriesPart contract.seriesId)
          (repository.writePlan plan months)) := by
  induction months with
  | nil =>
    show pure _ = attempt (onPart _ (pure _))
    rw [onPart_pure]
    rfl
  | cons month rest ih =>
    unfold writePlan
    rw [forEach, run_bind_assoc]
    exact run_writingStep (fun _ => ih)

/-- **A script is its build**: made without interruption, its steps are the build. -/
theorem run_buildScript : (repository.buildScript contract).run
    = attempt (onPart (MedallionLake.seriesPart contract.seriesId)
        (repository.build contract)) := by
  rw [build_eq]
  exact run_readingStep (fun bronze => run_readingStep (fun plan => run_writeScript plan _))

end SilverRepository

/-! ## What one build does to its series -/

/-- What has been planned of a build, of the Silver that there is. -/
structure IsPlan (contract : SeriesContract) (bronze : BronzeFrame)
    (existing candidate : CanonicalFrame) (plan : SilverPlan) : Prop where
  canonical : canonicalizeSilver contract bronze = .ok candidate
  diff : IsDiff silverLayout existing candidate plan.diff
  merged : plan.merged = mergedFrame silverLayout existing candidate plan.diff
  months : SilverRepository.changedMonths plan.diff.changed = .ok plan.months

/-- **The Silver of a series is current**: it holds what its Bronze canonicalizes to. -/
def IsCurrentSilver (repository : SilverRepository) (contract : SeriesContract)
    (bronze : BronzeFrame) (silver : MonthFiles) : Prop :=
  ∃ candidate merged, canonicalizeSilver contract bronze = .ok candidate
    ∧ SilverHolds repository silver merged bronze ∧ SilverAgrees merged candidate

/-- What a build leaves of its series where it is done. -/
def BuildDone (repository : SilverRepository) (contract : SeriesContract) (bronze : BronzeFrame)
    (v : SeriesLake) (r : Except PyError SilverResult) (s : SeriesLake) : Prop :=
  BuildKeeps repository bronze v s
    ∧ ∀ result, r = .ok result → IsCurrentSilver repository contract bronze s.silver

section Builds

variable {repository : SilverRepository} {contract : SeriesContract} {bronze : BronzeFrame}
  {existing candidate : CanonicalFrame} {plan : SilverPlan} {s s' v v' : SeriesLake}
  {written : List Month}

theorem wp_planBuild (hread : repository.read s.silver = .ok existing) :
    wp (repository.planBuild contract bronze) ⟨fun plan s' => s' = s
        ∧ ∃ candidate, IsPlan contract bronze existing candidate plan,
      fun _ s' => s' = s, fun s' => s' = s⟩ s := by
  unfold SilverRepository.planBuild
  refine wp_bind (wp_ofExcept (fun candidate hcandidate => ?_) (fun _ _ => rfl))
  refine wp_bind (wp_query (fun read hread' => ?_) (fun _ => rfl) rfl)
  obtain rfl := Except.ok.inj (hread.symm.trans hread')
  refine wp_bind (wp_require (fun _ => ?_) (fun _ => rfl))
  refine wp_bind (wp_ofExcept (fun merge hmerge => ?_) (fun _ _ => rfl))
  obtain ⟨diff, hdiff, hmerge⟩ := bind_eq_ok.mp hmerge
  obtain rfl := Except.ok.inj hmerge
  dsimp only
  split_ifs with hchanges
  · -- no row has changed, and so no month has
    refine wp_pure ⟨rfl, candidate, hcandidate, isDiff_of_ok hdiff, rfl, ?_⟩
    rw [SilverRepository.changedMonths, diff.hasChanges_eq_false.mp hchanges]
    rfl
  · exact wp_bind (wp_ofExcept (fun months hmonths => wp_pure ⟨rfl, candidate, hcandidate,
      isDiff_of_ok hdiff, rfl, hmonths⟩) (fun _ _ => rfl))

theorem moves_planBuild (repository : SilverRepository) (contract : SeriesContract)
    (bronze : BronzeFrame) : Moves (· = ·) (repository.planBuild contract bronze) :=
  moves_bind (moves_ofExcept _) (fun _ => moves_bind (moves_query _) (fun _ =>
    moves_bind moves_require (fun _ => moves_bind (moves_ofExcept _) (fun _ =>
      moves_ite (moves_pure _) (moves_bind (moves_ofExcept _) (fun _ => moves_pure _))))))

/-- One more month has been written. -/
theorem WritesSilver.insert (h : WritesSilver repository plan.merged written v v') (month : Month) :
    WritesSilver repository plan.merged (month :: written) v { v' with
      silver := v'.silver.insert month
        (repository.format.encode (SilverRepository.monthFrame plan.merged month)) } := by
  refine ⟨h.bronze, fun month' => ?_⟩
  rw [KeyedTable.get?_insert, h.month]
  by_cases hmonth : month' = month
  · subst hmonth
    rw [if_pos rfl, if_pos List.mem_cons_self]
  · rw [if_neg hmonth]
    simp only [List.mem_cons, hmonth, false_or]

/-- **Where the writes of a plan have stopped** before some of its months, the Silver is as a
build may leave it. -/
theorem IsPlan.keeps (h : IsPlan contract bronze existing candidate plan)
    (hsilver : SilverHolds repository v.silver existing bronze)
    (hwrites : WritesSilver repository plan.merged written v v') :
    BuildKeeps repository bronze v v' :=
  (hsilver.writesSilver (isCanonical_of_ok h.canonical) h.diff h.months (h.merged ▸ hwrites)).1

/-- **Where all months of a plan have been written**, the Silver is current. -/
theorem IsPlan.current (h : IsPlan contract bronze existing candidate plan)
    (hsilver : SilverHolds repository v.silver existing bronze)
    (hwrites : WritesSilver repository plan.merged plan.months v v') :
    IsCurrentSilver repository contract bronze v'.silver := by
  have hcanonical := isCanonical_of_ok h.canonical
  refine ⟨candidate, _, h.canonical, (hsilver.writesSilver hcanonical h.diff h.months
    (h.merged ▸ hwrites)).2 rfl, agrees_mergedFrame h.diff (fun c hc => ?_)⟩
  obtain ⟨r, hr, hkey⟩ := hsilver.keys c hc
  exact ⟨_, (hcanonical.mem _).mpr ⟨r, hr, rfl⟩, hkey⟩

end Builds

/-! ## Whose Silver is whose -/

/-- The series that are built, each by one worker. -/
structure SilverWorkers (ι : Type) where
  repository : SilverRepository
  contract : ι → SeriesContract
  seriesId_injective : Function.Injective (fun i => (contract i).seriesId)

namespace SilverWorkers

variable {ι : Type} (workers : SilverWorkers ι)

/-- The part of a worker: the Silver of its series, with the Bronze that it reads. -/
abbrev part (i : ι) : StatePart MedallionLake SeriesLake :=
  MedallionLake.seriesPart (workers.contract i).seriesId

/-- Only the Silver of series that are built has changed. -/
structure OnlySilver (s s' : MedallionLake) : Prop where
  bronze : s'.bronze = s.bronze
  gold : s'.gold = s.gold
  inventory : s'.inventory = s.inventory
  events : s'.events = s.events
  silver : ∀ seriesId, (∀ i, (workers.contract i).seriesId ≠ seriesId) →
    s'.silver seriesId = s.silver seriesId

/-- Each worker owns the Silver of its series. -/
def ownership : Ownership ι MedallionLake SeriesLake where
  valid _ := True
  own i s := (workers.part i).get s
  others := workers.OnlySilver
  others_refl _ := ⟨rfl, rfl, rfl, rfl, fun _ _ => rfl⟩
  others_trans _ _ _ h h' := ⟨h'.bronze.trans h.bronze, h'.gold.trans h.gold,
    h'.inventory.trans h.inventory, h'.events.trans h.events,
    fun id hid => (h'.silver id hid).trans (h.silver id hid)⟩

variable {workers} {i : ι} {s s' : MedallionLake} {v : SeriesLake}

/-- A change of the Silver of one series concerns no other worker. -/
theorem frame_set (hbronze : v.bronze = s.bronze) :
    workers.ownership.Frame i s ((workers.part i).set v s) where
  valid := trivial
  own j hj := by
    have hne : (workers.contract j).seriesId ≠ (workers.contract i).seriesId :=
      fun heq => hj (workers.seriesId_injective heq)
    show (⟨v.bronze, Function.update s.silver (workers.contract i).seriesId v.silver
      (workers.contract j).seriesId⟩ : SeriesLake) = ⟨s.bronze, _⟩
    rw [Function.update_of_ne hne, hbronze]
  others := ⟨hbronze, rfl, rfl, rfl, fun _ hid => Function.update_of_ne (hid i).symm _ _⟩

/-! ## One build among the others -/

section Steps

variable {repository : SilverRepository} {bronze : BronzeFrame}
  {existing candidate : CanonicalFrame} {plan : SilverPlan} {written : List Month} {v' : SeriesLake}

/-- The write of a month is made or not; where it is not, it has raised. -/
theorem attempt_writeMonth {merged : CanonicalFrame} {month : Month} {r : Except PyError Unit}
    {faults rest : List (Fault PyError)} (hown : (workers.part i).get s = v)
    (hrun : attempt (onPart (workers.part i) (repository.writeMonth merged month)) s faults
      = (.returned r, s', rest)) :
    s' = (workers.part i).set { v with
        silver := v.silver.insert month
          (repository.format.encode (SilverRepository.monthFrame merged month)) } s
      ∨ (s' = s ∧ ∃ e, r = .error e) := by
  subst hown
  have hsame : (workers.part i).set ((workers.part i).get s) s = s := (workers.part i).set_get s
  refine attempt_of_wp (P := fun r s' => s' = (workers.part i).set _ s ∨ (s' = s ∧ ∃ e, r = .error e))
    (wp_onPart _ (wp_write (.inl rfl) (fun e => ⟨.inr ⟨hsame, e, rfl⟩, .inl rfl⟩)
      ⟨trivial, trivial⟩)) hrun

/-- **The writes of a build** keep to its series, and leave it current if all are made. -/
theorem stays_writeScript (hplan : IsPlan (workers.contract i) bronze existing candidate plan)
    (hsilver : SilverHolds repository v.silver existing bronze) (rest : List Month)
    (hmonths : ∀ month, month ∈ plan.months ↔ month ∈ written ∨ month ∈ rest)
    (hwrites : WritesSilver repository plan.merged written v v') :
    Stays workers.ownership i (BuildKeeps repository bronze v)
      (BuildDone repository (workers.contract i) bronze v)
      (repository.writeScript (workers.contract i) plan rest) v' := by
  induction rest generalizing written v' with
  | nil =>
    refine .done ⟨hplan.keeps hsilver hwrites, fun _ _ => hplan.current hsilver
      ⟨hwrites.bronze, fun month => ?_⟩⟩
    rw [hwrites.month]
    simp only [hmonths, List.not_mem_nil, or_false]
  | cons month rest ih =>
    have hinsert := hwrites.insert month
    refine .locked (hplan.keeps hsilver hwrites) (fun s faults r s' left _ hown hrun => ?_)
      (fun s faults r s' left _ hown hrun => ?_) (fun s seen _ hseen => hseen ▸ .refl trivial)
    · rcases attempt_writeMonth hown hrun with rfl | ⟨rfl, -⟩
      · exact frame_set (congrArg SeriesLake.bronze hown).symm
      · exact .refl trivial
    · rcases attempt_writeMonth hown hrun with rfl | ⟨rfl, e, rfl⟩
      · rw [show workers.ownership.own i ((workers.part i).set _ s) = _
          from (workers.part i).get_set _ s]
        cases r with
        | ok _ =>
          refine ih (fun m => ?_) hinsert
          rw [hmonths, List.mem_cons, List.mem_cons, or_assoc, or_left_comm]
        | error e => exact .done ⟨hplan.keeps hsilver hinsert, fun _ h => by cases h⟩
      · rw [hown]
        exact .done ⟨hplan.keeps hsilver hwrites, fun _ h => by cases h⟩

/-- **A build among the others**: it keeps to its series, may stop anywhere, and leaves the
Silver of its series current where it returns. -/
theorem stays_buildScript
    (hread : repository.uow.readBronze v.bronze (workers.contract i).key = .ok bronze)
    (hsilver : SilverHolds repository v.silver existing bronze) :
    Stays workers.ownership i (BuildKeeps repository bronze v)
      (BuildDone repository (workers.contract i) bronze v)
      (repository.buildScript (workers.contract i)) v := by
  have hstay : BuildKeeps repository bronze v v := ⟨rfl, existing, hsilver⟩
  have hraised : ∀ e, Stays workers.ownership i (BuildKeeps repository bronze v)
      (BuildDone repository (workers.contract i) bronze v)
      (.done (.error e) : Script MedallionLake PyError (Except PyError SilverResult)) v :=
    fun e => .done ⟨hstay, fun _ h => by cases h⟩
  refine .reading hstay (moves_onPart_eq _ (moves_query _)) (fun s faults r s' rest _ hown hrun => ?_)
  have hfirst := attempt_of_wp (P := fun r _ => ∀ b, r = .ok b → b = bronze)
    (wp_onPart _ (wp_query (fun b hb => ?_) (fun e b h => by cases h) trivial)) hrun
  · cases r with
    | error e => exact hraised e
    | ok b =>
      obtain rfl := hfirst b rfl
      refine .reading hstay (moves_onPart_eq _ (moves_planBuild _ _ _))
        (fun s₁ faults r s' rest _ hown hrun => ?_)
      have hsame : ((workers.part i).get s₁).silver = v.silver := congrArg SeriesLake.silver hown
      have hplan := attempt_of_wp (P := fun r _ => ∀ plan, r = .ok plan →
          ∃ candidate, IsPlan (workers.contract i) b existing candidate plan)
        (wp_onPart _ (wp_mono (wp_planBuild (hsame.symm ▸ hsilver.read_eq))
          (fun plan _ h plan' heq => Except.ok.inj heq ▸ h.2) (fun e _ _ plan h => by cases h)
          (fun _ _ => trivial))) hrun
      cases r with
      | error e => exact hraised e
      | ok plan =>
        obtain ⟨candidate, hplan⟩ := hplan plan rfl
        have hnone : WritesSilver repository plan.merged [] v v := ⟨rfl, fun month => by simp⟩
        exact stays_writeScript hplan hsilver plan.months (fun month => by simp) hnone
  · rintro _ ⟨⟩
    have hsame : (workers.part i).get s = v := hown
    rw [hsame, hread] at hb
    exact (Except.ok.inj hb).symm

end Steps

/-! ## All builds -/

/-- The world before any build has begun. -/
def initial {n : ℕ} (workers : SilverWorkers (Fin n)) (faults : Fin n → List (Fault PyError))
    (s : MedallionLake) : World (Fin n) MedallionLake PyError (Except PyError SilverResult) where
  shared := s
  script i := workers.repository.buildScript (workers.contract i)
  faults := faults

/-- **However the builds of some series end**: only the Silver of these series has changed, all
of it can be built upon, and where they return it is current, series by series. -/
theorem mapEnds_builds {n : ℕ} {workers : SilverWorkers (Fin n)}
    {faults : Fin n → List (Fault PyError)} {bronze : Fin n → BronzeFrame}
    {outcome : Outcome PyError (List SilverResult)}
    (hread : ∀ i, workers.repository.uow.readBronze s.bronze (workers.contract i).key
      = .ok (bronze i))
    (hsilver : ∀ i, ∃ existing, SilverHolds workers.repository
      (s.silver (workers.contract i).seriesId) existing (bronze i))
    (hend : MapEnds (workers.initial faults s) outcome s') :
    workers.OnlySilver s s'
      ∧ (∀ i, ∃ kept, SilverHolds workers.repository (s'.silver (workers.contract i).seriesId) kept
        (bronze i))
      ∧ ∀ results, outcome = .returned results → ∀ i, IsCurrentSilver workers.repository
        (workers.contract i) (bronze i) (s'.silver (workers.contract i).seriesId) := by
  have hstays : ∀ w, (workers.initial faults s).Run w →
      AllStay workers.ownership
        (fun i => BuildKeeps workers.repository (bronze i) ((workers.part i).get s))
        (fun i => BuildDone workers.repository (workers.contract i) (bronze i)
          ((workers.part i).get s))
        (workers.initial faults s) w := fun w hrun => by
    refine hrun.allStay trivial (fun i => ?_)
    obtain ⟨existing, hexisting⟩ := hsilver i
    exact stays_buildScript (hread i) hexisting
  have hheld : ∀ w, (workers.initial faults s).Run w → ∀ i, ∃ kept, SilverHolds workers.repository
      (w.shared.silver (workers.contract i).seriesId) kept (bronze i) := fun w hrun i =>
    (((hstays w hrun).stays i).holds (fun _ _ hdone => hdone.1)).silver
  cases hend with
  | @returned w values hrun hdone =>
    have hall := hstays w hrun
    refine ⟨hall.others, hheld w hrun, fun results _ i => ?_⟩
    have hstay := hall.stays i
    rw [hdone i] at hstay
    exact hstay.of_done.2 _ rfl
  | raised i e hrun =>
    exact ⟨(hstays _ hrun).others, hheld _ hrun, fun results h => by cases h⟩
  | crashed hrun =>
    exact ⟨(hstays _ hrun).others, hheld _ hrun, fun results h => by cases h⟩

/-- **Builds that each succeed succeed together**, in some order of their steps. -/
theorem exists_mapEnds {n : ℕ} {workers : SilverWorkers (Fin n)}
    (hbuild : ∀ i, Succeeds (workers.repository.build (workers.contract i))
      ((workers.part i).get s) (fun _ v => v.bronze = s.bronze)) :
    ∃ results s', MapEnds (workers.initial (fun _ => []) s) (.returned results) s' := by
  obtain ⟨w, hrun, hdone⟩ : ∃ w, (workers.initial (fun _ => []) s).Run w ∧ ∀ i, ∃ r,
      w.script i = .done r ∧ ∃ result, r = .ok result :=
    World.exists_run_done (o := workers.ownership) trivial (fun i t _ hown => by
      have hsame : (workers.part i).get t = (workers.part i).get s := hown
      have hbronze : t.bronze = s.bronze := congrArg SeriesLake.bronze hsame
      obtain ⟨r, t', hrun, result, rfl, v, hv, rfl⟩ : Succeeds
          (workers.repository.buildScript (workers.contract i)).run t
          (fun r t' => ∃ result, r = .ok result
            ∧ ∃ v : SeriesLake, v.bronze = s.bronze ∧ t' = (workers.part i).set v t) := by
        rw [SilverRepository.run_buildScript]
        refine (succeeds_onPart _ ?_).attempt
        rw [hsame]
        exact (hbuild i).mono (fun _ v hv => ⟨v, hv, rfl⟩)
      exact ⟨_, _, [], hrun, frame_set (hv.trans hbronze.symm), result, rfl⟩)
  choose r hr value hvalue using hdone
  exact ⟨_, w.shared, .returned value hrun (fun i => by rw [hr, hvalue])⟩

end SilverWorkers
