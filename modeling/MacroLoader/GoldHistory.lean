import MacroLoader.GoldRuns

/-!
# What holds over the history of the Gold files

A run is any number of publications, reconciliations and retention runs, each of
which may be cut anywhere. Its history is the list of what was written and
removed, the last first, so that a moment of the run is an ending of that list
and an earlier moment is an ending of a later one. The catalog that was on disk
at a moment is the last one written until then (`onDiskAfter`), and what holds
at every moment is what `GoldStep` allows, step by step.
-/

open Program

/-- **The catalog on disk** after some events, the last first. -/
def onDiskAfter (start : List GoldCatalogRecord) : List GoldEvent → List GoldCatalogRecord
  | [] => start
  | .wrote _ rows :: _ => rows
  | .sweeping _ _ :: earlier => onDiskAfter start earlier
  | .removed _ _ _ :: earlier => onDiskAfter start earlier

/-- What the steps allow of an event, after the events before it. -/
def IsAllowed (start : List GoldCatalogRecord) (earlier : List GoldEvent) : GoldEvent → Prop
  | .wrote step rows => CatalogMove step (onDiskAfter start earlier) rows
  | .sweeping buildId onDisk | .removed buildId _ onDisk =>
    onDisk = onDiskAfter start earlier ∧ IsTombstoned onDisk buildId

/-- Every event of a history is allowed. -/
def IsHistory (start : List GoldCatalogRecord) (events : List GoldEvent) : Prop :=
  ∀ event earlier, event :: earlier <:+ events → IsAllowed start earlier event

theorem IsHistory.cons {start : List GoldCatalogRecord} {event : GoldEvent}
    {earlier : List GoldEvent} (h : IsHistory start earlier) (hevent : IsAllowed start earlier event) :
    IsHistory start (event :: earlier) := by
  intro event' earlier' hsuffix
  rcases List.suffix_cons_iff.mp hsuffix with heq | hsuffix
  · obtain ⟨rfl, rfl⟩ := List.cons.inj heq
    exact hevent
  · exact h event' earlier' hsuffix

/-- **The steps of a session are its history**, and the catalog on disk is the last
one written. -/
theorem history_of_leads {s s' : GoldSession} (h : Leads s s') (hstart : s.events = []) :
    IsHistory s.lake.records s'.events
      ∧ s'.lake.records = onDiskAfter s.lake.records s'.events := by
  induction h with
  | refl =>
    rw [hstart]
    exact ⟨fun _ _ hsuffix => by simp at hsuffix, rfl⟩
  | tail _ hstep ih =>
    obtain ⟨hhistory, hdisk⟩ := ih
    cases hstep with
    | files hcatalog hevents =>
      rw [hevents]
      exact ⟨hhistory, (congrArg (·.getD []) hcatalog).trans hdisk⟩
    | wrote step rows hmove =>
      rw [hdisk] at hmove
      exact ⟨hhistory.cons hmove, rfl⟩
    | sweeping buildId hmarked => exact ⟨hhistory.cons ⟨hdisk, hmarked⟩, hdisk⟩
    | removed buildId artifact hmarked hcatalog hevents =>
      rw [hevents]
      exact ⟨hhistory.cons ⟨hdisk, hmarked⟩, (congrArg (·.getD []) hcatalog).trans hdisk⟩

/-- Every call makes steps, whatever fails. -/
theorem leads_call (formats : GoldFormats) (call : GoldCall) (s : GoldSession)
    (faults : List (Fault PyError)) : Leads s (call.program formats s faults).2.1 := by
  have hcall : wp (call.program formats) (Post.keeping (Leads s) (fun _ _ => True)) s := by
    have hs : Leads s s := .refl
    cases call with
    | reconcile clock =>
      exact wp_bind_keeping (GoldProgram.wp_reconcile formats clock hs)
        (fun _ _ h _ => wp_pure_keeping h trivial)
    | publish call =>
      exact wp_bind_keeping (GoldProgram.wp_publish formats call hs)
        (fun _ _ h _ => wp_pure_keeping h trivial)
    | retain policy clock =>
      exact wp_bind_keeping (GoldProgram.wp_retain formats policy clock hs)
        (fun _ _ h _ => wp_pure_keeping h trivial)
  have hend := hcall faults
  generalize call.program formats s faults = end_ at *
  rcases end_ with ⟨_ | _ | _, s', rest⟩
  · exact hend.1
  · exact hend
  · exact hend

/-- **Every run makes steps.** -/
theorem leads_runCalls (formats : GoldFormats) (initial : GoldSession)
    (calls : List (GoldCall × List (Fault PyError))) :
    Leads initial (runCalls formats initial calls) := by
  induction calls generalizing initial with
  | nil => exact .refl
  | cons call rest ih => exact (leads_call formats call.1 initial call.2).trans (ih _)

section Moments

variable {start : List GoldCatalogRecord} {events earlier later : List GoldEvent}

/-- What holds of the first catalog and is kept by every allowed event holds at
every moment. -/
theorem IsHistory.induct (h : IsHistory start events) {P : List GoldEvent → Prop} (hnil : P [])
    (hcons : ∀ event earlier, event :: earlier <:+ events → IsAllowed start earlier event →
      P earlier → P (event :: earlier)) (hsuffix : earlier <:+ events) : P earlier := by
  induction earlier with
  | nil => exact hnil
  | cons event earlier ih =>
    exact hcons event earlier hsuffix (h event earlier hsuffix)
      (ih ((List.suffix_cons event earlier).trans hsuffix))

/-- The catalog is well formed at every moment. -/
theorem IsHistory.wellFormed (h : IsHistory start events) (hstart : WellFormedCatalog start)
    (hsuffix : earlier <:+ events) : WellFormedCatalog (onDiskAfter start earlier) := by
  refine h.induct (P := fun moment => WellFormedCatalog (onDiskAfter start moment)) hstart ?_ hsuffix
  intro event earlier _ hevent ih
  cases event with
  | wrote step rows => exact hevent.wellFormed
  | sweeping buildId onDisk => exact ih
  | removed buildId artifact onDisk => exact ih

/-- What every move of the catalog keeps is kept from one moment to a later one. -/
theorem IsHistory.kept (h : IsHistory start events) {P : List GoldCatalogRecord → Prop}
    (hmove : ∀ step old new, CatalogMove step old new → P old → P new)
    (hlater : later <:+ events) (hearlier : earlier <:+ later)
    (hp : P (onDiskAfter start earlier)) : P (onDiskAfter start later) := by
  induction later with
  | nil =>
    obtain rfl := List.suffix_nil.mp hearlier
    exact hp
  | cons event later ih =>
    rcases List.suffix_cons_iff.mp hearlier with rfl | hearlier
    · exact hp
    · have hevent := h event later hlater
      have hkept := ih ((List.suffix_cons event later).trans hlater) hearlier
      cases event with
      | wrote step rows => exact hmove _ _ _ hevent hkept
      | sweeping buildId onDisk => exact hkept
      | removed buildId artifact onDisk => exact hkept

/-- What is pruned is marked, at every moment. -/
theorem IsHistory.marked_of_pruned (h : IsHistory start events)
    (hstart : ∀ r ∈ start, r.prunedAtUtc.isSome = true → GoldProgram.isMarked r = true)
    (hsuffix : earlier <:+ events) : ∀ r ∈ onDiskAfter start earlier,
      r.prunedAtUtc.isSome = true → GoldProgram.isMarked r = true := by
  refine h.kept (P := fun records => ∀ r ∈ records, r.prunedAtUtc.isSome = true →
    GoldProgram.isMarked r = true) (fun step old new hmove hold r hr hp => ?_) hsuffix
    (List.nil_suffix) hstart
  exact (hmove.pruned_marked r hr hp).elim (fun hr => hold r hr hp) id

end Moments

/-! ## Samples -/

/-- Formats that know one frame of one row. -/
def sampleFormats : GoldFormats where
  encodeFrame _ := [1]
  decodeFrame _ := .ok ⟨[(some 0, fun _ => some Float64.one)]⟩
  dumps _ := [2]
  loads _ := .ok (.object (expectedManifestKeys.map (fun key => (key, .null))))
  sha256 _ := ⟨"aaaaaaaaaaaaaaaaaaaaaaaaaaaaaaaaaaaaaaaaaaaaaaaaaaaaaaaaaaaaaaaa", by decide⟩
  renderProfile _ := .ok pngSignature
  gitCommitHash := ⟨"aaaaaaaaaaaaaaaaaaaaaaaaaaaaaaaaaaaaaaaa", by decide⟩
  formulaParameters := .null

/-- A publication whose clocks all read the same second. -/
def samplePublication (second : ℤ) : GoldProgram.PublishCall where
  frame := .ok ⟨[(some 0, fun _ => some Float64.one)]⟩
  inputs := []
  hasMirror := false
  reconcileClock := .utc (second * 1000000)
  buildIdClock := .utc (second * 1000000)
  startClock := .utc (second * 1000000)
  completionClock := .utc (second * 1000000)
  failureClock := .utc (second * 1000000)

/-- The record of a current build of one row. -/
def sampleBuild : GoldCatalogRecord :=
  { GoldProgram.buildingAttempt "19700101T000010Z" (.utc 10000000) with
    status := .complete
    current := true
    completedAtUtc := some (.utc 11000000)
    minTimestamp := some (.utc 0)
    maxTimestamp := some (.utc 0)
    rowCount := some 1
    dataPath := some (artifactPath .data "19700101T000010Z")
    buildManifestPath := some (artifactPath .manifest "19700101T000010Z")
    plotPath := some (artifactPath .plot "19700101T000010Z") }

/-- The record of an older build that has been pruned. -/
def samplePruned : GoldCatalogRecord :=
  { GoldProgram.buildingAttempt "19700101T000005Z" (.utc 5000000) with
    status := .complete
    completedAtUtc := some (.utc 6000000)
    rowCount := some 1
    prunedAtUtc := some (.utc 20000000) }

/-- A session that starts with both. -/
def sampleSession : GoldSession where
  lake :=
    { catalog := some [samplePruned, sampleBuild]
      builds := fun _ => some (fun _ => some pngSignature)
      rootJson := none
      rootProfile := none }
  events := []

theorem wellFormed_sample : WellFormedCatalog sampleSession.lake.records :=
  (catalogFrame_eq_ok.mp (show catalogFrame [samplePruned, sampleBuild]
    = .ok [samplePruned, sampleBuild] from by rfl)).1

/-- A run in which retention stops before it sweeps, and a publication draws the id
of the pruned build, and another one stops in the middle. -/
def sampleCalls : List (GoldCall × List (Fault PyError)) :=
  [(.retain ⟨1, le_refl 1⟩ (.utc 21000000), [.none, .crashBefore]),
    (.publish (samplePublication 5), []),
    (.publish (samplePublication 30), List.replicate 14 .none ++ [.crashAfter]),
    (.reconcile (.utc 40000000), [])]

/-! ## The catalog -/

/-- **The catalog invariant over all runs.** At every moment of every run the catalog
has distinct build ids and at most one current record, which is a complete build
that is not pruned and has its three paths; once a build is current, one is
current at every later moment; and a step other than a promotion leaves the same
build current. -/
theorem goldCatalog_invariant (formats : GoldFormats) (initial : GoldSession)
    (hevents : initial.events = []) (hvalid : WellFormedCatalog initial.lake.records)
    (calls : List (GoldCall × List (Fault PyError))) :
    let session := runCalls formats initial calls
    let onDisk := onDiskAfter initial.lake.records
    session.lake.records = onDisk session.events
      ∧ (∀ moment, moment <:+ session.events →
        ((onDisk moment).map (·.buildId)).Nodup
          ∧ (∀ r ∈ onDisk moment, ∀ r' ∈ onDisk moment,
            r.current = true → r'.current = true → r = r')
          ∧ ∀ r ∈ onDisk moment, r.current = true →
            r.status = .complete ∧ r.prunedAtUtc = none ∧ r.artifactPathsComplete = true)
      ∧ (∀ later earlier, later <:+ session.events → earlier <:+ later →
        (∃ buildId, IsCurrent (onDisk earlier) buildId) → ∃ buildId, IsCurrent (onDisk later) buildId)
      ∧ ∀ step rows earlier, .wrote step rows :: earlier <:+ session.events → step ≠ .promoted →
        ∀ buildId, IsCurrent rows buildId ↔ IsCurrent (onDisk earlier) buildId := by
  obtain ⟨hhistory, hdisk⟩ := history_of_leads (leads_runCalls formats initial calls) hevents
  refine ⟨hdisk, fun moment hmoment => ?_, fun later earlier hlater hearlier => ?_,
    fun step rows earlier hsuffix => ?_⟩
  · have hwf := hhistory.wellFormed hvalid hmoment
    refine ⟨hwf.nodup_ids, fun r hr r' hr' hc hc' => hwf.eq_of_current hr hr' hc hc', ?_⟩
    intro r hr hc
    have hr := hwf.records_wellFormed r hr
    have hcomplete := hr.complete_of_current hc
    have hunpruned := hr.unpruned_of_current hc
    exact ⟨hcomplete, hunpruned, (hr.complete_artifacts hcomplete hunpruned).2.2⟩
  · exact hhistory.kept (P := fun records => ∃ buildId, IsCurrent records buildId)
      (fun _ _ _ hmove => hmove.current_kept) hlater hearlier
  · exact (hhistory _ _ hsuffix).current_same

/-- The current build survives a run that is cut twice. -/
theorem goldCatalog_invariant_sample :
    ∃ buildId, IsCurrent (runCalls sampleFormats sampleSession sampleCalls).lake.records buildId := by
  obtain ⟨hdisk, -, hkept, -⟩ :=
    goldCatalog_invariant sampleFormats sampleSession rfl wellFormed_sample sampleCalls
  rw [hdisk]
  exact hkept _ [] (List.suffix_refl _) List.nil_suffix
    ⟨_, sampleBuild, List.mem_cons_of_mem _ List.mem_cons_self, rfl, rfl⟩

/-! ## The sweeper -/

/-- **The sweeper is safe over all runs.** Whenever it is called for a build, and
whenever it removes a file of one, the catalog on disk records the build as
pruned, so that it is neither current nor selectable, nor building or failed; a
pruned build is never current or selectable again; and a retention run that
returns has swept every build that the catalog records as pruned. -/
theorem goldRetention_safe (formats : GoldFormats) (initial : GoldSession)
    (hevents : initial.events = []) (hvalid : WellFormedCatalog initial.lake.records)
    (hpruned : ∀ r ∈ initial.lake.records, r.prunedAtUtc.isSome = true →
      GoldProgram.isMarked r = true)
    (calls : List (GoldCall × List (Fault PyError))) :
    let session := runCalls formats initial calls
    let onDisk := onDiskAfter initial.lake.records
    (∀ buildId records earlier, .sweeping buildId records :: earlier <:+ session.events →
        records = onDisk earlier
          ∧ ∃ r ∈ records, r.buildId = buildId ∧ r.prunedAtUtc.isSome = true)
      ∧ (∀ buildId artifact records earlier,
        .removed buildId artifact records :: earlier <:+ session.events →
        records = onDisk earlier ∧ ∀ r ∈ records, r.buildId = buildId →
          r.current = false ∧ r.selectableComplete = false ∧ r.status = .complete
            ∧ r.prunedAtUtc.isSome = true)
      ∧ (∀ later earlier, later <:+ session.events → earlier <:+ later →
        ∀ r ∈ onDisk earlier, r.prunedAtUtc.isSome = true →
        ∀ r' ∈ onDisk later, r'.buildId = r.buildId →
          r'.current = false ∧ r'.selectableComplete = false ∧ r'.prunedAtUtc.isSome = true)
      ∧ ∀ policy clock faults result s' rest,
        GoldProgram.retain formats policy clock session faults = (.returned result, s', rest) →
        ∀ r ∈ s'.lake.records, r.prunedAtUtc.isSome = true →
          r.buildId ∈ result.sweptBuildIds ∧ s'.lake.builds r.buildId = none := by
  have hleads := leads_runCalls formats initial calls
  obtain ⟨hhistory, hdisk⟩ := history_of_leads hleads hevents
  -- a marked record is one that nobody reads any more
  have hmarked : ∀ r : GoldCatalogRecord, GoldProgram.isMarked r = true →
      r.current = false ∧ r.selectableComplete = false ∧ r.status = .complete
        ∧ r.prunedAtUtc.isSome = true := by
    intro r hm
    obtain ⟨hstatus, hc, hp, -⟩ := GoldProgram.of_isMarked hm
    refine ⟨hc, ?_, hstatus, hp⟩
    cases hpr : r.prunedAtUtc <;> simp_all [GoldCatalogRecord.selectableComplete]
  refine ⟨fun buildId records earlier hsuffix => ?_,
    fun buildId artifact records earlier hsuffix => ?_,
    fun later earlier hlater hearlier r hr hp r' hr' hid => ?_,
    fun policy clock faults result s' rest hreturn r hr hp => ?_⟩
  · obtain ⟨heq, r, hr, hid, hm⟩ := hhistory _ _ hsuffix
    exact ⟨heq, r, hr, hid, (hmarked r hm).2.2.2⟩
  · obtain ⟨heq, r, hr, hid, hm⟩ := hhistory _ _ hsuffix
    have hwf := hhistory.wellFormed hvalid ((List.suffix_cons _ earlier).trans hsuffix)
    refine ⟨heq, fun r' hr' hid' => ?_⟩
    obtain rfl := (heq ▸ hwf).eq_of_buildId hr' hr (hid'.trans hid.symm)
    exact hmarked r' hm
  · have hm := hhistory.marked_of_pruned hpruned (hearlier.trans hlater) r hr hp
    have hkept : r ∈ onDiskAfter initial.lake.records later :=
      hhistory.kept (P := fun records => r ∈ records)
        (fun _ _ _ hmove hold => hmove.marked_kept r hold hm) hlater hearlier hr
    obtain rfl := (hhistory.wellFormed hvalid hlater).eq_of_buildId hr' hkept hid
    obtain ⟨hc, hs, -, hp⟩ := hmarked r' hm
    exact ⟨hc, hs, hp⟩
  · have hretain := GoldProgram.wp_retain formats policy clock hleads faults
    rw [hreturn] at hretain
    obtain ⟨hleads', -, hswept⟩ := hretain
    obtain ⟨hhistory', hdisk'⟩ := history_of_leads hleads' hevents
    exact hswept r hr (hhistory'.marked_of_pruned hpruned (List.suffix_refl _) r (hdisk' ▸ hr) hp)

/-- The pruned build does not come back in a run that draws its id again. -/
theorem goldRetention_safe_sample :
    (runCalls sampleFormats sampleSession sampleCalls).lake.records.filter
      (fun r => r.buildId == samplePruned.buildId && (r.current || r.selectableComplete)) = [] := by
  have hpruned : ∀ r ∈ sampleSession.lake.records, r.prunedAtUtc.isSome = true →
      GoldProgram.isMarked r = true := by decide
  obtain ⟨-, -, hnever, -⟩ := goldRetention_safe sampleFormats sampleSession rfl
    wellFormed_sample hpruned sampleCalls
  have hdisk := (history_of_leads (leads_runCalls sampleFormats sampleSession sampleCalls) rfl).2
  refine List.filter_eq_nil_iff.mpr (fun r hr hbad => ?_)
  simp only [Bool.and_eq_true, beq_iff_eq] at hbad
  obtain ⟨hc, hs, -⟩ := hnever _ [] (List.suffix_refl _) List.nil_suffix samplePruned
    List.mem_cons_self rfl r (hdisk ▸ hr) hbad.1
  simp [hc, hs] at hbad

/-! ## The root views -/

/-- **The root views follow the catalog.** After any run, from any files, a
reconciliation or a publication that returns, and a retention run that returns
and has marked or swept a build, leave the root views those of the catalog: the
serialization of the current record and the picture of its build, or nothing. -/
theorem rootViews_follow_catalog (formats : GoldFormats) (initial : GoldSession)
    (calls : List (GoldCall × List (Fault PyError))) :
    let session := runCalls formats initial calls
    (∀ clock faults records s' rest,
        GoldProgram.reconcile formats clock session faults = (.returned records, s', rest) →
        RootViewsMatch formats s'.lake)
      ∧ (∀ call faults record s' rest,
        GoldProgram.publish formats call session faults = (.returned record, s', rest) →
        RootViewsMatch formats s'.lake)
      ∧ ∀ policy clock faults result s' rest,
        GoldProgram.retain formats policy clock session faults = (.returned result, s', rest) →
        result.markedBuildIds ≠ [] ∨ result.sweptBuildIds ≠ [] →
        RootViewsMatch formats s'.lake := by
  intro session
  have hs : Leads session session := .refl
  refine ⟨fun clock faults records s' rest h => ?_, fun call faults record s' rest h => ?_,
    fun policy clock faults result s' rest h hany => ?_⟩
  · have hend := GoldProgram.wp_reconcile formats clock hs faults
    rw [h] at hend
    exact hend.2.2
  · have hend := GoldProgram.wp_publish formats call hs faults
    rw [h] at hend
    exact hend.2.1
  · have hend := GoldProgram.wp_retain formats policy clock hs
      faults
    rw [h] at hend
    exact hend.2.1 hany
