import MacroLoader.GoldHistory

/-!
# Publication is all or nothing

Between the registration of an attempt and the return of a publication anything may
raise, and the rename that promotes the attempt may raise after it has taken effect.
The handler cannot know from the error which of these it was, so it reads the catalog
again: an attempt that is still building is finalized as failed, and one that is not
is left alone. Up to there a run can be in two states only (`IsOpen`, `IsPromoted`), and
the handler tells them apart because the attempt is building in the one and complete
in the other.
-/

open Program

/-- An attempt that has been registered, and the records that there were before. -/
structure RegisteredAttempt where
  records : List GoldCatalogRecord
  buildId : String
  startedAt : PyDatetime

namespace RegisteredAttempt

/-- The record of the attempt. -/
def building (attempt : RegisteredAttempt) : GoldCatalogRecord :=
  GoldProgram.buildingAttempt attempt.buildId attempt.startedAt

/-- The records with the one of the attempt. -/
def registered (attempt : RegisteredAttempt) : List GoldCatalogRecord :=
  attempt.records ++ [attempt.building]

theorem building_mem (attempt : RegisteredAttempt) : attempt.building ∈ attempt.registered :=
  List.mem_append_right _ List.mem_cons_self

/-- The id of the attempt is new. -/
theorem buildId_ne (attempt : RegisteredAttempt) (h : WellFormedCatalog attempt.registered)
    {r : GoldCatalogRecord} (hr : r ∈ attempt.records) : r.buildId ≠ attempt.buildId := by
  intro heq
  have hnodup := h.nodup_ids
  rw [registered, List.map_append] at hnodup
  exact (List.nodup_append.mp hnodup).2.2 _ (List.mem_map_of_mem hr) _
    (List.mem_map_of_mem List.mem_cons_self) heq

end RegisteredAttempt

/-- A record that is current no longer. -/
def demoted (r : GoldCatalogRecord) : GoldCatalogRecord :=
  if r.current then { r with current := false } else r

/-- **The attempt has failed**: its record says so and names no artifacts, and all other
records are as they were. -/
def EndsFailed (attempt : RegisteredAttempt) (after : List GoldCatalogRecord) : Prop :=
  ∃ failed : GoldCatalogRecord, failed.buildId = attempt.buildId ∧ failed.status = .failed
    ∧ failed.current = false ∧ failed.rowCount = none ∧ failed.minTimestamp = none
    ∧ failed.maxTimestamp = none ∧ failed.dataPath = none ∧ failed.buildManifestPath = none
    ∧ failed.plotPath = none ∧ after.Perm (attempt.records ++ [failed])

/-- **The attempt is the current build**: its record is complete, and the record that was
current before is current no longer, which is all that has changed. -/
def EndsCurrent (attempt : RegisteredAttempt) (complete : GoldCatalogRecord)
    (after : List GoldCatalogRecord) : Prop :=
  complete.buildId = attempt.buildId ∧ complete.status = .complete ∧ complete.current = true
    ∧ complete.startedAtUtc = attempt.startedAt
    ∧ after.Perm (attempt.records.map demoted ++ [complete])

namespace GoldProgram

/-! ## The two parts of a publication -/

/-- A publication up to the registration of its attempt. -/
def registerAttempt (formats : GoldFormats) (call : PublishCall) : GoldProgram RegisteredAttempt := do
  let records ← reconcile formats call.reconcileClock
  let buildId ← nextBuildId call.buildIdClock
  let startedAt ← ofExcept (publicationUtc call.startClock)
  replaceCatalog .registered (records ++ [buildingAttempt buildId startedAt])
  signal "catalog:building"
  return ⟨records, buildId, startedAt⟩

/-- The candidate of an attempt, up to its promotion. -/
def promoteCandidate (formats : GoldFormats) (call : PublishCall) (attempt : RegisteredAttempt) :
    GoldProgram (List GoldCatalogRecord) :=
  publishCandidate formats call attempt.buildId attempt.startedAt attempt.registered

/-- A publication from its promotion on. -/
def showPromoted (formats : GoldFormats) (call : PublishCall) (attempt : RegisteredAttempt)
    (promoted : List GoldCatalogRecord) : GoldProgram GoldCatalogRecord := do
  let current ← findBuild promoted attempt.buildId
  tryCatch (do
    refreshViews formats promoted
    signal "views:promoted") (fun e => do
      signal "views:promoted-failed"
      throw e)
  onlyIf call.hasMirror syncMirror
  return current

/-- A publication after the registration of its attempt. -/
def publishRegistered (formats : GoldFormats) (call : PublishCall) (attempt : RegisteredAttempt) :
    GoldProgram GoldCatalogRecord := do
  let promoted ← tryCatch (promoteCandidate formats call attempt) (fun e => do
    finalizeFailedIfUncommitted formats attempt.buildId call.failureClock
    throw e)
  showPromoted formats call attempt promoted

/-- **A publication is its two parts**, one after the other. -/
theorem publish_eq (formats : GoldFormats) (call : PublishCall) :
    publish formats call = registerAttempt formats call >>= publishRegistered formats call := by
  unfold registerAttempt
  simp only [run_bind_assoc]
  rfl

/-- **The catalog works while an attempt is finalized**: the first effect of the handler is
to read the catalog and the second is to replace it, and neither meets a fault. -/
def FinalizationWorks (formats : GoldFormats) (call : PublishCall) (attempt : RegisteredAttempt)
    (s : GoldSession) (faults : List (Fault PyError)) : Prop :=
  ∀ e s' faults', promoteCandidate formats call attempt s faults = (.raised e, s', faults') →
    ∀ fault ∈ faults'.take 2, fault = .none

variable {formats : GoldFormats} {call : PublishCall} {attempt : RegisteredAttempt}
  {s s₁ s' : GoldSession} {promoted rows : List GoldCatalogRecord}

/-! ## Registration -/

/-- **A registered attempt is on disk**, next to the records of the reconciliation. -/
theorem wp_registerAttempt (formats : GoldFormats) (call : PublishCall) (s : GoldSession) :
    wp (registerAttempt formats call) (Post.keeping (fun _ => True) (fun (attempt : RegisteredAttempt) s' =>
      OnDisk attempt.registered s' ∧ attempt.startedAt = call.startClock)) s := by
  have hs : Leads s s := .refl
  refine wp_mono (R := Post.keeping (fun _ => True) (fun (attempt : RegisteredAttempt) s' =>
      OnDisk attempt.registered s' ∧ attempt.startedAt = call.startClock))
    (Q := Post.keeping (Leads s) (fun (attempt : RegisteredAttempt) s' =>
      OnDisk attempt.registered s' ∧ attempt.startedAt = call.startClock)) ?_
    (fun _ _ h => ⟨trivial, h.2⟩) (fun _ _ _ => trivial) (fun _ _ => trivial)
  unfold registerAttempt nextBuildId
  refine wp_bind_keeping (wp_reconcile formats call.reconcileClock hs) ?_
  rintro records s₁ h₁ ⟨hdisk₁, -⟩
  refine wp_bind_keeping (P := fun _ s' => s' = s₁)
    (wp_bind_require h₁ (fun _ => wp_pure_keeping h₁ rfl)) ?_
  rintro buildId s' - rfl
  refine wp_bind_ofExcept h₁ (fun startedAt hstarted => ?_)
  refine wp_bind_keeping (wp_replaceCatalog h₁ (CatalogMove.of_append hdisk₁.perm rfl rfl)) ?_
  rintro _ s₂ h₂ ⟨hdisk₂, -⟩
  exact wp_bind_signal h₂ (wp_pure_keeping h₂ ⟨hdisk₂, (utcDatetime_eq_ok hstarted).1⟩)

/-! ## Up to the promotion -/

/-- The attempt is open: the catalog is as the registration has left it. -/
structure IsOpen (s s' : GoldSession) : Prop where
  catalog_eq : s'.lake.catalog = s.lake.catalog
  events_eq : s'.events = s.events

instance : Std.Refl IsOpen := ⟨fun _ => ⟨rfl, rfl⟩⟩

instance : IsTrans GoldSession IsOpen :=
  ⟨fun _ _ _ h h' => ⟨h'.catalog_eq.trans h.catalog_eq, h'.events_eq.trans h.events_eq⟩⟩

theorem IsOpen.trans {s'' : GoldSession} (h : IsOpen s s') (h' : IsOpen s' s'') : IsOpen s s'' :=
  IsTrans.trans _ _ _ h h'

/-- The attempt has been promoted, by the one rename that does so. -/
structure IsPromoted (attempt : RegisteredAttempt) (s s' : GoldSession)
    (promoted rows : List GoldCatalogRecord) : Prop where
  catalog_eq : s'.lake.catalog = some rows
  events_eq : s'.events = .wrote .promoted rows :: s.events
  perm : rows.Perm promoted
  wellFormed : WellFormedCatalog promoted
  complete : ∃ complete, promoted = attempt.records.map demoted ++ [complete]
    ∧ EndsCurrent attempt complete promoted

/-- What is promoted of a registered attempt. -/
theorem promotedRecords_eq {candidate : GoldPublicationBundle}
    (hwf : WellFormedCatalog attempt.registered) (hid : candidate.buildId = attempt.buildId)
    (h : promotedRecords attempt.registered candidate = .ok promoted) :
    ∃ complete, promoted = attempt.records.map demoted ++ [complete]
      ∧ EndsCurrent attempt complete promoted := by
  unfold promotedRecords at h
  simp only [bind_eq_ok, check_eq_ok, exists_const] at h
  obtain ⟨-, -, h⟩ := h
  split at h
  · next found hfilter =>
    simp only [bind_eq_ok, check_eq_ok, exists_const] at h
    obtain ⟨-, completedAt, -, h⟩ := h
    have hpromoted := (Except.ok.inj h).symm
    -- the record that is found is the one of the attempt
    have hmem : found ∈ attempt.registered ∧ found.buildId = candidate.buildId := by
      have : found ∈ attempt.registered.filter (fun r => r.buildId == candidate.buildId) := by
        simp [hfilter]
      simpa using this
    obtain rfl := hwf.eq_of_buildId hmem.1 attempt.building_mem (hmem.2.trans hid)
    have hothers : ∀ r ∈ attempt.records, r.buildId ≠ candidate.buildId :=
      fun r hr heq => attempt.buildId_ne hwf hr (heq.trans hid)
    have hshape : promoted = attempt.records.map demoted
        ++ [completedAttempt attempt.building candidate completedAt] := by
      rw [hpromoted, RegisteredAttempt.registered, List.map_append]
      have hrest : attempt.records.map (fun r => if r.buildId = candidate.buildId then
          completedAttempt attempt.building candidate completedAt
        else if r.current then { r with current := false } else r)
          = attempt.records.map demoted :=
        List.map_congr_left (fun r hr => if_neg (hothers r hr))
      have hsame : attempt.building.buildId = candidate.buildId := hid.symm
      rw [hrest, List.map_singleton, if_pos hsame]
    exact ⟨_, hshape, rfl, rfl, rfl, rfl, hshape ▸ List.Perm.refl _⟩
  · cases h

/-- **Up to its promotion an attempt is open or promoted**, whatever fails, and it is
promoted where its program returns. -/
theorem wp_promoteCandidate (hdisk : OnDisk attempt.registered s) :
    wp (promoteCandidate formats call attempt) (Post.keeping
      (fun s' => IsOpen s s' ∨ ∃ promoted rows, IsPromoted attempt s s' promoted rows)
      (fun promoted s' => ∃ rows, IsPromoted attempt s s' promoted rows)) s := by
  have hopen : ∀ s', IsOpen s s' →
      IsOpen s s' ∨ ∃ promoted rows, IsPromoted attempt s s' promoted rows := fun _ => .inl
  have hstart := hopen s (Std.Refl.refl s)
  unfold promoteCandidate publishCandidate
  have hviews : Moves IsOpen (refreshViews formats attempt.registered) :=
    (moves_refreshViews formats _).mono (fun _ _ h => ⟨h.catalog_eq, h.events_eq⟩)
  refine wp_bind_keeping (hviews.keeping hopen (fun _ s' h => h)) (fun _ s₁ h₁ hopen₁ => ?_)
  refine wp_bind_signal h₁ ?_
  have hstart₁ : OnlyBuild attempt.buildId s₁ s₁ := Std.Refl.refl s₁
  have hbundle : ∀ s', OnlyBuild attempt.buildId s₁ s' → IsOpen s s' := fun s' honly =>
    hopen₁.trans ⟨honly.catalog_eq, honly.events_eq⟩
  refine wp_bind (wp_mono (wp_createAndValidate hstart₁) ?_
    (fun _ _ honly => hopen _ (hbundle _ honly)) (fun _ honly => hopen _ (hbundle _ honly)))
  rintro candidate s₂ ⟨honly, written, artifact, manifest, plot, reread, -, hcandidate⟩
  have hopen₂ := hbundle s₂ honly
  have hid : candidate.buildId = attempt.buildId := by rw [hcandidate.candidate_eq]
  refine wp_bind_signal (hopen _ hopen₂) (wp_bind_ofExcept (hopen _ hopen₂)
    (fun promoted hpromoted => ?_))
  have hcomplete := promotedRecords_eq hdisk.wellFormed hid hpromoted
  unfold replaceCatalog
  refine wp_bind_keeping (P := fun _ s' => ∃ rows, IsPromoted attempt s s' promoted rows)
    (wp_bind_ofExcept (hopen _ hopen₂) (fun rows hrows => ?_)) ?_
  · have hwritten : IsPromoted attempt s (setCatalog .promoted rows s₂) promoted rows := by
      refine ⟨rfl, ?_, catalogFrame_perm hrows, (catalogFrame_eq_ok.mp hrows).1, hcomplete⟩
      rw [← hopen₂.events_eq]
      rfl
    -- the rename may raise after it has taken effect
    exact wp_write_keeping (hopen _ hopen₂) (.inr ⟨promoted, rows, hwritten⟩) ⟨rows, hwritten⟩
  · rintro _ s₃ h₃ hwritten
    exact wp_bind_signal h₃ (wp_pure_keeping h₃ hwritten)

/-! ## The handler -/

/-- The attempt has been finalized as failed, by the one rename that does so. -/
structure IsFinalized (attempt : RegisteredAttempt) (s s' : GoldSession)
    (rows : List GoldCatalogRecord) : Prop where
  catalog_eq : s'.lake.catalog = some rows
  events_eq : s'.events = .wrote .attemptFailed rows :: s.events
  endsFailed : EndsFailed attempt rows

/-- A record that is finalized is accepted by the catalog, if the clock has not gone back. -/
theorem wellFormed_failedAttempt {r : GoldCatalogRecord} {failedAt : PyDatetime}
    (h : r.WellFormed) (haware : failedAt.isAware = true)
    (hclock : r.startedAtUtc.instant ≤ failedAt.instant) : (failedAttempt r failedAt).WellFormed where
  aware field hfield := by
    have hstarted := h.aware ("started_at_utc", some r.startedAtUtc) List.mem_cons_self
    simp only [GoldCatalogRecord.datetimes, failedAttempt, List.mem_cons, List.not_mem_nil,
      or_false] at hfield
    rcases hfield with rfl | rfl | rfl | rfl | rfl
    · exact hstarted
    · exact haware
    · rfl
    · rfl
    · rfl
  rowCount_nonneg _ hn := by cases hn
  completed_after t ht := by
    obtain rfl := Option.some.inj ht
    exact hclock
  bounds_ordered _ ha := by cases ha
  paths_together hany := by cases hany
  complete_of_current hcurrent := by cases hcurrent
  unpruned_of_current hcurrent := by cases hcurrent
  complete_artifacts hstatus := by cases hstatus

/-- The catalog in which the attempt has been finalized. -/
def finalized (attempt : RegisteredAttempt) (failedAt : PyDatetime)
    (records : List GoldCatalogRecord) : List GoldCatalogRecord :=
  records.map (fun r =>
    if r.buildId = attempt.buildId then failedAttempt attempt.building failedAt else r)

section Finalized

variable {failedAt : PyDatetime} {records : List GoldCatalogRecord}

theorem wellFormed_finalized (h : WellFormedCatalog records)
    (hmem : attempt.building ∈ records) (haware : failedAt.isAware = true)
    (hclock : attempt.startedAt.instant ≤ failedAt.instant) :
    WellFormedCatalog (finalized attempt failedAt records) where
  records_wellFormed r hr := by
    obtain ⟨r', hr', rfl⟩ := List.mem_map.mp hr
    split_ifs
    · exact wellFormed_failedAttempt (h.records_wellFormed _ hmem) haware hclock
    · exact h.records_wellFormed r' hr'
  nodup_ids := by
    have hids : (finalized attempt failedAt records).map (·.buildId) = records.map (·.buildId) := by
      rw [finalized, List.map_map]
      refine List.map_congr_left (fun r _ => ?_)
      rw [Function.comp_apply]
      split_ifs with hid
      · exact hid.symm
      · rfl
    rw [hids]
    exact h.nodup_ids
  current_le_one := by
    have hsub : ((finalized attempt failedAt records).filter (·.current)).length
        ≤ (records.filter (·.current)).length := by
      rw [finalized, List.filter_map, List.length_map]
      refine (List.monotone_filter_right records (fun r hr => ?_)).length_le
      rw [Function.comp_apply] at hr
      split_ifs at hr
      · cases hr
      · exact hr
    exact hsub.trans h.current_le_one

theorem perm_finalized (h : WellFormedCatalog attempt.registered)
    (hperm : records.Perm attempt.registered) : (finalized attempt failedAt records).Perm
      (attempt.records ++ [failedAttempt attempt.building failedAt]) := by
  refine (hperm.map _).trans ?_
  have hothers : attempt.records.map (fun r => if r.buildId = attempt.buildId then
      failedAttempt attempt.building failedAt else r) = attempt.records := by
    rw [List.map_congr_left (fun r hr => if_neg (attempt.buildId_ne h hr)), List.map_id']
  have hlast : attempt.building.buildId = attempt.buildId := rfl
  rw [RegisteredAttempt.registered, List.map_append, hothers, List.map_singleton, if_pos hlast]

end Finalized

/-- **An open attempt is finalized**, if the catalog works: the handler finds it
building. -/
theorem finalize_open {clock : PyDatetime} {faults : List (Fault PyError)}
    (hdisk : OnDisk attempt.registered s) (hopen : IsOpen s s') (haware : clock.isAware = true)
    (hclock : attempt.startedAt.instant ≤ clock.instant)
    (hworks : ∀ fault ∈ faults.take 2, fault = .none) :
    (Post.always (fun s'' => ∃ rows, IsFinalized attempt s s'' rows)).At
      (finalizeFailedIfUncommitted formats attempt.buildId clock s' faults) := by
  have hwf : WellFormedCatalog s.lake.records := hdisk.wellFormed.of_perm hdisk.perm
  have hmem : attempt.building ∈ s.lake.records := hdisk.perm.mem_iff.mpr attempt.building_mem
  have hfirst : ∀ fault ∈ faults.take 1, fault = .none := fun fault h =>
    hworks fault ((List.take_sublist_take_left (by decide)).subset h)
  have hsecond : ∀ fault ∈ (faults.drop 1).take 1, fault = .none := fun fault h => by
    rw [List.take_drop] at h
    exact hworks fault (List.mem_of_mem_drop h)
  have hread : readRecords s' faults = (.returned s.lake.records, s', faults.drop 1) := by
    refine run_effect hfirst ?_
    show (readCatalog s'.lake.catalog, s') = _
    rw [hopen.catalog_eq, WellFormedCatalog.readCatalog hwf]
    rfl
  have hfind : s.lake.records.find? (fun r => r.buildId == attempt.buildId)
      = some attempt.building := by
    cases hfound : s.lake.records.find? (fun r => r.buildId == attempt.buildId) with
    | none => exact absurd (beq_self_eq_true _) (List.find?_eq_none.mp hfound _ hmem)
    | some target =>
      have hid : target.buildId = attempt.buildId := by simpa using List.find?_some hfound
      rw [hwf.eq_of_buildId (List.mem_of_find?_eq_some hfound) hmem hid]
  have hframe := catalogFrame_eq_ok.mpr ⟨wellFormed_finalized hwf hmem haware hclock, rfl⟩
  generalize (finalized attempt clock s.lake.records).insertionSort
    (fun a b => GoldCatalogRecord.rowLE a b) = rows at hframe
  have hutc : publicationUtc clock = .ok clock := if_pos haware
  have hreplace : replaceCatalog .attemptFailed (finalized attempt clock s.lake.records) s'
      (faults.drop 1) = (.returned (), setCatalog .attemptFailed rows s', (faults.drop 1).drop 1) := by
    unfold replaceCatalog
    rw [hframe]
    exact (run_bind_of_returned rfl).trans (run_effect hsecond rfl)
  have hrest : Moves IsOpen (do
      signal "catalog:failed"
      tryCatch (do
        refreshViews formats (finalized attempt clock s.lake.records)
        signal "views:failed") (fun _ => signal "views:failed-refresh-error")) := by
    refine moves_bind (moves_signal _) (fun _ => moves_tryCatch (moves_bind ?_ (fun _ =>
      moves_signal _)) (fun _ => moves_signal _))
    exact (moves_refreshViews formats _).mono (fun _ _ h => ⟨h.catalog_eq, h.events_eq⟩)
  have hrun : finalizeFailedIfUncommitted formats attempt.buildId clock s' faults
      = (do
        signal "catalog:failed"
        tryCatch (do
          refreshViews formats (finalized attempt clock s.lake.records)
          signal "views:failed") (fun _ => signal "views:failed-refresh-error"))
        (setCatalog .attemptFailed rows s') ((faults.drop 1).drop 1) := by
    unfold finalizeFailedIfUncommitted
    rw [run_bind_of_returned hread, hfind]
    have hopen : ∀ m : GoldProgram Unit,
        (if attempt.building.status ≠ .building then pure () else m) = m :=
      fun _ => if_neg (not_not.mpr rfl)
    dsimp only
    rw [hopen, hutc]
    exact (run_bind_of_returned rfl).trans (run_bind_of_returned hreplace)
  rw [hrun]
  have hend : ∀ s'', IsOpen (setCatalog .attemptFailed rows s') s'' →
      ∃ rows, IsFinalized attempt s s'' rows := by
    intro s'' h
    refine ⟨rows, h.catalog_eq, ?_, failedAttempt attempt.building clock, rfl, rfl, rfl, rfl, rfl,
      rfl, rfl, rfl, rfl, ?_⟩
    · rw [h.events_eq, ← hopen.events_eq]
      rfl
    · exact (catalogFrame_perm hframe).trans (perm_finalized hdisk.wellFormed hdisk.perm)
  exact hrest.wp (fun _ s'' h => hend s'' h) (fun _ s'' h => hend s'' h) (fun s'' h => hend s'' h) _

/-- **A promoted attempt is left alone**: the handler finds it complete. -/
theorem wp_finalize_promoted {clock : PyDatetime} (h : IsPromoted attempt s s' promoted rows) :
    wp (finalizeFailedIfUncommitted formats attempt.buildId clock)
      (Post.always (fun s'' => s'' = s')) s' := by
  unfold finalizeFailedIfUncommitted
  refine wp_bind (wp_query (fun records hread => ?_) (fun _ => rfl) rfl)
  have hrecords : records = rows := by
    rw [(readCatalog_eq_ok hread).1, h.catalog_eq]
    rfl
  dsimp only
  split
  · exact wp_pure rfl
  · next target hfind =>
    have hmem := h.perm.mem_iff.mp (hrecords ▸ List.mem_of_find?_eq_some hfind)
    have hid : target.buildId = attempt.buildId := by simpa using List.find?_some hfind
    obtain ⟨complete, hpromoted, hcid, hcstatus, -⟩ := h.complete
    have hcomplete : complete ∈ promoted :=
      hpromoted ▸ List.mem_append_right _ List.mem_cons_self
    obtain rfl := h.wellFormed.eq_of_buildId hmem hcomplete (hid.trans hcid.symm)
    rw [if_pos (by rw [hcstatus]; decide)]
    exact wp_pure rfl

/-! ## After the promotion -/

/-- Whatever fails after the promotion leaves the catalog alone, and what is returned is
the record of the attempt. -/
theorem wp_showPromoted {complete : GoldCatalogRecord} (hwf : WellFormedCatalog promoted)
    (hcomplete : complete ∈ promoted) (hid : complete.buildId = attempt.buildId) :
    wp (showPromoted formats call attempt promoted)
      (Post.keeping (IsOpen s) (fun record _ => record = complete)) s := by
  have hstart : IsOpen s s := Std.Refl.refl s
  unfold showPromoted
  refine wp_bind_keeping (P := fun found s' => found = complete ∧ s' = s) ?_ ?_
  · unfold findBuild
    split
    · next found hfind =>
      have hfound : found.buildId = attempt.buildId := by simpa using List.find?_some hfind
      exact wp_pure_keeping hstart ⟨hwf.eq_of_buildId (List.mem_of_find?_eq_some hfind) hcomplete
        (hfound.trans hid.symm), rfl⟩
    · exact wp_throw_keeping hstart
  · rintro found s' - ⟨rfl, rfl⟩
    have hviews : Moves IsOpen (refreshViews formats promoted) :=
      (moves_refreshViews formats _).mono (fun _ _ h => ⟨h.catalog_eq, h.events_eq⟩)
    have hshow : Moves IsOpen (tryCatch (do
        refreshViews formats promoted
        signal "views:promoted") (fun e => do
          signal "views:promoted-failed"
          throw e)) :=
      moves_tryCatch (moves_bind hviews (fun _ => moves_signal _))
        (fun _ => moves_bind (moves_signal _) (fun _ => moves_throw _))
    refine wp_bind_keeping (P := fun _ _ => True) (hshow.keeping (fun _ h => h)
      (fun _ _ _ => trivial)) (fun _ s₁ h₁ _ => ?_)
    have hmirror : Moves IsOpen (onlyIf call.hasMirror syncMirror) :=
      moves_onlyIf (moves_bind (moves_signal _) (fun _ => moves_signal _))
    refine wp_bind_keeping (P := fun _ _ => True) (hmirror.keeping (fun _ h => h₁.trans h)
      (fun _ _ _ => trivial)) (fun _ s₂ h₂ _ => wp_pure_keeping h₂ rfl)

/-- What has been written since the registration, and what came of the attempt. -/
inductive PublishEnd (attempt : RegisteredAttempt) (s s' : GoldSession) :
    Outcome PyError GoldCatalogRecord → Prop
  | failed {e : PyError} {rows : List GoldCatalogRecord}
      (h : IsFinalized attempt s s' rows) : PublishEnd attempt s s' (.raised e)
  | raised {e : PyError} {promoted rows : List GoldCatalogRecord}
      (h : IsPromoted attempt s s' promoted rows) : PublishEnd attempt s s' (.raised e)
  | returned {record : GoldCatalogRecord} {promoted rows : List GoldCatalogRecord}
      (h : IsPromoted attempt s s' promoted rows)
      (hrecord : EndsCurrent attempt record promoted) : PublishEnd attempt s s' (.returned record)

theorem IsPromoted.congr {s'' : GoldSession} (h : IsPromoted attempt s s' promoted rows)
    (hopen : IsOpen s' s'') : IsPromoted attempt s s'' promoted rows :=
  { h with
    catalog_eq := hopen.catalog_eq.trans h.catalog_eq
    events_eq := hopen.events_eq.trans h.events_eq }

/-- **How a publication can end** once its attempt is registered, unless the process stops:
every raise before the promotion finalizes the attempt, and none after it does. -/
theorem publishEnd_of_run {r : Outcome PyError GoldCatalogRecord}
    {faults rest : List (Fault PyError)} (hdisk : OnDisk attempt.registered s)
    (haware : call.failureClock.isAware = true)
    (hclock : attempt.startedAt.instant ≤ call.failureClock.instant)
    (hworks : FinalizationWorks formats call attempt s faults)
    (hrun : publishRegistered formats call attempt s faults = (r, s', rest))
    (hr : r ≠ .crashed) : PublishEnd attempt s s' r := by
  have hpromote := (wp_promoteCandidate hdisk :
    wp (promoteCandidate formats call attempt) _ s) faults
  unfold publishRegistered at hrun
  rcases hcandidate : promoteCandidate formats call attempt s faults
    with ⟨promoted | e | _, s₂, faults₂⟩
  · rw [hcandidate] at hpromote
    obtain ⟨-, rows, hpromoted⟩ := hpromote
    have hbody : tryCatch (promoteCandidate formats call attempt) (fun e => do
        finalizeFailedIfUncommitted formats attempt.buildId call.failureClock
        throw e) s faults = (.returned promoted, s₂, faults₂) := by
      rw [Program.tryCatch, hcandidate]
    rw [run_bind_of_returned hbody] at hrun
    obtain ⟨complete, hshape, hcurrent⟩ := hpromoted.complete
    have hmem : complete ∈ promoted := hshape ▸ List.mem_append_right _ List.mem_cons_self
    have hend := (wp_showPromoted hpromoted.wellFormed hmem hcurrent.1 :
      wp (showPromoted formats call attempt promoted) _ s₂) faults₂
    rw [hrun] at hend
    rcases r with record | e | _
    · obtain ⟨hopen, rfl⟩ := hend
      exact .returned (hpromoted.congr hopen) hcurrent
    · exact .raised (hpromoted.congr hend)
    · exact absurd rfl hr
  · rw [hcandidate] at hpromote
    have hbody : tryCatch (promoteCandidate formats call attempt) (fun e => do
        finalizeFailedIfUncommitted formats attempt.buildId call.failureClock
        throw e) s faults = (do
          finalizeFailedIfUncommitted formats attempt.buildId call.failureClock
          throw e) s₂ faults₂ := by
      rw [Program.tryCatch, hcandidate]
    -- whatever the handler does, it raises in the end
    have hraise : ∀ I : GoldSession → Prop,
        (Post.always I).At (finalizeFailedIfUncommitted formats attempt.buildId call.failureClock
          s₂ faults₂) → (∃ e, r = .raised e) ∧ I s' := by
      intro I hI
      rcases hfinalize : finalizeFailedIfUncommitted formats attempt.buildId call.failureClock
        s₂ faults₂ with ⟨_ | e' | _, s₃, faults₃⟩
      · have hthrow := hbody.trans (run_bind_of_returned hfinalize)
        rw [run_bind_of_raised hthrow] at hrun
        cases hrun
        rw [hfinalize] at hI
        exact ⟨⟨_, rfl⟩, hI⟩
      · have hthrow := hbody.trans (run_bind_of_raised hfinalize)
        rw [run_bind_of_raised hthrow] at hrun
        cases hrun
        rw [hfinalize] at hI
        exact ⟨⟨_, rfl⟩, hI⟩
      · have hthrow := hbody.trans (run_bind_of_crashed hfinalize)
        rw [run_bind_of_crashed hthrow] at hrun
        cases hrun
        exact absurd rfl hr
    rcases hpromote with hopen | ⟨promoted, rows, hpromoted⟩
    · obtain ⟨⟨e', rfl⟩, rows, hfinalized⟩ := hraise _ (finalize_open hdisk hopen haware hclock
        (hworks e s₂ faults₂ hcandidate))
      exact .failed hfinalized
    · obtain ⟨⟨e', rfl⟩, rfl⟩ := hraise _ (wp_finalize_promoted hpromoted faults₂)
      exact .raised hpromoted
  · have hbody : tryCatch (promoteCandidate formats call attempt) (fun e => do
        finalizeFailedIfUncommitted formats attempt.buildId call.failureClock
        throw e) s faults = (.crashed, s₂, faults₂) := by
      rw [Program.tryCatch, hcandidate]
    rw [run_bind_of_crashed hbody] at hrun
    cases hrun
    exact absurd rfl hr

end GoldProgram

/-- **Publication is atomic.** Let an attempt be registered, with a clock that does not go
back and a catalog that works while the attempt is finalized, and let anything else raise
anywhere. If the attempt is not promoted, the publication raises, the record of the
attempt is failed and names no artifacts, and all other records are those of the
reconciliation. If it is promoted, its record is the complete current one, the record
that was current is demoted, no other one has changed, and it is never finalized as
failed. The publication returns only if the attempt is promoted. -/
theorem publish_atomic (formats : GoldFormats) (call : GoldProgram.PublishCall)
    {s s₁ s' : GoldSession} {faults faults₁ rest : List (Fault PyError)}
    {attempt : RegisteredAttempt} {r : Outcome PyError GoldCatalogRecord}
    (hregister : GoldProgram.registerAttempt formats call s faults
      = (.returned attempt, s₁, faults₁))
    (haware : call.failureClock.isAware = true)
    (hclock : call.startClock.instant ≤ call.failureClock.instant)
    (hworks : GoldProgram.FinalizationWorks formats call attempt s₁ faults₁)
    (hpublish : GoldProgram.publish formats call s faults = (r, s', rest))
    (hr : r ≠ .crashed) :
    s₁.lake.records.Perm attempt.registered
      ∧ ∃ written, s'.events = written ++ s₁.events
        ∧ ((∀ rows, .wrote .promoted rows ∉ written) →
          (∃ e, r = .raised e) ∧ EndsFailed attempt s'.lake.records)
        ∧ ((∃ rows, .wrote .promoted rows ∈ written) →
          (∀ rows, .wrote .attemptFailed rows ∉ written)
            ∧ ∃ complete, EndsCurrent attempt complete s'.lake.records)
        ∧ ∀ record, r = .returned record →
          (∃ rows, .wrote .promoted rows ∈ written)
            ∧ EndsCurrent attempt record s'.lake.records := by
  have hregistered := GoldProgram.wp_registerAttempt formats call s faults
  rw [hregister] at hregistered
  obtain ⟨-, hdisk, hstarted⟩ := hregistered
  rw [GoldProgram.publish_eq, run_bind_of_returned hregister] at hpublish
  have hcurrent : ∀ {complete promoted rows}, GoldProgram.IsPromoted attempt s₁ s' promoted rows →
      EndsCurrent attempt complete promoted → EndsCurrent attempt complete s'.lake.records := by
    rintro complete promoted rows h ⟨hid, hstatus, hc, hstart, hperm⟩
    have hrecords : s'.lake.records = rows := congrArg (·.getD []) h.catalog_eq
    exact ⟨hid, hstatus, hc, hstart, hrecords ▸ h.perm.trans hperm⟩
  refine ⟨hdisk.perm, ?_⟩
  cases GoldProgram.publishEnd_of_run hdisk haware (hstarted ▸ hclock) hworks hpublish hr with
  | @failed e rows h =>
    have hrecords : s'.lake.records = rows := congrArg (·.getD []) h.catalog_eq
    refine ⟨[.wrote .attemptFailed rows], h.events_eq, fun _ => ⟨⟨e, rfl⟩, hrecords ▸ h.endsFailed⟩,
      fun ⟨rows', hmem⟩ => ?_, fun record hrecord => ?_⟩
    · simp at hmem
    · cases hrecord
  | @raised e promoted rows h =>
    obtain ⟨complete, -, hends⟩ := h.complete
    refine ⟨[.wrote .promoted rows], h.events_eq, fun hnone => ?_,
      fun _ => ⟨fun rows' hmem => ?_, complete, hcurrent h hends⟩, fun record hrecord => ?_⟩
    · exact absurd List.mem_cons_self (hnone rows)
    · simp at hmem
    · cases hrecord
  | @returned record promoted rows h hends =>
    refine ⟨[.wrote .promoted rows], h.events_eq, fun hnone => ?_,
      fun _ => ⟨fun rows' hmem => ?_, record, hcurrent h hends⟩, fun record' hrecord => ?_⟩
    · exact absurd List.mem_cons_self (hnone rows)
    · simp at hmem
    · obtain rfl := Outcome.returned.inj hrecord
      exact ⟨⟨rows, List.mem_cons_self⟩, hcurrent h hends⟩

/-- Whether an attempt is registered in the sample beside the current build, with a candidate
that meets no fault. -/
def registersSample :
    Outcome PyError RegisteredAttempt × GoldSession × List (Fault PyError) → Bool
  | (.returned attempt, s₁, []) => decide (sampleBuild ∈ attempt.records)
    && (GoldProgram.promoteCandidate sampleFormats (samplePublication 30) attempt s₁ []).2.2.isEmpty
  | _ => false

/-- Whether an event is a promotion. -/
def isPromotion : GoldEvent → Bool
  | .wrote .promoted _ => true
  | _ => false

/-- Whether a publication fails without a promotion. -/
def raisesUnpromoted :
    Outcome PyError GoldCatalogRecord × GoldSession × List (Fault PyError) → Bool
  | (.raised _, s', _) => s'.events.all (fun event => !isPromotion event)
  | _ => false

/-- A publication without inputs fails, and leaves the current build as it is. -/
theorem publish_atomic_sample : ∃ e s' rest,
    GoldProgram.publish sampleFormats (samplePublication 30) sampleSession []
        = (.raised e, s', rest)
      ∧ sampleBuild ∈ s'.lake.records ∧ ∃ failed ∈ s'.lake.records, failed.status = .failed := by
  have hregister : registersSample (GoldProgram.registerAttempt sampleFormats
      (samplePublication 30) sampleSession []) = true := by rfl
  have hpublish : raisesUnpromoted (GoldProgram.publish sampleFormats (samplePublication 30)
      sampleSession []) = true := by rfl
  rcases hattempt : GoldProgram.registerAttempt sampleFormats (samplePublication 30)
    sampleSession [] with ⟨attempt | e | _, s₁, _ | ⟨fault, faults⟩⟩
  on_goal 1 =>
    rw [hattempt] at hregister
    obtain ⟨hbuild, hempty⟩ := (Bool.and_eq_true _ _).mp hregister
    rcases hrun : GoldProgram.publish sampleFormats (samplePublication 30) sampleSession []
      with ⟨record | e | _, s', rest⟩
    on_goal 2 =>
      rw [hrun] at hpublish
      have hworks : GoldProgram.FinalizationWorks sampleFormats (samplePublication 30) attempt
          s₁ [] := by
        intro e s₂ faults₂ hcandidate fault hfault
        rw [hcandidate] at hempty
        have hnil : faults₂ = [] := List.isEmpty_iff.mp hempty
        rw [hnil] at hfault
        cases hfault
      obtain ⟨-, written, hevents, hfailed, -⟩ := publish_atomic sampleFormats
        (samplePublication 30) hattempt rfl (le_refl _) hworks hrun (by simp)
      have hopen : ∀ rows, .wrote .promoted rows ∉ written := by
        intro rows hmem
        have hall := List.all_eq_true.mp hpublish (.wrote .promoted rows)
          (hevents ▸ List.mem_append_left _ hmem)
        cases hall
      obtain ⟨-, failed, -, hstatus, -, -, -, -, -, -, -, hperm⟩ := hfailed hopen
      exact ⟨e, s', rest, rfl, hperm.mem_iff.mpr (List.mem_append_left _ (of_decide_eq_true hbuild)),
        failed, hperm.mem_iff.mpr (List.mem_append_right _ List.mem_cons_self), hstatus⟩
  all_goals simp_all [registersSample, raisesUnpromoted]
