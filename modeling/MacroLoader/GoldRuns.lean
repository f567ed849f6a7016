import MacroLoader.GoldSteps

/-!
# Every call makes only such steps

Publication and retention are followed through once, with what they establish
where they return: a publication, that its build is current, validated and shown
at the root; retention, that every marked build is gone. Wherever else they end,
all that is known is that they made steps, and that is enough, since nothing is
assumed of the state in which the next call starts.
-/

open Program

namespace GoldProgram

variable {formats : GoldFormats} {s₀ s : GoldSession}
  {records registered : List GoldCatalogRecord} {buildId : String}

/-! ## Publication -/

theorem recordMove_finalize {target : GoldCatalogRecord} (hwf : WellFormedCatalog records)
    (htarget : target ∈ records) (hid : target.buildId = buildId)
    (hstatus : target.status = .building) (failedAt : PyDatetime) :
    ∀ r ∈ records, RecordMove r
      (if r.buildId = buildId then failedAttempt target failedAt else r) := by
  intro r hr
  split_ifs with h
  · obtain rfl := hwf.eq_of_buildId htarget hr (hid.trans h.symm)
    have hc : target.current = false := by
      by_contra hc
      have := (hwf.records_wellFormed target hr).complete_of_current (by simpa using hc)
      rw [hstatus] at this
      cases this
    exact recordMove_failedAttempt hstatus hc failedAt
  · exact .refl r

theorem wp_finalizeFailedIfUncommitted {clock : PyDatetime} (h : Leads s₀ s) :
    wp (finalizeFailedIfUncommitted formats buildId clock)
      (Post.keeping (Leads s₀) (fun _ _ => True)) s := by
  unfold finalizeFailedIfUncommitted
  refine wp_bind_keeping (wp_readRecords h) ?_
  rintro records s' - ⟨rfl, hdisk⟩
  split
  · exact wp_pure_keeping h trivial
  · next target hfind =>
    split_ifs with hstatus
    · exact wp_pure_keeping h trivial
    · have hid : target.buildId = buildId := by simpa using List.find?_some hfind
      have hmove := recordMove_finalize hdisk.wellFormed (List.mem_of_find?_eq_some hfind) hid
        (not_not.mp hstatus)
      refine wp_bind_ofExcept h (fun failedAt _ => ?_)
      refine wp_bind_keeping (wp_replaceCatalog h
        (CatalogMove.of_forall₂ hdisk.perm (forall₂_map (hmove failedAt)))) ?_
      rintro _ s₁ h₁ ⟨hdisk₁, -⟩
      -- a refresh that fails here is ignored
      refine wp_bind_signal h₁ (wp_tryCatch_keeping ?_ (fun e s₂ h₂ => ?_))
      · refine wp_bind_keeping (wp_refreshViews_leads h₁ hdisk₁) (fun _ s₂ h₂ _ => ?_)
        exact wp_query_keeping h₂ (fun _ _ => trivial)
      · exact wp_query_keeping h₂ (fun _ _ => trivial)

/-- A candidate is validated as long as the directories of the builds are the
same. -/
theorem IsCandidate.congr {s' : GoldSession} {startedAt : PyDatetime}
    {inputs : List SilverInputSignature} {candidate : GoldPublicationBundle}
    {artifact : GoldBuildArtifact} {manifest : GoldBuildManifest} {payload plot : Bytes}
    {frame : GoldFrame}
    (h : IsCandidate formats s buildId startedAt inputs candidate artifact manifest payload plot
      frame) (hbuilds : s'.lake.builds artifact.buildId = s.lake.builds artifact.buildId) :
    IsCandidate formats s' buildId startedAt inputs candidate artifact manifest payload plot
      frame := by
  have hfile : ∀ a, s'.lake.file artifact.buildId a = s.lake.file artifact.buildId a := by
    intro a
    rw [GoldLake.file, hbuilds]
    rfl
  have hb := h.bundle
  refine { h with bundle := { hb with file := ?_, manifestFile := ?_, plotFile := ?_ } }
  · rw [hfile, hb.file]
  · rw [hfile, hb.manifestFile]
  · rw [hfile, hb.plotFile]

/-- **What a publication establishes**: the record of its build, which is that of a
validated candidate. -/
structure IsPublished (formats : GoldFormats) (call : PublishCall) (s : GoldSession)
    (record : GoldCatalogRecord) (written : GoldFrame) (candidate : GoldPublicationBundle)
    (artifact : GoldBuildArtifact) (manifest : GoldBuildManifest) (plot : Bytes)
    (reread : GoldFrame) : Prop where
  frame : call.frame = .ok written
  isCandidate : IsCandidate formats s record.buildId record.startedAtUtc call.inputs candidate
    artifact manifest (formats.encodeFrame written) plot reread
  record_eq : record = completedAttempt (buildingAttempt record.buildId record.startedAtUtc)
    candidate candidate.completedAtUtc

/-- The record of the candidate among those that are promoted. -/
theorem mem_promotedRecords {promoted : List GoldCatalogRecord}
    {candidate : GoldPublicationBundle} {attempt : GoldCatalogRecord}
    (hwf : WellFormedCatalog registered) (hattempt : attempt ∈ registered)
    (hid : attempt.buildId = candidate.buildId)
    (h : promotedRecords registered candidate = .ok promoted) :
    completedAttempt attempt candidate candidate.completedAtUtc ∈ promoted := by
  unfold promotedRecords at h
  simp only [bind_eq_ok, check_eq_ok, exists_const] at h
  obtain ⟨-, -, h⟩ := h
  split at h
  · next attempt' hfilter =>
    simp only [bind_eq_ok, check_eq_ok, exists_const] at h
    obtain ⟨-, completedAt, hcompleted, h⟩ := h
    cases h
    have hmem : attempt' ∈ registered ∧ attempt'.buildId = candidate.buildId := by
      have : attempt' ∈ registered.filter (fun r => r.buildId == candidate.buildId) := by
        simp [hfilter]
      simpa using this
    obtain rfl := hwf.eq_of_buildId hmem.1 hattempt (hmem.2.trans hid.symm)
    obtain ⟨rfl, -⟩ := utcDatetime_eq_ok hcompleted
    refine List.mem_map.mpr ⟨attempt', hattempt, ?_⟩
    simp [hid]
  · cases h

theorem wp_publishCandidate {call : PublishCall} {startedAt : PyDatetime} (h : Leads s₀ s)
    (hdisk : OnDisk registered s) (hattempt : buildingAttempt buildId startedAt ∈ registered) :
    wp (publishCandidate formats call buildId startedAt registered)
      (Post.keeping (Leads s₀) (fun promoted s' => OnDisk promoted s'
        ∧ ∃ record ∈ promoted, record.buildId = buildId ∧ record.current = true
          ∧ ∃ written candidate artifact manifest plot reread,
            IsPublished formats call s' record written candidate artifact manifest plot reread)) s := by
  unfold publishCandidate
  refine wp_bind_keeping (wp_refreshViews_leads h hdisk) ?_
  rintro _ s₁ h₁ ⟨hdisk₁, -, -⟩
  refine wp_bind_signal h₁ ?_
  -- the bundle is built next to the catalog, which does not change meanwhile
  have hstart : OnlyBuild buildId s₁ s₁ := Std.Refl.refl s₁
  refine wp_bind (wp_mono (wp_createAndValidate hstart) ?_ ?_ ?_)
  · rintro candidate s₂ ⟨honly, written, artifact, manifest, plot, reread, hframe, hcandidate⟩
    have h₂ := h₁.trans (Leads.of_onlyBuild honly)
    have hdisk₂ := hdisk₁.congr honly.catalog_eq
    refine wp_bind_signal h₂ (wp_bind_ofExcept h₂ (fun promoted hpromoted => ?_))
    have hid : candidate.buildId = buildId := by rw [hcandidate.candidate_eq]
    have hmem := mem_promotedRecords hdisk.wellFormed hattempt hid.symm hpromoted
    refine wp_bind_keeping (wp_replaceCatalog h₂
      (catalogMove_promotedRecords hdisk₂.perm hdisk.wellFormed hpromoted)) ?_
    rintro _ s₃ h₃ ⟨hdisk₃, hbuilds⟩
    refine wp_bind_signal h₃ (wp_pure_keeping h₃ ⟨hdisk₃, _, hmem, rfl, rfl, ?_⟩)
    refine ⟨written, candidate, artifact, manifest, plot, reread, hframe, ?_, rfl⟩
    exact hcandidate.congr (congrFun hbuilds _)
  · exact fun _ _ honly => h₁.trans (Leads.of_onlyBuild honly)
  · exact fun _ honly => h₁.trans (Leads.of_onlyBuild honly)

/-- **`publish`** only makes steps; where it returns, the build is published and the
root views show it. -/
theorem wp_publish (formats : GoldFormats) (call : PublishCall) (h : Leads s₀ s) :
    wp (publish formats call) (Post.keeping (Leads s₀) (fun record s' =>
      RootViewsMatch formats s'.lake ∧ record ∈ s'.lake.records ∧ record.current = true
        ∧ WellFormedCatalog s'.lake.records
        ∧ ∃ written candidate artifact manifest plot reread,
          IsPublished formats call s' record written candidate artifact manifest plot reread)) s := by
  unfold publish nextBuildId
  refine wp_bind_keeping (wp_reconcile formats call.reconcileClock h) ?_
  rintro records s₁ h₁ ⟨hdisk₁, -⟩
  refine wp_bind_keeping (P := fun _ s' => s' = s₁)
    (wp_bind_require h₁ (fun _ => wp_pure_keeping h₁ rfl)) ?_
  rintro buildId s' - rfl
  refine wp_bind_ofExcept h₁ (fun startedAt _ => ?_)
  refine wp_bind_keeping (wp_replaceCatalog h₁ (CatalogMove.of_append hdisk₁.perm rfl rfl)) ?_
  rintro _ s₂ h₂ ⟨hdisk₂, -⟩
  refine wp_bind_signal h₂ (wp_bind_keeping (wp_tryCatch_keeping
    (wp_publishCandidate h₂ hdisk₂ (List.mem_append_right _ List.mem_cons_self)) ?_) ?_)
  · intro e s₃ h₃
    exact wp_bind_keeping (wp_finalizeFailedIfUncommitted h₃) (fun _ _ h _ => wp_throw_keeping h)
  · rintro promoted s₃ h₃ ⟨hdisk₃, record, hrecord, hid, hc, hpublished⟩
    refine wp_bind_keeping (P := fun found s' => found = record ∧ s' = s₃) ?_ ?_
    · unfold findBuild
      split
      · next found hfind =>
        refine wp_pure_keeping h₃ ⟨?_, rfl⟩
        have hfound : found.buildId = buildId := by simpa using List.find?_some hfind
        exact hdisk₃.wellFormed.eq_of_buildId (List.mem_of_find?_eq_some hfind) hrecord
          (hfound.trans hid.symm)
      · exact wp_throw_keeping h₃
    · rintro found s₅ - ⟨rfl, rfl⟩
      refine wp_bind_keeping (P := fun _ s' => OnDisk promoted s'
        ∧ s'.lake.builds = s₅.lake.builds ∧ RootViewsMatch formats s'.lake)
        (wp_tryCatch_keeping ?_ ?_) ?_
      · refine wp_bind_keeping (wp_refreshViews_leads h₃ hdisk₃) (fun _ s₄ h₄ hs₄ => ?_)
        exact wp_query_keeping h₄ (fun _ _ => hs₄)
      · exact fun e s₄ h₄ => wp_bind_signal h₄ (wp_throw_keeping h₄)
      · rintro _ s₄ h₄ ⟨hdisk₄, hbuilds, hviews⟩
        refine wp_bind_keeping (P := fun _ s' => s' = s₄) ?_ ?_
        · exact wp_onlyIf_keeping (fun _ => wp_bind_signal h₄ (wp_query_keeping h₄ (fun _ _ => rfl)))
            (fun _ => ⟨h₄, rfl⟩)
        · rintro _ s' - rfl
          refine wp_pure_keeping h₄ ⟨hviews, hdisk₄.perm.mem_iff.mpr hrecord, hc,
            hdisk₄.wellFormed.of_perm hdisk₄.perm, ?_⟩
          obtain ⟨written, candidate, artifact, manifest, plot, reread, hpub⟩ := hpublished
          exact ⟨written, candidate, artifact, manifest, plot, reread,
            { hpub with isCandidate := hpub.isCandidate.congr (congrFun hbuilds _) }⟩

/-! ## Retention -/

/-- The same but for one build, which the sweeper takes away. -/
structure OnlySwept (buildId : String) (s s' : GoldSession) : Prop where
  catalog_eq : s'.lake.catalog = s.lake.catalog
  rootJson_eq : s'.lake.rootJson = s.lake.rootJson
  rootProfile_eq : s'.lake.rootProfile = s.lake.rootProfile
  builds_eq : ∀ other, other ≠ buildId → s'.lake.builds other = s.lake.builds other

theorem OnlySwept.trans {s' s'' : GoldSession} (h : OnlySwept buildId s s')
    (h' : OnlySwept buildId s' s'') : OnlySwept buildId s s'' :=
  ⟨h'.catalog_eq.trans h.catalog_eq, h'.rootJson_eq.trans h.rootJson_eq,
    h'.rootProfile_eq.trans h.rootProfile_eq,
    fun other hne => (h'.builds_eq other hne).trans (h.builds_eq other hne)⟩

/-- What the sweep of a build keeps, once the catalog on disk has marked it. -/
structure Sweeping (buildId : String) (s₀ s₁ s : GoldSession) : Prop where
  leads : Leads s₀ s
  onlySwept : OnlySwept buildId s₁ s
  marked : IsTombstoned s.lake.records buildId

theorem wp_sweepFile {s₁ : GoldSession} {artifact : GoldArtifact}
    (h : Sweeping buildId s₀ s₁ s) :
    wp (sweepFile buildId artifact) (Post.keeping (Sweeping buildId s₀ s₁) (fun _ _ => True)) s := by
  refine wp_bind_signal h (wp_bind_keeping (P := fun _ _ => True) ?_
    (fun _ s' h' _ => wp_query_keeping h' (fun _ _ => trivial)))
  refine wp_write_keeping h ?_ trivial
  split
  · have honly := onlyBuild_setFile buildId artifact none s
    exact ⟨h.leads.tail (.removed buildId artifact h.marked honly.catalog_eq rfl),
      h.onlySwept.trans ⟨honly.catalog_eq, honly.rootJson_eq, honly.rootProfile_eq,
        honly.builds_eq⟩, h.marked⟩
  · exact h

/-- **The sweep of a marked build**: it touches that build only, and where it returns
the build is gone. -/
theorem wp_sweep (h : Leads s₀ s) (hmarked : IsTombstoned s.lake.records buildId) :
    wp (sweep buildId) (Post.keeping (fun s' => Leads s₀ s' ∧ OnlySwept buildId s s')
      (fun _ s' => s'.lake.builds buildId = none)) s := by
  have hstart : Sweeping buildId s₀ s
      { s with events := .sweeping buildId s.lake.records :: s.events } :=
    ⟨h.tail (.sweeping buildId hmarked), ⟨rfl, rfl, rfl, fun _ _ => rfl⟩, hmarked⟩
  refine wp_mono (R := Post.keeping (fun s' => Leads s₀ s' ∧ OnlySwept buildId s s')
      (fun _ s' => s'.lake.builds buildId = none))
    (Q := Post.keeping (Sweeping buildId s₀ s) (fun _ s' => s'.lake.builds buildId = none)) ?_
    (fun _ _ h => ⟨⟨h.1.leads, h.1.onlySwept⟩, h.2⟩) (fun _ _ h => ⟨h.leads, h.onlySwept⟩)
    (fun _ h => ⟨h.leads, h.onlySwept⟩)
  refine wp_bind (wp_update (wp_bind_require hstart (fun _ => ?_)))
  refine wp_bind_keeping (wp_sweepFile hstart) (fun _ s₁ h₁ _ => ?_)
  refine wp_bind_keeping (wp_sweepFile h₁) (fun _ s₂ h₂ _ => ?_)
  refine wp_bind_keeping (wp_sweepFile h₂) (fun _ s₃ h₃ _ => ?_)
  refine wp_bind_signal h₃ (wp_bind_query h₃ (fun present hpresent => ?_))
  refine wp_bind_keeping (P := fun _ (s' : GoldSession) => s'.lake.builds buildId = none) ?_
    (fun _ s₄ h₄ hgone => wp_query_keeping h₄ (fun _ _ => hgone))
  refine wp_onlyIf_keeping (fun _ => ?_) (fun hif => ⟨h₃, ?_⟩)
  · have hremoved : Sweeping buildId s₀ s (setBuild buildId none s₃) := by
      have honly := onlyBuild_setBuild buildId none s₃
      exact ⟨h₃.leads.trans (Leads.of_onlyBuild honly), h₃.onlySwept.trans ⟨honly.catalog_eq,
        honly.rootJson_eq, honly.rootProfile_eq, honly.builds_eq⟩, h₃.marked⟩
    refine wp_effect_keeping h₃ ?_ (fun _ hok => ?_)
    · split_ifs
      · exact h₃
      · exact hremoved
    · split_ifs at hok ⊢
      simp [setBuild]
  · rw [← Except.ok.inj hpresent] at hif
    simpa using hif

theorem wp_markSelected {markIds : List String} {clock : PyDatetime} (h : Leads s₀ s)
    (hdisk : OnDisk records s) :
    wp (markSelected formats records markIds clock) (Post.keeping (Leads s₀) (fun records' s' =>
      OnDisk records' s' ∧ (markIds ≠ [] → RootViewsMatch formats s'.lake))) s := by
  unfold markSelected
  split_ifs with hempty
  · exact wp_pure_keeping h ⟨hdisk, fun hne => absurd (List.isEmpty_iff.mp hempty) hne⟩
  · refine wp_bind_ofExcept h (fun markedAt _ => wp_bind_ofExcept h (fun marked hmarked => ?_))
    have hmove : List.Forall₂ RecordMove records marked := by
      refine (forall₂_of_mapM_eq_ok hmarked).imp (fun r r' hr => ?_)
      split_ifs at hr
      · exact recordMove_markRecord hr
      · exact Except.ok.inj hr ▸ .refl r
    refine wp_bind_keeping (wp_replaceCatalog h (CatalogMove.of_forall₂ hdisk.perm hmove)) ?_
    rintro _ s₁ h₁ ⟨hdisk₁, -⟩
    refine wp_bind_keeping (wp_refreshViews_leads h₁ hdisk₁) ?_
    rintro _ s₂ h₂ ⟨hdisk₂, -, hviews⟩
    exact wp_pure_keeping h₂ ⟨hdisk₂, fun _ => hviews⟩

/-- What holds between the sweeps of a retention run: the builds that are not among
those still to be swept are gone. -/
structure Retaining (formats : GoldFormats) (s₀ : GoldSession) (records : List GoldCatalogRecord)
    (marked rest : List GoldCatalogRecord) (shown : Prop) (s : GoldSession) : Prop where
  leads : Leads s₀ s
  disk : OnDisk records s
  shows_ : shown → RootViewsMatch formats s.lake
  mem : ∀ r ∈ rest, r ∈ records
  suffix : rest <:+ marked
  swept : ∀ r ∈ marked, r ∈ rest ∨ s.lake.builds r.buildId = none

/-- One sweep of the loop. -/
theorem Retaining.sweep {marked rest : List GoldCatalogRecord} {r : GoldCatalogRecord}
    {shown : Prop} {s' : GoldSession} (hmarked : ∀ r ∈ marked, isMarked r = true)
    (hs : Retaining formats s₀ records marked (r :: rest) shown s) (hleads : Leads s₀ s')
    (honly : OnlySwept r.buildId s s') (hgone : s'.lake.builds r.buildId = none) :
    Retaining formats s₀ records marked rest shown s' where
  leads := hleads
  disk := hs.disk.congr honly.catalog_eq
  shows_ hshown := by
    refine (hs.shows_ hshown).congr honly.catalog_eq honly.rootJson_eq honly.rootProfile_eq
      (fun c hc hcurrent => honly.builds_eq _ (fun hid => ?_))
    -- the build that is swept is marked, so it is not the current one
    obtain rfl := (hs.disk.wellFormed.of_perm hs.disk.perm).eq_of_buildId hc
      (hs.disk.perm.mem_iff.mpr (hs.mem r List.mem_cons_self)) hid
    rw [(of_isMarked (hmarked c (hs.suffix.mem List.mem_cons_self))).2.1] at hcurrent
    cases hcurrent
  mem r' hr' := hs.mem r' (List.mem_cons_of_mem _ hr')
  suffix := (List.suffix_cons r rest).trans hs.suffix
  swept r' hr' := by
    rcases hs.swept r' hr' with h | h
    · rcases List.mem_cons.mp h with rfl | h
      · exact .inr hgone
      · exact .inl h
    · by_cases hid : r'.buildId = r.buildId
      · exact .inr (hid ▸ hgone)
      · exact .inr ((honly.builds_eq _ hid).trans h)

/-- **`run`** only makes steps; where it returns, every marked build is gone, and the
root views are those of the catalog if it marked or swept any. -/
theorem wp_retain (formats : GoldFormats) (policy : RetentionPolicy) (clock : PyDatetime)
    (h : Leads s₀ s) :
    wp (retain formats policy clock) (Post.keeping (Leads s₀) (fun result s' =>
      (result.markedBuildIds ≠ [] ∨ result.sweptBuildIds ≠ [] → RootViewsMatch formats s'.lake)
        ∧ ∀ r ∈ s'.lake.records, isMarked r = true →
          r.buildId ∈ result.sweptBuildIds ∧ s'.lake.builds r.buildId = none)) s := by
  unfold retain
  refine wp_bind_keeping (wp_readRecords h) ?_
  rintro onDisk s' - ⟨rfl, hdisk⟩
  refine wp_bind_ofExcept h (fun markIds _ => wp_bind_keeping (wp_markSelected h hdisk) ?_)
  rintro records s₁ h₁ ⟨hdisk₁, hviews₁⟩
  dsimp only
  generalize hmarked : sortRecords (·.prunedAtUtc) (records.filter isMarked) = marked
  have hmem : ∀ r, r ∈ marked ↔ r ∈ records ∧ isMarked r = true := by
    intro r
    rw [← hmarked, sortRecords, List.mem_insertionSort, List.mem_filter]
  refine wp_bind_keeping (P := fun _ s' => OnDisk records s'
    ∧ (markIds ≠ [] ∨ marked ≠ [] → RootViewsMatch formats s'.lake)) ?_ ?_
  · refine wp_onlyIf_keeping (fun _ => ?_) (fun hskip => ⟨h₁, hdisk₁, fun hany => hviews₁ ?_⟩)
    · exact wp_keeping_mono (wp_refreshViews_leads h₁ hdisk₁)
        (fun _ _ _ hs => ⟨hs.1, fun _ => hs.2.2⟩)
    · -- nothing was to be shown again, so the marking has shown it
      intro hnone
      simp_all
  · rintro _ s₂ h₂ ⟨hdisk₂, hviews₂⟩
    refine wp_bind_keeping (P := fun _ s' => Retaining formats s₀ records marked []
      (markIds ≠ [] ∨ marked ≠ []) s') ?_ ?_
    · refine wp_forEach (fun rest s' => Retaining formats s₀ records marked rest
        (markIds ≠ [] ∨ marked ≠ []) s') ⟨h₂, hdisk₂, hviews₂,
          fun r hr => ((hmem r).mp hr).1, List.suffix_refl _, fun r hr => .inl hr⟩
        (fun r rest s' hs' => ?_) (fun s' hs' => ⟨hs'.leads, hs'⟩)
      have hr := hs'.suffix.mem List.mem_cons_self
      have hsweep := wp_sweep hs'.leads
        ⟨r, hs'.disk.perm.mem_iff.mpr ((hmem r).mp hr).1, rfl, ((hmem r).mp hr).2⟩
      refine wp_mono hsweep (fun _ s'' h => ?_) (fun _ _ h => h.1) (fun _ h => h.1)
      exact hs'.sweep (fun r hr => ((hmem r).mp hr).2) h.1.1 h.1.2 h.2
    · rintro _ s₃ h₃ hdone
      refine wp_pure_keeping h₃ ⟨fun hany => hdone.shows_ (hany.imp id ?_), fun r hr hm => ?_⟩
      · exact fun hne hnil => hne (by rw [hnil]; rfl)
      · have hr := (hmem r).mpr ⟨hdone.disk.perm.mem_iff.mp hr, hm⟩
        refine ⟨List.mem_map_of_mem hr, (hdone.swept r hr).resolve_left (by simp)⟩

end GoldProgram
