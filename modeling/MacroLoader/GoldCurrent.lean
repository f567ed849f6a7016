import MacroLoader.GoldAtomicity

/-!
# The current build

What a reader of Gold reads is the current build: its record and the files in its directory.
A publication either leaves it as it is or puts its own build in its place, whichever effects
fail and wherever the process stops, and no other program touches it at all
(`moves_reconcile_current`, `wp_publish_current`, `moves_retain_current`).
-/

open Program

/-- **The current build is the same**: its record, and its files. -/
structure KeepsCurrent (s s' : GoldSession) : Prop where
  records : ∀ r : GoldCatalogRecord, r.current = true →
    (r ∈ s'.lake.records ↔ r ∈ s.lake.records)
  builds : ∀ r ∈ s.lake.records, r.current = true →
    s'.lake.builds r.buildId = s.lake.builds r.buildId

instance : Std.Refl KeepsCurrent := ⟨fun _ => ⟨fun _ _ => Iff.rfl, fun _ _ _ => rfl⟩⟩

instance : IsTrans GoldSession KeepsCurrent :=
  ⟨fun _ _ _ h h' => ⟨fun r hc => (h'.records r hc).trans (h.records r hc), fun r hr hc =>
    (h'.builds r ((h.records r hc).mpr hr) hc).trans (h.builds r hr hc)⟩⟩

theorem KeepsCurrent.trans {s s' s'' : GoldSession} (h : KeepsCurrent s s')
    (h' : KeepsCurrent s' s'') : KeepsCurrent s s'' := IsTrans.trans _ _ _ h h'

namespace GoldProgram

variable {formats : GoldFormats} {call : PublishCall} {attempt : RegisteredAttempt}
  {s₀ s s' : GoldSession} {records registered : List GoldCatalogRecord} {buildId : String}

/-! ## What leaves it alone -/

theorem OnlyViews.keepsCurrent (h : OnlyViews s s') : KeepsCurrent s s' := by
  have hrecords : s'.lake.records = s.lake.records := congrArg (·.getD []) h.catalog_eq
  exact ⟨fun r _ => by rw [hrecords], fun r _ _ => congrFun h.builds_eq _⟩

/-- Work on a build that is not the current one. -/
theorem OnlyBuild.keepsCurrent (h : OnlyBuild buildId s s')
    (hne : ∀ r ∈ s.lake.records, r.current = true → r.buildId ≠ buildId) : KeepsCurrent s s' := by
  have hrecords : s'.lake.records = s.lake.records := congrArg (·.getD []) h.catalog_eq
  exact ⟨fun r _ => by rw [hrecords], fun r hr hc => h.builds_eq _ (hne r hr hc)⟩

theorem OnlySwept.keepsCurrent (h : OnlySwept buildId s s')
    (hne : ∀ r ∈ s.lake.records, r.current = true → r.buildId ≠ buildId) : KeepsCurrent s s' := by
  have hrecords : s'.lake.records = s.lake.records := congrArg (·.getD []) h.catalog_eq
  exact ⟨fun r _ => by rw [hrecords], fun r hr hc => h.builds_eq _ (hne r hr hc)⟩

/-- The catalogs have the same current record. -/
def SameCurrent (old new : List GoldCatalogRecord) : Prop :=
  ∀ r : GoldCatalogRecord, r.current = true → (r ∈ new ↔ r ∈ old)

/-- A catalog whose other records have changed. -/
theorem sameCurrent_map {f : GoldCatalogRecord → GoldCatalogRecord}
    (h : ∀ r ∈ records, f r = r ∨ r.current = false ∧ (f r).current = false) :
    SameCurrent records (records.map f) := by
  intro r hc
  constructor
  · intro hr
    obtain ⟨old, hold, rfl⟩ := List.mem_map.mp hr
    rcases h old hold with heq | ⟨-, hnot⟩
    · rwa [heq]
    · rw [hnot] at hc
      cases hc
  · intro hr
    refine List.mem_map.mpr ⟨r, hr, ?_⟩
    rcases h r hr with heq | ⟨hnot, -⟩
    · exact heq
    · rw [hnot] at hc
      cases hc

/-- **Writing a catalog** with the same current record. -/
theorem wp_replaceCatalog_current {step : CatalogStep} (h : KeepsCurrent s₀ s)
    (hsame : WellFormedCatalog records → SameCurrent s.lake.records records) :
    wp (replaceCatalog step records) (Post.keeping (KeepsCurrent s₀) (fun _ s' =>
      OnDisk records s')) s := by
  refine wp_bind_ofExcept h (fun rows hrows => ?_)
  have hwf := (catalogFrame_eq_ok.mp hrows).1
  have hperm := catalogFrame_perm hrows
  have hwritten : KeepsCurrent s (setCatalog step rows s) :=
    ⟨fun r hc => (show r ∈ rows ↔ _ from hperm.mem_iff).trans (hsame hwf r hc), fun _ _ _ => rfl⟩
  exact wp_write_keeping h (h.trans hwritten) ⟨hperm, hwf⟩

/-- The current record is the same in another order. -/
theorem SameCurrent.of_perm {old new : List GoldCatalogRecord} (h : SameCurrent records new)
    (hperm : old.Perm records) : SameCurrent old new :=
  fun r hc => (h r hc).trans hperm.mem_iff.symm

theorem wp_refreshViews_current (h : KeepsCurrent s₀ s) (hdisk : OnDisk records s) :
    wp (refreshViews formats records) (Post.keeping (KeepsCurrent s₀) (fun _ s' =>
      OnDisk records s')) s :=
  (moves_refreshViews formats records).keeping (fun _ hviews => h.trans hviews.keepsCurrent)
    (fun _ _ hviews => hdisk.congr hviews.catalog_eq)

/-! ### Reconciliation -/

theorem wp_reconcile_current (formats : GoldFormats) (clock : PyDatetime)
    (h : KeepsCurrent s₀ s) :
    wp (reconcile formats clock) (Post.keeping (KeepsCurrent s₀) OnDisk) s := by
  unfold reconcile
  refine wp_bind_keeping (wp_readRecords h) ?_
  rintro onDisk s' - ⟨rfl, hdisk⟩
  refine wp_bind_require h (fun _ => wp_bind_keeping (P := OnDisk) ?_ ?_)
  · unfold failStale
    dsimp only
    split_ifs
    · exact wp_pure_keeping h hdisk
    · refine wp_bind_ofExcept h (fun failedAt _ => wp_bind_keeping
        (wp_replaceCatalog_current h (fun _ => ?_)) ?_)
      · refine (sameCurrent_map (fun r hr => ?_)).of_perm hdisk.perm
        split_ifs with hid
        · -- what was left building is not current
          obtain ⟨stale, hstale, hid⟩ := List.mem_map.mp hid
          obtain ⟨hmem, hstale⟩ := List.mem_filter.mp hstale
          obtain rfl := hdisk.wellFormed.eq_of_buildId hmem hr hid
          have hopen : stale.status = .building ∧ stale.current = false := by
            simpa [isStale] using hstale
          exact .inr ⟨hopen.2, rfl⟩
        · exact .inl rfl
      · exact fun _ s₁ h₁ hdisk₁ => wp_bind_signal h₁ (wp_pure_keeping h₁ hdisk₁)
  · intro records s₁ h₁ hdisk₁
    refine wp_bind_keeping (wp_refreshViews_current h₁ hdisk₁) (fun _ s₂ h₂ hdisk₂ => ?_)
    exact wp_bind_signal h₂ (wp_pure_keeping h₂ hdisk₂)

/-- **A reconciliation leaves the current build alone.** -/
theorem moves_reconcile_current (formats : GoldFormats) (clock : PyDatetime) :
    Moves KeepsCurrent (reconcile formats clock) := fun s =>
  wp_mono (wp_reconcile_current formats clock (Std.Refl.refl s)) (fun _ _ h => h.1)
    (fun _ _ h => h) (fun _ h => h)

/-! ### Registration, and the handler of a failure -/

theorem wp_registerAttempt_current (formats : GoldFormats) (call : PublishCall) (s : GoldSession) :
    wp (registerAttempt formats call) (Post.keeping (KeepsCurrent s)
      (fun attempt s' => OnDisk attempt.registered s')) s := by
  have hs : KeepsCurrent s s := Std.Refl.refl s
  unfold registerAttempt nextBuildId
  refine wp_bind_keeping (wp_reconcile_current formats call.reconcileClock hs) ?_
  intro records s₁ h₁ hdisk₁
  refine wp_bind_keeping (P := fun _ s' => s' = s₁)
    (wp_bind_require h₁ (fun _ => wp_pure_keeping h₁ rfl)) ?_
  rintro buildId s' - rfl
  refine wp_bind_ofExcept h₁ (fun startedAt _ => ?_)
  refine wp_bind_keeping (wp_replaceCatalog_current h₁ (fun _ r hc => ?_)) ?_
  · rw [hdisk₁.perm.mem_iff, List.mem_append, List.mem_singleton, or_iff_left]
    rintro rfl
    cases hc
  · exact fun _ s₂ h₂ hdisk₂ => wp_bind_signal h₂ (wp_pure_keeping h₂ hdisk₂)

/-- **The handler of a failed publication leaves the current build alone**: what it finalizes
is building. -/
theorem moves_finalize_current (formats : GoldFormats) (buildId : String) (clock : PyDatetime) :
    Moves KeepsCurrent (finalizeFailedIfUncommitted formats buildId clock) := by
  intro s
  have hs : KeepsCurrent s s := Std.Refl.refl s
  refine wp_mono (Q := Post.keeping (KeepsCurrent s) (fun _ _ => True)) ?_ (fun _ _ h => h.1)
    (fun _ _ h => h) (fun _ h => h)
  unfold finalizeFailedIfUncommitted
  refine wp_bind_keeping (wp_readRecords hs) ?_
  rintro records s' - ⟨rfl, hdisk⟩
  split
  · exact wp_pure_keeping hs trivial
  · next target hfind =>
    split_ifs with hstatus
    · exact wp_pure_keeping hs trivial
    · have hmem := List.mem_of_find?_eq_some hfind
      have hid : target.buildId = buildId := by simpa using List.find?_some hfind
      have hnot : target.current = false := by
        by_contra hc
        have hcomplete := (hdisk.wellFormed.records_wellFormed target hmem).complete_of_current
          (by simpa using hc)
        exact hstatus (by rw [hcomplete]; decide)
      refine wp_bind_ofExcept hs (fun failedAt _ => wp_bind_keeping
        (wp_replaceCatalog_current hs (fun _ => ?_)) ?_)
      · refine (sameCurrent_map (fun r hr => ?_)).of_perm hdisk.perm
        split_ifs with heq
        · obtain rfl := hdisk.wellFormed.eq_of_buildId hmem hr (hid.trans heq.symm)
          exact .inr ⟨hnot, rfl⟩
        · exact .inl rfl
      · intro _ s₁ h₁ hdisk₁
        refine wp_bind_signal h₁ (wp_tryCatch_keeping ?_ (fun _ s₂ h₂ => ?_))
        · refine wp_bind_keeping (wp_refreshViews_current h₁ hdisk₁) (fun _ s₂ h₂ _ => ?_)
          exact wp_query_keeping h₂ (fun _ _ => trivial)
        · exact wp_query_keeping h₂ (fun _ _ => trivial)

/-! ### Retention -/

/-- A build that is marked is not current. -/
theorem ne_of_tombstoned (h : IsTombstoned records buildId)
    (hwf : WellFormedCatalog records) {r : GoldCatalogRecord} (hr : r ∈ records)
    (hc : r.current = true) : r.buildId ≠ buildId := by
  rintro rfl
  obtain ⟨marked, hmem, hid, hmarked⟩ := h
  obtain rfl := hwf.eq_of_buildId hmem hr hid
  rw [(of_isMarked hmarked).2.1] at hc
  cases hc

/-- **Retention leaves the current build alone**: it marks others, and sweeps what is marked. -/
theorem moves_retain_current (formats : GoldFormats) (policy : RetentionPolicy)
    (clock : PyDatetime) : Moves KeepsCurrent (retain formats policy clock) := by
  intro s
  have hs : KeepsCurrent s s := Std.Refl.refl s
  refine wp_mono (Q := Post.keeping (KeepsCurrent s) (fun _ _ => True)) ?_ (fun _ _ h => h.1)
    (fun _ _ h => h) (fun _ h => h)
  unfold retain
  refine wp_bind_keeping (wp_readRecords hs) ?_
  rintro onDisk s - ⟨rfl, hdisk⟩
  refine wp_bind_ofExcept hs (fun markIds _ => wp_bind_keeping (P := OnDisk) ?_ ?_)
  · unfold markSelected
    split_ifs
    · exact wp_pure_keeping hs hdisk
    · refine wp_bind_ofExcept hs (fun markedAt _ => wp_bind_ofExcept hs (fun marked hmarked => ?_))
      have hmove : List.Forall₂ (fun r r' : GoldCatalogRecord =>
          r' = r ∨ r.current = false ∧ r'.current = false) onDisk marked := by
        refine (forall₂_of_mapM_eq_ok hmarked).imp (fun r r' hr => ?_)
        split_ifs at hr
        · unfold markRecord at hr
          simp only [bind_eq_ok, check_eq_ok, exists_const] at hr
          obtain ⟨-, hnot, -, -, hr⟩ := hr
          cases hr
          exact .inr ⟨hnot, rfl⟩
        · exact .inl (Except.ok.inj hr).symm
      refine wp_bind_keeping (wp_replaceCatalog_current hs (fun _ r hc => ?_)) ?_
      · rw [hdisk.perm.mem_iff]
        constructor
        · intro hr
          obtain ⟨old, hold, rfl | ⟨-, hnot⟩⟩ := forall₂_exists_left hmove hr
          · exact hold
          · rw [hnot] at hc
            cases hc
        · intro hr
          obtain ⟨new, hnew, rfl | ⟨hnot, -⟩⟩ := forall₂_exists_right hmove hr
          · exact hnew
          · rw [hnot] at hc
            cases hc
      · intro _ s₁ h₁ hdisk₁
        refine wp_bind_keeping (wp_refreshViews_current h₁ hdisk₁) (fun _ s₂ h₂ hdisk₂ => ?_)
        exact wp_pure_keeping h₂ hdisk₂
  · intro records s₁ h₁ hdisk₁
    dsimp only
    generalize hmarked : sortRecords (·.prunedAtUtc) (records.filter isMarked) = marked
    have hmem : ∀ r ∈ marked, r ∈ records ∧ isMarked r = true := by
      intro r hr
      rw [← hmarked, sortRecords, List.mem_insertionSort] at hr
      exact List.mem_filter.mp hr
    refine wp_bind_keeping (P := fun _ s' => OnDisk records s') ?_ (fun _ s₂ h₂ hdisk₂ => ?_)
    · exact wp_onlyIf_keeping (fun _ => wp_refreshViews_current h₁ hdisk₁) (fun _ => ⟨h₁, hdisk₁⟩)
    · refine wp_bind_keeping (P := fun _ _ => True) ?_ (fun _ s₃ h₃ _ => wp_pure_keeping h₃ trivial)
      refine wp_forEach (fun rest s' => KeepsCurrent s s' ∧ OnDisk records s' ∧ rest <:+ marked)
        ⟨h₂, hdisk₂, List.suffix_refl _⟩ ?_ (fun s' h' => ⟨h'.1, trivial⟩)
      rintro r rest s' ⟨h', hdisk', hsuffix⟩
      obtain ⟨hr, hmarked⟩ := hmem r (hsuffix.mem List.mem_cons_self)
      have htombstoned : IsTombstoned s'.lake.records r.buildId :=
        ⟨r, hdisk'.perm.mem_iff.mpr hr, rfl, hmarked⟩
      have hwf := hdisk'.wellFormed.of_perm hdisk'.perm
      have hkeeps : ∀ s'', OnlySwept r.buildId s' s'' → KeepsCurrent s s'' := fun s'' honly =>
        h'.trans (honly.keepsCurrent (fun c hc hcurrent =>
          ne_of_tombstoned htombstoned hwf hc hcurrent))
      refine wp_mono (wp_sweep .refl htombstoned) (fun _ s'' h => ?_) (fun _ s'' h => hkeeps s'' h.2)
        (fun s'' h => hkeeps s'' h.2)
      exact ⟨hkeeps s'' h.1.2, hdisk'.congr h.1.2.catalog_eq,
        (List.suffix_cons r rest).trans hsuffix⟩

/-- A retention run that marks and sweeps nothing changes nothing. -/
theorem wp_retain_idle (formats : GoldFormats) (policy : RetentionPolicy) (clock : PyDatetime)
    (s : GoldSession) :
    wp (retain formats policy clock) (Post.keeping (fun _ => True) (fun result s' =>
      result.markedBuildIds = [] → result.sweptBuildIds = [] → s' = s)) s := by
  unfold retain
  refine wp_bind_keeping (P := fun _ s' => s' = s) (wp_query_keeping trivial (fun _ _ => rfl)) ?_
  rintro onDisk s - rfl
  refine wp_bind_ofExcept trivial (fun markIds _ => ?_)
  refine wp_bind_keeping (P := fun _ s' => markIds = [] → s' = s) ?_ (fun records s₁ _ h₁ => ?_)
  · unfold markSelected
    split_ifs with hempty
    · exact wp_pure_keeping trivial (fun _ => rfl)
    · exact wp_mono (wp_true _ s) (fun _ _ _ => ⟨trivial, fun hnil => by simp [hnil] at hempty⟩)
        (fun _ _ _ => trivial) (fun _ _ => trivial)
  · dsimp only
    generalize sortRecords (·.prunedAtUtc) (records.filter isMarked) = marked
    cases marked with
    | nil => exact wp_pure_keeping trivial (fun hmark _ => h₁ hmark)
    | cons r rest =>
      refine wp_bind_keeping (P := fun _ _ => True) (wp_mono (wp_true _ s₁)
        (fun _ _ _ => ⟨trivial, trivial⟩) (fun _ _ _ => trivial) (fun _ _ => trivial))
        (fun _ s₂ _ _ => ?_)
      refine wp_bind_keeping (P := fun _ _ => True) (wp_mono (wp_true _ s₂)
        (fun _ _ _ => ⟨trivial, trivial⟩) (fun _ _ _ => trivial) (fun _ _ => trivial))
        (fun _ s₃ _ _ => wp_pure_keeping trivial (fun _ hswept => by cases hswept))

/-- **Retention leaves the root views in order**, where they have been. -/
theorem wp_retain_views (formats : GoldFormats) (policy : RetentionPolicy) (clock : PyDatetime)
    (hviews : RootViewsMatch formats s.lake) :
    wp (retain formats policy clock) (Post.keeping (fun s' => Leads s s' ∧ KeepsCurrent s s')
      (fun _ s' => RootViewsMatch formats s'.lake)) s := by
  refine wp_mono (wp_and (wp_and (wp_retain formats policy clock .refl)
    (moves_retain_current formats policy clock s)) (wp_retain_idle formats policy clock s)) ?_
    (fun _ _ h => ⟨h.1.1, h.1.2⟩) (fun _ h => ⟨h.1.1, h.1.2⟩)
  rintro result s' ⟨⟨⟨hleads, hshown, -⟩, hkeeps⟩, -, hidle⟩
  refine ⟨⟨hleads, hkeeps⟩, ?_⟩
  by_cases hany : result.markedBuildIds ≠ [] ∨ result.sweptBuildIds ≠ []
  · exact hshown hany
  · obtain ⟨hmark, hswept⟩ := not_or.mp hany
    rw [hidle (not_not.mp hmark) (not_not.mp hswept)]
    exact hviews

/-! ## Publication -/

/-- **The current build is one that a publication has built.** -/
def PublishedAs (formats : GoldFormats) (call : PublishCall) (s : GoldSession)
    (record : GoldCatalogRecord) : Prop :=
  record ∈ s.lake.records ∧ record.current = true
    ∧ ∃ written candidate artifact manifest plot reread,
      IsPublished formats call s record written candidate artifact manifest plot reread

/-- What is published stays so as long as the current build is the same. -/
theorem PublishedAs.keeps {record : GoldCatalogRecord} (h : PublishedAs formats call s record)
    (hkeeps : KeepsCurrent s s') : PublishedAs formats call s' record := by
  obtain ⟨hmem, hc, written, candidate, artifact, manifest, plot, reread, hpublished⟩ := h
  refine ⟨(hkeeps.records record hc).mpr hmem, hc, written, candidate, artifact, manifest, plot,
    reread, { hpublished with isCandidate := hpublished.isCandidate.congr ?_ }⟩
  rw [hpublished.isCandidate.buildId_eq]
  exact hkeeps.builds record hmem hc

/-- **Where a publication may end**: with the current build as it was, or with its own. -/
def PublishLeaves (formats : GoldFormats) (call : PublishCall) (s s' : GoldSession) : Prop :=
  KeepsCurrent s s' ∨ ∃ record, PublishedAs formats call s' record

theorem PublishLeaves.keeps {s'' : GoldSession} (h : PublishLeaves formats call s s')
    (hkeeps : KeepsCurrent s' s'') : PublishLeaves formats call s s'' := by
  rcases h with h | ⟨record, hrecord⟩
  · exact .inl (h.trans hkeeps)
  · exact .inr ⟨record, hrecord.keeps hkeeps⟩

/-- Up to its promotion a publication leaves the current build alone, and then it is its own. -/
theorem wp_promoteCandidate_current (h : KeepsCurrent s₀ s) (hdisk : OnDisk attempt.registered s) :
    wp (promoteCandidate formats call attempt)
      (Post.always (PublishLeaves formats call s₀)) s := by
  have hleaves : ∀ s', KeepsCurrent s₀ s' → PublishLeaves formats call s₀ s' := fun _ => .inl
  refine wp_mono (Q := Post.keeping (PublishLeaves formats call s₀) (fun _ _ => True)) ?_
    (fun _ _ h => h.1) (fun _ _ h => h) (fun _ h => h)
  unfold promoteCandidate publishCandidate
  refine wp_bind_keeping (P := fun _ s' => KeepsCurrent s₀ s' ∧ OnDisk attempt.registered s')
    (wp_mono (wp_refreshViews_current h hdisk) (fun _ s' h => ⟨hleaves s' h.1, h⟩)
      (fun _ s' h => hleaves s' h) (fun s' h => hleaves s' h)) ?_
  rintro _ s₁ h₁ ⟨hkeeps₁, hdisk₁⟩
  refine wp_bind_signal h₁ ?_
  -- the directory of the attempt is not that of the current build
  have hwf₁ := hdisk₁.wellFormed
  have hothers : ∀ r ∈ s₁.lake.records, r.current = true → r.buildId ≠ attempt.buildId := by
    intro r hr hc hid
    obtain rfl := hwf₁.eq_of_buildId (hdisk₁.perm.mem_iff.mp hr) attempt.building_mem hid
    cases hc
  have hbundle : ∀ s', OnlyBuild attempt.buildId s₁ s' → PublishLeaves formats call s₀ s' :=
    fun s' honly => .inl (hkeeps₁.trans (honly.keepsCurrent hothers))
  refine wp_bind (wp_mono (wp_createAndValidate (Std.Refl.refl s₁)) ?_
    (fun _ s' honly => hbundle s' honly) (fun s' honly => hbundle s' honly))
  rintro candidate s₂ ⟨honly, written, artifact, manifest, plot, reread, hframe, hcandidate⟩
  have h₂ := hbundle s₂ honly
  refine wp_bind_signal h₂ (wp_bind_ofExcept h₂ (fun promoted hpromoted => ?_))
  have hid : candidate.buildId = attempt.buildId := by rw [hcandidate.candidate_eq]
  have hmem := mem_promotedRecords hwf₁ attempt.building_mem hid.symm hpromoted
  -- the one rename puts the build of the attempt in the place of the current one
  refine wp_bind_keeping (P := fun _ _ => True) (wp_bind_ofExcept h₂ (fun rows hrows => ?_))
    (fun _ s₃ h₃ _ => wp_bind_signal h₃ (wp_pure_keeping h₃ trivial))
  refine wp_write_keeping h₂ (.inr ⟨_, (catalogFrame_perm hrows).mem_iff.mpr hmem, rfl, ?_⟩) trivial
  exact ⟨written, candidate, artifact, manifest, plot, reread, hframe, hcandidate.congr rfl, rfl⟩

/-- **A publication leaves the current build as it is, or puts its own in its place**; where
it returns, the build of the record that it returns is the current one, and is shown. -/
theorem wp_publish_current (formats : GoldFormats) (call : PublishCall) (s : GoldSession) :
    wp (publish formats call) (Post.keeping
      (fun s' => Leads s s' ∧ PublishLeaves formats call s s')
      (fun record s' => PublishedAs formats call s' record ∧ RootViewsMatch formats s'.lake)) s := by
  have hleaves : wp (publish formats call) (Post.always (PublishLeaves formats call s)) s := by
    rw [publish_eq]
    refine wp_bind (wp_mono (wp_registerAttempt_current formats call s) ?_
      (fun _ _ h => .inl h) (fun _ h => .inl h))
    rintro attempt s₁ ⟨h₁, hdisk₁⟩
    unfold publishRegistered
    refine wp_bind_always (wp_tryCatch (wp_mono (wp_promoteCandidate_current h₁ hdisk₁)
      (fun _ _ h => h) (fun e s₂ h₂ => ?_) (fun _ h => h))) (fun promoted s₂ h₂ => ?_)
    · have hraise : Moves KeepsCurrent (do
          finalizeFailedIfUncommitted formats attempt.buildId call.failureClock
          throw e : GoldProgram (List GoldCatalogRecord)) :=
        moves_bind (moves_finalize_current formats _ _) (fun _ => moves_throw e)
      exact hraise.wp (fun _ _ h => h₂.keeps h) (fun _ _ h => h₂.keeps h) (fun _ h => h₂.keeps h)
    · have hviews : Moves KeepsCurrent (refreshViews formats promoted) :=
        (moves_refreshViews formats _).mono (fun _ _ h => h.keepsCurrent)
      have hfind : Moves KeepsCurrent (findBuild promoted attempt.buildId) := by
        unfold findBuild
        split
        · exact moves_pure _
        · exact moves_throw _
      have hshow : Moves KeepsCurrent (showPromoted formats call attempt promoted) := by
        refine moves_bind hfind (fun _ => moves_bind (moves_tryCatch
          (moves_bind hviews (fun _ => moves_signal _))
          (fun _ => moves_bind (moves_signal _) (fun _ => moves_throw _))) (fun _ => ?_))
        exact moves_bind (moves_onlyIf (moves_bind (moves_signal _) (fun _ => moves_signal _)))
          (fun _ => moves_pure _)
      exact hshow.wp (fun _ _ h => h₂.keeps h) (fun _ _ h => h₂.keeps h) (fun _ h => h₂.keeps h)
  refine wp_mono (wp_and hleaves (wp_publish formats call .refl)) ?_ (fun _ _ h => ⟨h.2, h.1⟩)
    (fun _ h => ⟨h.2, h.1⟩)
  rintro record s' ⟨h, hleads, hviews, hrecord, hcurrent, -, hpublished⟩
  exact ⟨⟨hleads, h⟩, ⟨hrecord, hcurrent, hpublished⟩, hviews⟩

end GoldProgram
