import MacroLoader.GoldPublication

/-!
# What one step may do to the catalog

Five steps rewrite the catalog, each as a whole, and what they have in common is
small: a build stays current until another one is promoted, and a build whose
files are given up stays as it is for ever. `CatalogMove` says so for one
rewriting, and `GoldStep` for anything that a program does to the files. That
every program makes only such steps, whatever fails and whatever an earlier
program left behind, is proved once for each of them, from the records that it
holds in memory and that are, up to their order, the ones on disk.
-/

open Program

/-! ## Rewriting the catalog -/

/-- A build is current in a catalog. -/
def IsCurrent (records : List GoldCatalogRecord) (buildId : String) : Prop :=
  ∃ r ∈ records, r.buildId = buildId ∧ r.current = true

/-- A build is marked in a catalog: its files are to go, or have gone. -/
def IsTombstoned (records : List GoldCatalogRecord) (buildId : String) : Prop :=
  ∃ r ∈ records, r.buildId = buildId ∧ GoldProgram.isMarked r = true

/-- **What a step may do to a catalog.** -/
structure CatalogMove (step : CatalogStep) (old new : List GoldCatalogRecord) : Prop where
  wellFormed : WellFormedCatalog new
  current_kept : (∃ buildId, IsCurrent old buildId) → ∃ buildId, IsCurrent new buildId
  current_same : step ≠ .promoted → ∀ buildId, IsCurrent new buildId ↔ IsCurrent old buildId
  marked_kept : ∀ r ∈ old, GoldProgram.isMarked r = true → r ∈ new
  pruned_marked : ∀ r ∈ new, r.prunedAtUtc.isSome = true →
    r ∈ old ∨ GoldProgram.isMarked r = true

/-- What a step other than a promotion may do to a record. -/
structure RecordMove (r r' : GoldCatalogRecord) : Prop where
  buildId_eq : r'.buildId = r.buildId
  current_eq : r'.current = r.current
  marked_kept : GoldProgram.isMarked r = true → r' = r
  pruned_marked : r'.prunedAtUtc.isSome = true → r' = r ∨ GoldProgram.isMarked r' = true

theorem RecordMove.refl (r : GoldCatalogRecord) : RecordMove r r :=
  ⟨rfl, rfl, fun _ => rfl, fun _ => .inl rfl⟩

namespace CatalogMove

variable {step : CatalogStep} {old records new : List GoldCatalogRecord}

/-- The order of the records does not matter. -/
theorem of_perm (h : CatalogMove step old records) (hperm : new.Perm records) :
    CatalogMove step old new where
  wellFormed := h.wellFormed.of_perm hperm
  current_kept hold := by
    obtain ⟨buildId, r, hr, hrest⟩ := h.current_kept hold
    exact ⟨buildId, r, hperm.mem_iff.mpr hr, hrest⟩
  current_same hstep buildId := by
    rw [← h.current_same hstep buildId]
    exact exists_congr (fun r => and_congr_left' hperm.mem_iff)
  marked_kept r hr hm := hperm.mem_iff.mpr (h.marked_kept r hr hm)
  pruned_marked r hr hp := h.pruned_marked r (hperm.mem_iff.mp hr) hp

/-- **Record by record**: a step that moves every record moves the catalog. -/
theorem of_forall₂ (hperm : old.Perm records) (hmove : List.Forall₂ RecordMove records new)
    (hwf : WellFormedCatalog new) : CatalogMove step old new := by
  have hcurrent : ∀ buildId, IsCurrent new buildId ↔ IsCurrent old buildId := by
    intro buildId
    constructor
    · rintro ⟨r', hr', rfl, hc⟩
      obtain ⟨r, hr, hrr'⟩ := forall₂_exists_left hmove hr'
      exact ⟨r, hperm.mem_iff.mpr hr, hrr'.buildId_eq.symm, hrr'.current_eq ▸ hc⟩
    · rintro ⟨r, hr, rfl, hc⟩
      obtain ⟨r', hr', hrr'⟩ := forall₂_exists_right hmove (hperm.mem_iff.mp hr)
      exact ⟨r', hr', hrr'.buildId_eq, hrr'.current_eq ▸ hc⟩
  refine ⟨hwf, fun ⟨buildId, h⟩ => ⟨buildId, (hcurrent buildId).mpr h⟩, fun _ => hcurrent,
    fun r hr hm => ?_, fun r' hr' hp => ?_⟩
  · obtain ⟨r', hr', hrr'⟩ := forall₂_exists_right hmove (hperm.mem_iff.mp hr)
    exact hrr'.marked_kept hm ▸ hr'
  · obtain ⟨r, hr, hrr'⟩ := forall₂_exists_left hmove hr'
    rcases hrr'.pruned_marked hp with rfl | hm
    · exact .inl (hperm.mem_iff.mpr hr)
    · exact .inr hm

/-- A new attempt adds a record that is neither current nor pruned. -/
theorem of_append (hperm : old.Perm records) {attempt : GoldCatalogRecord}
    (hc : attempt.current = false) (hp : attempt.prunedAtUtc = none)
    (hwf : WellFormedCatalog (records ++ [attempt])) :
    CatalogMove step old (records ++ [attempt]) := by
  have hcurrent : ∀ buildId, IsCurrent (records ++ [attempt]) buildId ↔ IsCurrent old buildId := by
    intro buildId
    constructor
    · rintro ⟨r, hr, hid, hcr⟩
      rcases List.mem_append.mp hr with hr | hr
      · exact ⟨r, hperm.mem_iff.mpr hr, hid, hcr⟩
      · rw [List.mem_singleton.mp hr, hc] at hcr
        cases hcr
    · rintro ⟨r, hr, hrest⟩
      exact ⟨r, List.mem_append_left _ (hperm.mem_iff.mp hr), hrest⟩
  refine ⟨hwf, fun ⟨buildId, h⟩ => ⟨buildId, (hcurrent buildId).mpr h⟩, fun _ => hcurrent,
    fun r hr _ => List.mem_append_left _ (hperm.mem_iff.mp hr), fun r hr hpr => ?_⟩
  rcases List.mem_append.mp hr with hr | hr
  · exact .inl (hperm.mem_iff.mpr hr)
  · rw [List.mem_singleton.mp hr, hp] at hpr
    cases hpr

end CatalogMove

namespace GoldProgram

variable {records registered : List GoldCatalogRecord} {r : GoldCatalogRecord}

/-- A record that is marked is complete, pruned and not current. -/
theorem of_isMarked (h : isMarked r = true) :
    r.status = .complete ∧ r.current = false ∧ r.prunedAtUtc.isSome = true
      ∧ r.dataPath = none ∧ r.buildManifestPath = none ∧ r.plotPath = none := by
  simpa [isMarked, and_assoc] using h

/-- An attempt that fails was open before. -/
theorem recordMove_failedAttempt (hstatus : r.status = .building) (hc : r.current = false)
    (failedAt : PyDatetime) : RecordMove r (failedAttempt r failedAt) where
  buildId_eq := rfl
  current_eq := hc.symm
  marked_kept hm := by
    rw [(of_isMarked hm).1] at hstatus
    cases hstatus
  pruned_marked h := by cases h

/-- A build that is marked was complete and not current before. -/
theorem recordMove_markRecord {r' : GoldCatalogRecord} {markedAt : PyDatetime}
    (h : markRecord r markedAt = .ok r') : RecordMove r r' := by
  unfold markRecord at h
  simp only [bind_eq_ok, check_eq_ok, exists_const] at h
  obtain ⟨hstatus, hc, hpruned, -, h⟩ := h
  cases h
  refine ⟨rfl, hc.symm, fun hm => ?_, fun _ => .inr ?_⟩
  · have := (of_isMarked hm).2.2.1
    rw [hpruned] at this
    cases this
  · simp [isMarked, hstatus]

/-- **A promotion** moves the catalog: the attempt becomes current, and the build
that was current is not any more. -/
theorem catalogMove_promotedRecords {old promoted : List GoldCatalogRecord}
    {candidate : GoldPublicationBundle} (hperm : old.Perm registered)
    (hregistered : WellFormedCatalog registered)
    (h : promotedRecords registered candidate = .ok promoted) (hwf : WellFormedCatalog promoted) :
    CatalogMove .promoted old promoted := by
  unfold promotedRecords at h
  simp only [bind_eq_ok, check_eq_ok, exists_const] at h
  obtain ⟨-, -, h⟩ := h
  split at h
  · next attempt hfilter =>
    simp only [bind_eq_ok, check_eq_ok, exists_const] at h
    obtain ⟨⟨hstatus, hc⟩, completedAt, -, h⟩ := h
    cases h
    have hmem : attempt ∈ registered ∧ attempt.buildId = candidate.buildId := by
      have : attempt ∈ registered.filter (fun r => r.buildId == candidate.buildId) := by
        simp [hfilter]
      simpa using this
    refine ⟨hwf, fun _ => ⟨candidate.buildId, _, List.mem_map_of_mem hmem.1, ?_, ?_⟩,
      fun h => absurd rfl h, fun r hr hm => ?_, fun r' hr' hp => ?_⟩
    · simp [hmem.2, completedAttempt]
    · simp [hmem.2, completedAttempt]
    · -- a marked build is not the attempt, which is building
      have hr := hperm.mem_iff.mp hr
      obtain ⟨hrs, hrc, -⟩ := of_isMarked hm
      have hne : r.buildId ≠ candidate.buildId := by
        intro hid
        obtain rfl := hregistered.eq_of_buildId hr hmem.1 (hid.trans hmem.2.symm)
        rw [hrs] at hstatus
        cases hstatus
      refine List.mem_map.mpr ⟨r, hr, ?_⟩
      simp [hne, hrc]
    · obtain ⟨r, hr, rfl⟩ := List.mem_map.mp hr'
      split_ifs at hp ⊢ with hid hrc
      · cases hp
      · rw [(hregistered.records_wellFormed r hr).unpruned_of_current hrc] at hp
        cases hp
      · exact .inl (hperm.mem_iff.mpr hr)
  · cases h

end GoldProgram

/-! ## Steps of a session -/

/-- **A step of a session**: the catalog is moved, or the sweeper works on a build
that the catalog on disk has marked, or other files change. -/
inductive GoldStep : GoldSession → GoldSession → Prop
  | files {s s' : GoldSession} (hcatalog : s'.lake.catalog = s.lake.catalog)
      (hevents : s'.events = s.events) : GoldStep s s'
  | wrote {s : GoldSession} (step : CatalogStep) (rows : List GoldCatalogRecord)
      (hmove : CatalogMove step s.lake.records rows) :
      GoldStep s (GoldProgram.setCatalog step rows s)
  | sweeping {s : GoldSession} (buildId : String) (hmarked : IsTombstoned s.lake.records buildId) :
      GoldStep s { s with events := .sweeping buildId s.lake.records :: s.events }
  | removed {s s' : GoldSession} (buildId : String) (artifact : GoldArtifact)
      (hmarked : IsTombstoned s.lake.records buildId) (hcatalog : s'.lake.catalog = s.lake.catalog)
      (hevents : s'.events = .removed buildId artifact s.lake.records :: s.events) : GoldStep s s'

/-- Some steps lead from one session to another. -/
abbrev Leads : GoldSession → GoldSession → Prop := Relation.ReflTransGen GoldStep

theorem Leads.of_onlyViews {s s' : GoldSession} (h : GoldProgram.OnlyViews s s') : Leads s s' :=
  .single (.files h.catalog_eq h.events_eq)

theorem Leads.of_onlyBuild {buildId : String} {s s' : GoldSession}
    (h : GoldProgram.OnlyBuild buildId s s') : Leads s s' :=
  .single (.files h.catalog_eq h.events_eq)

/-! ## The programs -/

/-- The records that a program holds are the ones on disk. -/
structure OnDisk (records : List GoldCatalogRecord) (s : GoldSession) : Prop where
  perm : s.lake.records.Perm records
  wellFormed : WellFormedCatalog records

theorem OnDisk.congr {records : List GoldCatalogRecord} {s s' : GoldSession}
    (h : OnDisk records s) (hcatalog : s'.lake.catalog = s.lake.catalog) : OnDisk records s' :=
  ⟨by rw [GoldLake.records, hcatalog]; exact h.perm, h.wellFormed⟩

/-- **The root views show a catalog**: the current record and the picture of its
build, or nothing. -/
structure RootViewsMatch (formats : GoldFormats) (lake : GoldLake) : Prop where
  none_current : (∀ r ∈ lake.records, r.current = false) →
    lake.rootJson = none ∧ lake.rootProfile = none
  some_current : ∀ r ∈ lake.records, r.current = true →
    (∃ json, GoldProgram.catalogJson formats r = .ok json ∧ lake.rootJson = some json)
      ∧ ∃ plot, lake.file r.buildId .plot = some plot ∧ lake.rootProfile = some plot

/-- The root views depend on the catalog, the root files and the picture of the
current build. -/
theorem RootViewsMatch.congr {formats : GoldFormats} {lake lake' : GoldLake}
    (h : RootViewsMatch formats lake) (hcatalog : lake'.catalog = lake.catalog)
    (hjson : lake'.rootJson = lake.rootJson) (hprofile : lake'.rootProfile = lake.rootProfile)
    (hbuilds : ∀ r ∈ lake.records, r.current = true →
      lake'.builds r.buildId = lake.builds r.buildId) : RootViewsMatch formats lake' := by
  have hrecords : lake'.records = lake.records := congrArg (·.getD []) hcatalog
  constructor
  · rw [hrecords, hjson, hprofile]
    exact h.none_current
  · rw [hrecords, hjson, hprofile]
    intro r hr hc
    rw [GoldLake.file, hbuilds r hr hc]
    exact h.some_current r hr hc

namespace GoldProgram

variable {formats : GoldFormats} {s₀ s : GoldSession} {records : List GoldCatalogRecord}

theorem wp_readRecords {I : GoldSession → Prop} (h : I s) :
    wp readRecords (Post.keeping I (fun records s' => s' = s ∧ OnDisk records s)) s := by
  refine wp_query_keeping h (fun records hread => ⟨rfl, ?_⟩)
  obtain ⟨heq, hwf⟩ := readCatalog_eq_ok hread
  exact ⟨heq ▸ List.Perm.refl _, hwf⟩

/-- **Replacing the catalog** is a step, if the step may do it. -/
theorem wp_replaceCatalog {step : CatalogStep} (h : Leads s₀ s)
    (hmove : WellFormedCatalog records → CatalogMove step s.lake.records records) :
    wp (replaceCatalog step records) (Post.keeping (Leads s₀) (fun _ s' =>
      OnDisk records s' ∧ s'.lake.builds = s.lake.builds)) s := by
  refine wp_bind_ofExcept h (fun rows hrows => ?_)
  have hwf := (catalogFrame_eq_ok.mp hrows).1
  have hperm := catalogFrame_perm hrows
  have h' : Leads s₀ (setCatalog step rows s) := h.tail (.wrote step rows ((hmove hwf).of_perm hperm))
  exact wp_write_keeping h h' ⟨⟨hperm, hwf⟩, rfl⟩

theorem wp_showBuild {I : GoldSession → Prop} {record : GoldCatalogRecord}
    (hI : ∀ s', OnlyViews s s' → I s') :
    wp (showBuild formats record) (Post.keeping I (fun _ s' => OnlyViews s s'
      ∧ (∃ json, catalogJson formats record = .ok json ∧ s'.lake.rootJson = some json)
      ∧ ∃ plot, s.lake.file record.buildId .plot = some plot
        ∧ s'.lake.rootProfile = some plot)) s := by
  have h := hI s (Std.Refl.refl s)
  unfold showBuild physicalPaths
  refine wp_bind_require h (fun _ => wp_bind_keeping (P := fun _ s' => s' = s)
    (wp_bind_require h (fun _ => wp_require_keeping h (fun _ => rfl))) ?_)
  rintro _ s' - rfl
  refine wp_bind_query h (fun _ _ => wp_bind_query h (fun _ _ => wp_bind_query h (fun _ _ => ?_)))
  refine wp_bind_require h (fun _ => wp_bind_query h (fun plot hplot => ?_))
  refine wp_bind_require h (fun _ => wp_bind_ofExcept h (fun json hjson => ?_))
  refine wp_bind_query h (fun _ _ => wp_bind_write h (hI _ ⟨rfl, rfl, rfl⟩) ?_)
  refine wp_bind_query (hI _ ⟨rfl, rfl, rfl⟩) (fun _ _ => ?_)
  refine wp_bind_write (hI _ ⟨rfl, rfl, rfl⟩) (hI _ ⟨rfl, rfl, rfl⟩) ?_
  refine wp_query_keeping (hI _ ⟨rfl, rfl, rfl⟩) (fun _ _ => ?_)
  exact ⟨⟨rfl, rfl, rfl⟩, ⟨json, hjson, rfl⟩, plot, readFile_eq_ok hplot, rfl⟩

/-- **A refresh that returns** has made the root views those of the catalog on
disk, whatever they were before. -/
theorem wp_refreshViews {I : GoldSession → Prop} (hI : ∀ s', OnlyViews s s' → I s')
    (hdisk : OnDisk records s) :
    wp (refreshViews formats records) (Post.keeping I (fun _ s' =>
      OnlyViews s s' ∧ RootViewsMatch formats s'.lake)) s := by
  unfold refreshViews
  split
  · next hfilter =>
    -- no record is current
    have hnone : ∀ r ∈ s.lake.records, r.current = false := by
      intro r hr
      have := List.filter_eq_nil_iff.mp hfilter r (hdisk.perm.mem_iff.mp hr)
      simpa using this
    refine wp_bind_write (hI s (Std.Refl.refl s)) (hI _ ⟨rfl, rfl, rfl⟩) ?_
    refine wp_bind_write (hI _ ⟨rfl, rfl, rfl⟩) (hI _ ⟨rfl, rfl, rfl⟩) ?_
    refine wp_query_keeping (hI _ ⟨rfl, rfl, rfl⟩) (fun _ _ => ⟨⟨rfl, rfl, rfl⟩, ?_⟩)
    refine ⟨fun _ => ⟨rfl, rfl⟩, fun r hr hc => ?_⟩
    rw [hnone r hr] at hc
    cases hc
  · next record hfilter =>
    have hmem : record ∈ records ∧ record.current = true := by
      have : record ∈ records.filter (·.current) := by simp [hfilter]
      simpa using this
    refine wp_keeping_mono (wp_showBuild hI) ?_
    rintro _ s' - ⟨hviews, hjson, plot, hplot, hprofile⟩
    have hrecords : s'.lake.records = s.lake.records := congrArg (·.getD []) hviews.catalog_eq
    refine ⟨hviews, fun hall => ?_, fun r hr hc => ?_⟩
    · rw [hrecords] at hall
      have := hall record (hdisk.perm.mem_iff.mpr hmem.1)
      rw [hmem.2] at this
      cases this
    · rw [hrecords] at hr
      obtain rfl := hdisk.wellFormed.eq_of_current (hdisk.perm.mem_iff.mp hr) hmem.1 hc hmem.2
      refine ⟨hjson, plot, ?_, hprofile⟩
      rw [GoldLake.file, hviews.builds_eq]
      exact hplot
  · exact wp_throw_keeping (hI s (Std.Refl.refl s))

/-- A refresh in the course of a session. -/
theorem wp_refreshViews_leads (h : Leads s₀ s) (hdisk : OnDisk records s) :
    wp (refreshViews formats records) (Post.keeping (Leads s₀) (fun _ s' =>
      OnDisk records s' ∧ s'.lake.builds = s.lake.builds ∧ RootViewsMatch formats s'.lake)) s :=
  wp_keeping_mono (wp_refreshViews (fun _ hviews => h.trans (Leads.of_onlyViews hviews)) hdisk)
    (fun _ _ _ hs => ⟨hdisk.congr hs.1.catalog_eq, hs.1.builds_eq, hs.2⟩)

/-- A call that changes no file. -/
theorem wp_bind_signal {α : Type} {I : GoldSession → Prop} {event : String}
    {k : Unit → GoldProgram α} {R : α → GoldSession → Prop} (h : I s)
    (hk : wp (k ()) (Post.keeping I R) s) :
    wp (signal event >>= k) (Post.keeping I R) s :=
  wp_bind_query h (fun _ _ => hk)

/-- The attempts that were left building are not current. -/
theorem recordMove_stale (hwf : WellFormedCatalog records) (failedAt : PyDatetime) :
    ∀ r ∈ records, RecordMove r
      (if r.buildId ∈ (records.filter isStale).map (·.buildId) then failedAttempt r failedAt
        else r) := by
  intro r hr
  split_ifs with hid
  · obtain ⟨r', hr', hid⟩ := List.mem_map.mp hid
    obtain ⟨hr', hbuilding⟩ := List.mem_filter.mp hr'
    obtain rfl := hwf.eq_of_buildId hr' hr hid
    have hopen : r'.status = .building ∧ r'.current = false := by simpa [isStale] using hbuilding
    exact recordMove_failedAttempt hopen.1 hopen.2 failedAt
  · exact .refl r

theorem wp_failStale {clock : PyDatetime} (h : Leads s₀ s) (hdisk : OnDisk records s) :
    wp (failStale records clock) (Post.keeping (Leads s₀) OnDisk) s := by
  unfold failStale
  dsimp only
  split_ifs with hempty
  · exact wp_pure_keeping h hdisk
  · refine wp_bind_ofExcept h (fun failedAt _ => wp_bind_keeping (wp_replaceCatalog h ?_) ?_)
    · exact CatalogMove.of_forall₂ hdisk.perm
        (forall₂_map (recordMove_stale hdisk.wellFormed failedAt))
    · rintro _ s' h' ⟨hdisk', -⟩
      exact wp_bind_signal h' (wp_pure_keeping h' hdisk')

/-- **`reconcile`** only makes steps, and it leaves the root views those of the
catalog. -/
theorem wp_reconcile (formats : GoldFormats) (clock : PyDatetime) (h : Leads s₀ s) :
    wp (reconcile formats clock) (Post.keeping (Leads s₀) (fun records s' =>
      OnDisk records s' ∧ RootViewsMatch formats s'.lake)) s := by
  unfold reconcile
  refine wp_bind_keeping (wp_readRecords h) ?_
  rintro records s' - ⟨rfl, hdisk⟩
  refine wp_bind_require h (fun _ => wp_bind_keeping (wp_failStale h hdisk) ?_)
  intro records s'' h' hdisk'
  refine wp_bind_keeping (wp_refreshViews_leads h' hdisk') ?_
  rintro _ s₁ h₁ ⟨hdisk₁, -, hviews⟩
  exact wp_bind_signal h₁ (wp_pure_keeping h₁ ⟨hdisk₁, hviews⟩)

end GoldProgram
