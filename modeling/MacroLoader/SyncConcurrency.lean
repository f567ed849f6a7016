import MacroLoader.GoldHistory
import MacroLoader.SyncProgress

/-!
# Synchronizations and publications at the same time

A synchronization reads the catalog, validates and hashes the files of the build
that is current there, and only then asks for the lock. Until it gets the lock,
other builds may be promoted and other synchronizations may commit, and what it
does with the lock is decided by the replica and by what it has read before. So
a commit always leaves one whole build, but the build is the one of the reading:
an invocation that has been overtaken between the reading and the lock puts the
replica back, and one that begins after a commit does not.
-/

open Transaction Program

/-! ## Promotions -/

/-- How often a build was promoted. -/
def promotions : List GoldEvent → ℕ
  | [] => 0
  | .wrote .promoted _ :: earlier => promotions earlier + 1
  | _ :: earlier => promotions earlier

theorem promotions_cons_le (event : GoldEvent) (earlier : List GoldEvent) :
    promotions earlier ≤ promotions (event :: earlier) := by
  rcases event with ⟨_ | _ | _ | _ | _, _⟩ | _ | _ <;> simp [promotions]

theorem promotions_mono {earlier events : List GoldEvent} (h : earlier <:+ events) :
    promotions earlier ≤ promotions events := by
  induction events with
  | nil => rw [List.suffix_nil.mp h]
  | cons event rest ih =>
    rcases List.suffix_cons_iff.mp h with rfl | h
    · exact le_refl _
    · exact (ih h).trans (promotions_cons_le event rest)

/-- **A build was current after so many promotions.** -/
def CurrentAfter (start : List GoldCatalogRecord) (events : List GoldEvent) (moment : ℕ)
    (buildId : String) : Prop :=
  ∃ earlier, earlier <:+ events ∧ promotions earlier = moment
    ∧ IsCurrent (onDiskAfter start earlier) buildId

section Moments

variable {start : List GoldCatalogRecord} {events earlier later : List GoldEvent} {moment : ℕ}
  {buildId buildId' : String}

theorem CurrentAfter.mono (h : CurrentAfter start earlier moment buildId)
    (hsuffix : earlier <:+ events) : CurrentAfter start events moment buildId := by
  obtain ⟨first, hfirst, hrest⟩ := h
  exact ⟨first, hfirst.trans hsuffix, hrest⟩

/-- The current build stays until the next promotion. -/
theorem IsHistory.isCurrent_iff (h : IsHistory start events) (hlater : later <:+ events)
    (hearlier : earlier <:+ later) (hsame : promotions earlier = promotions later) :
    IsCurrent (onDiskAfter start later) buildId
      ↔ IsCurrent (onDiskAfter start earlier) buildId := by
  induction later with
  | nil => rw [List.suffix_nil.mp hearlier]
  | cons event rest ih =>
    rcases List.suffix_cons_iff.mp hearlier with rfl | hrest
    · rfl
    have hle := promotions_mono hrest
    have hcons := promotions_cons_le event rest
    have ih' := ih ((List.suffix_cons event rest).trans hlater) hrest
      (le_antisymm hle (hsame ▸ hcons))
    have hevent := h event rest hlater
    cases event with
    | wrote step rows =>
      refine Iff.trans (hevent.current_same (fun hstep => ?_) buildId) ih'
      -- a promotion would have been counted
      subst hstep
      have hcount : promotions (.wrote .promoted rows :: rest) = promotions rest + 1 := rfl
      omega
    | sweeping swept onDisk => exact ih'
    | removed swept artifact onDisk => exact ih'

/-- **A number of promotions determines the build.** -/
theorem IsHistory.currentAfter_unique (h : IsHistory start events)
    (hstart : WellFormedCatalog start) (hb : CurrentAfter start events moment buildId)
    (hb' : CurrentAfter start events moment buildId') : buildId = buildId' := by
  obtain ⟨e, he, rfl, hcurrent⟩ := hb
  obtain ⟨e', he', hsame, hcurrent'⟩ := hb'
  have hunique : ∀ {later : List GoldEvent}, later <:+ events →
      IsCurrent (onDiskAfter start later) buildId → IsCurrent (onDiskAfter start later) buildId' →
      buildId = buildId' := by
    rintro later hlater ⟨r, hr, rfl, hc⟩ ⟨r', hr', rfl, hc'⟩
    exact congrArg _ ((h.wellFormed hstart hlater).eq_of_current hr hr' hc hc')
  rcases List.suffix_or_suffix_of_suffix he he' with hee | hee
  · exact hunique he' ((h.isCurrent_iff he' hee hsame.symm).mpr hcurrent) hcurrent'
  · exact hunique he hcurrent ((h.isCurrent_iff he hee hsame).mpr hcurrent')

end Moments

/-- A step of a session only adds to what is remembered. -/
theorem GoldStep.suffix {s s' : GoldSession} (h : GoldStep s s') : s.events <:+ s'.events := by
  cases h with
  | files _ hevents => rw [hevents]
  | wrote step rows _ => exact List.suffix_cons _ _
  | sweeping buildId _ => exact List.suffix_cons _ _
  | removed buildId artifact _ _ hevents =>
    rw [hevents]
    exact List.suffix_cons _ _

/-- What is selected is current in the catalog. -/
theorem isCurrent_of_selected {records : List GoldCatalogRecord} {record : GoldCatalogRecord}
    (h : selectCurrentSyncRecord records = .ok record) : IsCurrent records record.buildId := by
  obtain ⟨record', hstrict, h⟩ := bind_eq_ok.mp h
  obtain ⟨_, -, h⟩ := bind_eq_ok.mp h
  obtain ⟨_, -, h⟩ := bind_eq_ok.mp h
  cases h
  unfold strictCurrent singleCurrent at hstrict
  rcases hfilter : records.filter (fun r => r.current) with _ | ⟨r, _ | _⟩
  · simp [hfilter] at hstrict
  · have hr : r ∈ records.filter (fun r => r.current) := by simp [hfilter]
    obtain ⟨hmem, hcurrent⟩ := List.mem_filter.mp hr
    simp only [hfilter] at hstrict
    split_ifs at hstrict
    obtain rfl := Except.ok.inj hstrict
    exact ⟨r, hmem, rfl, hcurrent⟩
  · simp [hfilter] at hstrict

/-! ## The world of many synchronizations -/

/-- **The files never change**: what a source reads under a path, whenever it does,
is what the path was given once. -/
def GoldSource.Reads (source : GoldSource) (files : String → Option Bytes) : Prop :=
  ∀ path bytes, source.readBytes path = .ok bytes → files path = some bytes

/-- How far an invocation of `sync` has come. -/
inductive SyncPhase
  | waiting
  /-- It has read the catalog, after so many promotions. -/
  | selected (moment : ℕ) (catalog : Except PyError (List GoldCatalogRecord))
  /-- It has validated and hashed the files of the build, and asks for the lock. -/
  | prepared (moment : ℕ) (env : GoldPostgresDeltaSync)
      (prepared : GoldCatalogRecord × String × GoldSyncState)
  | ended

/-- The number of promotions before an invocation read the catalog. -/
def SyncPhase.moment : SyncPhase → Option ℕ
  | .waiting | .ended => none
  | .selected moment _ | .prepared moment _ _ => some moment

/-- **The Gold files, the replica and some invocations.** No step reads what
`committed` remembers, which is when the catalog was read for the last commit. -/
structure SyncWorld (ι : Type) where
  gold : GoldSession
  replica : Replica
  committed : Option ℕ
  phase : ι → SyncPhase

/-- No invocation has begun. -/
structure SyncWorld.IsInitial {ι : Type} (w : SyncWorld ι) : Prop where
  wellFormed : WellFormedCatalog w.gold.lake.records
  events : w.gold.events = []
  committed : w.committed = none
  phase : ∀ i, w.phase i = .waiting

section Worlds

variable {ι : Type} [DecidableEq ι]

/-- An invocation comes to another phase. -/
def SyncWorld.enter (w : SyncWorld ι) (i : ι) (phase : SyncPhase) : SyncWorld ι :=
  { w with phase := Function.update w.phase i phase }

variable (sha256 : Bytes → Sha256Hex) (decodeFrame : Bytes → Except PyError GoldFrame)
  (files : String → Option Bytes)

/-- What an invocation does with the lock. -/
def lockedSync (source : GoldSource) (prepared : GoldCatalogRecord × String × GoldSyncState) :
    Transaction GoldSyncResult :=
  runLocked (syncLocked sha256 decodeFrame source prepared.1 prepared.2.1 prepared.2.2)

/-- **A step of the world**: of a publication, reconciliation or retention run on the
Gold files, or of an invocation. The lock makes one step of all that an
invocation does with it. -/
inductive SyncStep : SyncWorld ι → SyncWorld ι → Prop
  | gold {w : SyncWorld ι} (gold : GoldSession) (hgold : GoldStep w.gold gold) :
    SyncStep w { w with gold := gold }
  | select {w : SyncWorld ι} (i : ι) (hphase : w.phase i = .waiting) :
    SyncStep w (w.enter i
      (.selected (promotions w.gold.events) (readCatalog w.gold.lake.catalog)))
  | prepare {w : SyncWorld ι} (i : ι) {moment : ℕ} (env : GoldPostgresDeltaSync)
      {prepared : GoldCatalogRecord × String × GoldSyncState}
      (hphase : w.phase i = .selected moment env.catalog) (hfiles : env.source.Reads files)
      (hprepared : prepareSync sha256 env = .ok prepared) :
    SyncStep w (w.enter i (.prepared moment env prepared))
  | fail {w : SyncWorld ι} (i : ι) : SyncStep w (w.enter i .ended)
  | commit {w : SyncWorld ι} (i : ι) {moment : ℕ} {env : GoldPostgresDeltaSync}
      {prepared : GoldCatalogRecord × String × GoldSyncState} (source : GoldSource)
      {faults rest : List (Fault PyError)} {result : GoldSyncResult} {after : Session}
      (hphase : w.phase i = .prepared moment env prepared) (hfiles : source.Reads files)
      (hrun : lockedSync sha256 decodeFrame source prepared ⟨w.replica, []⟩ faults
        = (.returned result, after, rest)) :
    SyncStep w
      { w.enter i .ended with replica := after.replica, committed := some moment }
  | rollBack {w : SyncWorld ι} (i : ι) {moment : ℕ} {env : GoldPostgresDeltaSync}
      {prepared : GoldCatalogRecord × String × GoldSyncState} (source : GoldSource)
      {faults rest : List (Fault PyError)} {last : Outcome PyError GoldSyncResult}
      {after : Session} (hphase : w.phase i = .prepared moment env prepared)
      (hlast : ∀ result, last ≠ .returned result)
      (hrun : lockedSync sha256 decodeFrame source prepared ⟨w.replica, []⟩ faults
        = (last, after, rest)) :
    SyncStep w { w.enter i .ended with replica := after.replica }

/-- A run of the world. -/
abbrev SyncRun : SyncWorld ι → SyncWorld ι → Prop :=
  Relation.ReflTransGen (SyncStep sha256 decodeFrame files)

/-! ## What a step does to the replica -/

/-- **The replica holds a build**, one that was validated. -/
def Replicates (db : Replica) (record : GoldCatalogRecord) : Prop :=
  ∃ env bytes source, env.source.Reads files
    ∧ CurrentBuild sha256 decodeFrame env record bytes source
    ∧ HoldsBuild sha256 db source (buildState sha256 record bytes source env.now)

variable {sha256 decodeFrame files} {start w w' : SyncWorld ι}

/-- **With the lock**, an invocation replicates the build it has prepared, whatever
the replica holds by then. -/
theorem replicates_of_commit {env : GoldPostgresDeltaSync} {source : GoldSource}
    {prepared : GoldCatalogRecord × String × GoldSyncState} {before after : Session}
    {faults rest : List (Fault PyError)} {result : GoldSyncResult}
    (hprepared : prepareSync sha256 env = .ok prepared) (henv : env.source.Reads files)
    (hsource : source.Reads files)
    (hrun : lockedSync sha256 decodeFrame source prepared before faults
      = (.returned result, after, rest)) :
    Replicates sha256 decodeFrame files after.replica prepared.1 := by
  have hlocked : wp (lockedSync sha256 decodeFrame source prepared) _ before :=
    wp_prepared hprepared (fun bytes bytes' hbytes hbytes' =>
      Option.some.inj ((henv _ _ hbytes).symm.trans (hsource _ _ hbytes'))) before
  have hend := hlocked faults
  rw [hrun] at hend
  obtain ⟨bytes, rows, hbuild, -, hholds⟩ := hend
  exact ⟨env, bytes, rows, henv, hbuild, hholds⟩

/-- An invocation that does not return with the lock leaves the replica alone. -/
theorem rolledBack {source : GoldSource} {prepared : GoldCatalogRecord × String × GoldSyncState}
    {before after : Session} {faults rest : List (Fault PyError)}
    {last : Outcome PyError GoldSyncResult} (hlast : ∀ result, last ≠ .returned result)
    (hrun : lockedSync sha256 decodeFrame source prepared before faults = (last, after, rest)) :
    after = before := by
  have hend : wp (lockedSync sha256 decodeFrame source prepared)
      ⟨fun _ _ => True, fun _ s => s = before, fun s => s = before⟩ before :=
    wp_runLocked (wp_mono (wp_true _ _) (fun _ _ _ => trivial) (fun _ _ _ => trivial)
      (fun _ _ => trivial)) (fun _ => rfl) rfl
  have hafter := hend faults
  rw [hrun] at hafter
  cases last with
  | returned result => exact absurd rfl (hlast result)
  | raised e => exact hafter
  | crashed => exact hafter

/-! ## What holds in every world -/

/-- What an invocation knows is right: the build it has selected was current after
so many promotions. -/
def SyncPhase.Fits (sha256 : Bytes → Sha256Hex) (files : String → Option Bytes)
    (start : List GoldCatalogRecord) (events : List GoldEvent) : SyncPhase → Prop
  | .waiting | .ended => True
  | .selected moment catalog => moment ≤ promotions events ∧ ∀ records record,
      catalog = .ok records → selectCurrentSyncRecord records = .ok record →
        CurrentAfter start events moment record.buildId
  | .prepared moment env found => moment ≤ promotions events ∧ env.source.Reads files
      ∧ prepareSync sha256 env = .ok found ∧ CurrentAfter start events moment found.1.buildId

theorem SyncPhase.Fits.mono {records : List GoldCatalogRecord} {earlier events : List GoldEvent}
    {phase : SyncPhase} (h : phase.Fits sha256 files records earlier)
    (hsuffix : earlier <:+ events) : phase.Fits sha256 files records events := by
  cases phase with
  | waiting => trivial
  | ended => trivial
  | selected moment catalog =>
    exact ⟨h.1.trans (promotions_mono hsuffix),
      fun rs r hrs hr => (h.2 rs r hrs hr).mono hsuffix⟩
  | prepared moment env found =>
    obtain ⟨hle, hfiles, hprepared, hcurrent⟩ := h
    exact ⟨hle.trans (promotions_mono hsuffix), hfiles, hprepared, hcurrent.mono hsuffix⟩

variable (sha256 decodeFrame files) in
/-- **What holds in every world that is reached.** -/
structure SyncInvariant (start w : SyncWorld ι) : Prop where
  leads : Leads start.gold w.gold
  unchanged : w.committed = none → w.replica = start.replica
  recorded : ∀ moment, w.committed = some moment → moment ≤ promotions w.gold.events
    ∧ ∃ record, Replicates sha256 decodeFrame files w.replica record
      ∧ CurrentAfter start.gold.lake.records w.gold.events moment record.buildId
  phases : ∀ i, (w.phase i).Fits sha256 files start.gold.lake.records w.gold.events

omit [DecidableEq ι] in
theorem SyncInvariant.initial (h : start.IsInitial) :
    SyncInvariant sha256 decodeFrame files start start where
  leads := .refl
  unchanged _ := rfl
  recorded moment hm := by
    rw [h.committed] at hm
    cases hm
  phases i := by
    rw [h.phase i]
    trivial

/-- The phases after one invocation has gone on. -/
theorem SyncInvariant.phases_enter (h : SyncInvariant sha256 decodeFrame files start w) {i : ι}
    {phase : SyncPhase} (hphase : phase.Fits sha256 files start.gold.lake.records w.gold.events)
    (j : ι) :
    ((w.enter i phase).phase j).Fits sha256 files start.gold.lake.records w.gold.events := by
  show (Function.update w.phase i phase j).Fits _ _ _ _
  rw [Function.update_apply]
  split_ifs with hj
  · exact hphase
  · exact h.phases j

theorem SyncInvariant.phases_ended (h : SyncInvariant sha256 decodeFrame files start w) (i j : ι) :
    ((w.enter i .ended).phase j).Fits sha256 files start.gold.lake.records w.gold.events :=
  h.phases_enter (show SyncPhase.ended.Fits _ _ _ _ from trivial) j

/-- An invocation that only goes on changes nothing that is shared. -/
theorem SyncInvariant.enter (h : SyncInvariant sha256 decodeFrame files start w) {i : ι}
    {phase : SyncPhase} (hphase : phase.Fits sha256 files start.gold.lake.records w.gold.events) :
    SyncInvariant sha256 decodeFrame files start (w.enter i phase) :=
  ⟨h.leads, h.unchanged, h.recorded, h.phases_enter hphase⟩

/-- **Every step keeps it.** -/
theorem SyncInvariant.step (hstart : start.IsInitial)
    (h : SyncInvariant sha256 decodeFrame files start w)
    (hstep : SyncStep sha256 decodeFrame files w w') :
    SyncInvariant sha256 decodeFrame files start w' := by
  cases hstep with
  | gold gold hgold =>
    refine ⟨h.leads.tail hgold, h.unchanged, fun moment hm => ?_,
      fun i => (h.phases i).mono hgold.suffix⟩
    obtain ⟨hle, record, hreplica, hcurrent⟩ := h.recorded moment hm
    exact ⟨hle.trans (promotions_mono hgold.suffix), record, hreplica, hcurrent.mono hgold.suffix⟩
  | select i hphase =>
    refine h.enter ⟨le_refl _, fun records record hrecords hrecord => ?_⟩
    have hdisk := (history_of_leads h.leads hstart.events).2
    have hread : records = w.gold.lake.records := (readCatalog_eq_ok hrecords).1
    refine ⟨w.gold.events, List.suffix_refl _, rfl, ?_⟩
    rw [← hdisk, ← hread]
    exact isCurrent_of_selected hrecord
  | @prepare i moment env prepared hphase hfiles hprepared =>
    have hselected := h.phases i
    rw [hphase] at hselected
    have hok : prepareSync sha256 env = .ok (prepared.1, prepared.2.1, prepared.2.2) := hprepared
    obtain ⟨bytes, ⟨records, hcatalog, hselect⟩, -⟩ := prepareSync_eq_ok hok
    exact h.enter ⟨hselected.1, hfiles, hprepared, hselected.2 _ _ hcatalog hselect⟩
  | fail i => exact h.enter trivial
  | @commit i moment env prepared source faults rest result after hphase hfiles hrun =>
    have hprepared := h.phases i
    rw [hphase] at hprepared
    obtain ⟨hle, henv, hprepared, hcurrent⟩ := hprepared
    refine ⟨h.leads, (fun hnone => nomatch hnone), fun moment' hm => ?_, h.phases_ended i⟩
    obtain rfl := Option.some.inj hm
    exact ⟨hle, prepared.1, replicates_of_commit hprepared henv hfiles hrun, hcurrent⟩
  | rollBack i source hphase hlast hrun =>
    obtain rfl := rolledBack hlast hrun
    exact ⟨h.leads, h.unchanged, h.recorded, h.phases_ended i⟩

/-- Every run keeps it. -/
theorem SyncInvariant.run (hstart : start.IsInitial)
    (hrun : SyncRun sha256 decodeFrame files start w) :
    SyncInvariant sha256 decodeFrame files start w := by
  induction hrun with
  | refl => exact .initial hstart
  | tail _ hstep ih => exact ih.step hstart hstep

/-- An invocation that had not read the catalog yet reads one that is not older. -/
theorem moment_of_run {n : ℕ} (hn : n ≤ promotions w.gold.events)
    (hrun : SyncRun sha256 decodeFrame files w w') {i : ι}
    (hphase : ∀ moment ∈ (w.phase i).moment, n ≤ moment) :
    n ≤ promotions w'.gold.events ∧ ∀ moment ∈ (w'.phase i).moment, n ≤ moment := by
  induction hrun with
  | refl => exact ⟨hn, hphase⟩
  | tail _ hstep ih =>
    obtain ⟨hle, hmoment⟩ := ih
    have henter : ∀ {v : SyncWorld ι} (j : ι) (phase : SyncPhase),
        (∀ moment ∈ (v.phase i).moment, n ≤ moment) →
        (j = i → ∀ moment ∈ phase.moment, n ≤ moment) →
        ∀ moment ∈ ((v.enter j phase).phase i).moment, n ≤ moment := by
      intro v j phase hv hj moment hm
      by_cases hij : i = j
      · subst hij
        rw [show (v.enter i phase).phase i = phase from Function.update_self ..] at hm
        exact hj rfl moment hm
      · rw [show (v.enter j phase).phase i = v.phase i from Function.update_of_ne hij ..] at hm
        exact hv moment hm
    cases hstep with
    | gold gold hgold => exact ⟨hle.trans (promotions_mono hgold.suffix), hmoment⟩
    | select j hj =>
      exact ⟨hle, henter j _ hmoment (fun _ moment hm => Option.some.inj hm ▸ hle)⟩
    | prepare j env hj _ _ =>
      refine ⟨hle, henter j _ hmoment (fun hij moment hm => ?_)⟩
      subst hij
      rw [hj] at hmoment
      exact hmoment moment hm
    | fail j => exact ⟨hle, henter j _ hmoment (fun _ moment hm => nomatch hm)⟩
    | commit j source hj hfiles hrun =>
      exact ⟨hle, henter j .ended hmoment (fun _ moment hm => nomatch hm)⟩
    | rollBack j source hj hlast hrun =>
      exact ⟨hle, henter j .ended hmoment (fun _ moment hm => nomatch hm)⟩

end Worlds

/-! ## Two builds and two invocations -/

/-- The Gold files before the first publication. -/
def noBuilds : GoldSession where
  lake := ⟨none, fun _ => none, none, none⟩
  events := []

/-- A build of one row. -/
def firstBuild : GoldCatalogRecord :=
  { sampleRecord "20260101T000000Z" 1 0 with dataPath := some "first.parquet" }

/-- The next build, of two rows. -/
def secondBuild : GoldCatalogRecord :=
  { sampleRecord "20260102T000000Z" 2 secondDay with dataPath := some "second.parquet" }

/-- The catalog after the promotion of the next build. -/
def bothBuilds : List GoldCatalogRecord := [{ firstBuild with current := false }, secondBuild]

/-- The data files of the two builds. -/
def bothFiles : String → Option Bytes
  | "first.parquet" => some [0]
  | "second.parquet" => some [2]
  | _ => none

/-- A source that reads these files. -/
def bothSource : GoldSource where
  validateBundle := fun _ => .ok ()
  readBytes := fun path =>
    match bothFiles path with
    | some bytes => .ok bytes
    | none => .error (.osError "No such file or directory")

/-- What an invocation is given that reads a catalog. -/
def bothSync (records : List GoldCatalogRecord) : GoldPostgresDeltaSync :=
  ⟨.ok records, bothSource, .ok (), .utc 0⟩

theorem reads_bothSource : bothSource.Reads bothFiles := by
  intro path bytes h
  cases hfile : bothFiles path with
  | none => simp [bothSource, hfile] at h
  | some found =>
    simp only [bothSource, hfile, Except.ok.injEq] at h
    rw [h]

theorem wellFormed_firstBuild : WellFormedCatalog [firstBuild] :=
  (catalogFrame_eq_ok.mp (show catalogFrame [firstBuild] = .ok [firstBuild] from rfl)).1

theorem wellFormed_bothBuilds : WellFormedCatalog bothBuilds :=
  (catalogFrame_eq_ok.mp (show catalogFrame bothBuilds = .ok bothBuilds from rfl)).1

/-- The promotion of the first build. -/
theorem move_firstBuild : CatalogMove .promoted [] [firstBuild] where
  wellFormed := wellFormed_firstBuild
  current_kept := fun ⟨_, _, hr, _⟩ => nomatch hr
  current_same h := absurd rfl h
  marked_kept r hr := nomatch hr
  pruned_marked r hr hp := by
    obtain rfl := List.mem_singleton.mp hr
    cases hp

/-- The promotion of the second build. -/
theorem move_bothBuilds : CatalogMove .promoted [firstBuild] bothBuilds where
  wellFormed := wellFormed_bothBuilds
  current_kept := fun _ => ⟨secondBuild.buildId, secondBuild, by simp [bothBuilds], rfl, rfl⟩
  current_same h := absurd rfl h
  marked_kept r hr hm := by
    obtain rfl := List.mem_singleton.mp hr
    cases hm
  pruned_marked r hr hp := by
    rcases List.mem_cons.mp hr with rfl | hr
    · cases hp
    · obtain rfl := List.mem_singleton.mp hr
      cases hp

/-- The two builds can be validated. -/
theorem exists_bothBuild {records : List GoldCatalogRecord} {record : GoldCatalogRecord}
    {path : String} {bytes : Bytes} {rows : List (Timestamp × Float64)}
    (hselect : selectCurrentSyncRecord records = .ok record)
    (hpath : requiredDataPath record = .ok path) (hbytes : bothSource.readBytes path = .ok bytes)
    (hdecode : sampleDecode bytes = .ok (constantFrame rows))
    (hmetadata : validateFrameMetadata (constantFrame rows) record = .ok ())
    (hnodup : (rows.map Prod.fst).Nodup)
    (hrows : ∀ r ∈ rows, loadDatetime r.1 = .ok r.1 ∧ r.2.isZero = true) :
    ∃ source, CurrentBuild sampleSha256 sampleDecode (bothSync records) record bytes source
      ∧ source.keys.length = rows.length ∧ ∀ t r, source.get? t = some r → IsGoldRow r.1 := by
  obtain ⟨source, hsource, hlength, hgold⟩ := sourceRows_zeros sampleSha256 rows hnodup hrows
  exact ⟨source, ⟨⟨records, rfl, hselect⟩, rfl, rfl, ⟨path, hpath, hbytes⟩,
    ⟨_, hdecode, hmetadata, hsource⟩⟩, hlength, hgold⟩

/-- Where a whole synchronization succeeds, its part with the lock does. -/
theorem succeeds_lockedSync {sha256 : Bytes → Sha256Hex}
    {decodeFrame : Bytes → Except PyError GoldFrame} {env : GoldPostgresDeltaSync}
    {prepared : GoldCatalogRecord × String × GoldSyncState} {s : Session}
    {Q : GoldSyncResult → Session → Prop} (hprepared : prepareSync sha256 env = .ok prepared)
    (h : Succeeds (sync sha256 decodeFrame env) s Q) :
    Succeeds (lockedSync sha256 decodeFrame env.source prepared) s Q := by
  obtain ⟨result, after, hrun, hQ⟩ := h
  refine ⟨result, after, ?_, hQ⟩
  rw [← hrun, sync, hprepared]
  rfl

/-- **A run in which the second build is promoted and replicated** while an
invocation that has read the first one waits for the lock, which it gets last. -/
theorem exists_overtaken : ∃ start w w' : SyncWorld Bool,
    start.IsInitial ∧ SyncRun sampleSha256 sampleDecode bothFiles start w
    ∧ SyncStep sampleSha256 sampleDecode bothFiles w w'
    ∧ w.committed = some 2 ∧ w'.committed = some 1
    ∧ (w.replica.syncState postgresDatasetId).map (·.sourceBuildId) = some secondBuild.buildId
    ∧ (w'.replica.syncState postgresDatasetId).map (·.sourceBuildId) = some firstBuild.buildId
    ∧ CurrentAfter start.gold.lake.records w.gold.events 1 firstBuild.buildId
    ∧ CurrentAfter start.gold.lake.records w.gold.events 2 secondBuild.buildId := by
  have hselect₁ : selectCurrentSyncRecord [firstBuild] = .ok firstBuild := rfl
  have hselect₂ : selectCurrentSyncRecord bothBuilds = .ok secondBuild := rfl
  obtain ⟨source₁, hbuild₁, hlength₁, hgold₁⟩ := exists_bothBuild hselect₁ rfl rfl rfl rfl
    (by simp) (by simp only [List.forall_mem_singleton]; exact ⟨rfl, rfl⟩)
  obtain ⟨source₂, hbuild₂, hlength₂, hgold₂⟩ := exists_bothBuild hselect₂ rfl rfl rfl rfl
    (by decide) (by simp only [List.forall_mem_cons]; exact ⟨⟨rfl, rfl⟩, ⟨rfl, rfl⟩, by simp⟩)
  obtain ⟨path₁, -, hprepare₁, -⟩ := hbuild₁.prepareSync_eq rfl
  obtain ⟨path₂, -, hprepare₂, -⟩ := hbuild₂.prepareSync_eq rfl
  -- the second build goes into the empty replica, and the first one over it
  obtain ⟨result₂, after₂, hlocked₂, hholds₂⟩ := succeeds_lockedSync hprepare₂
    (succeeds_sync_first hbuild₂ rfl hgold₂ agrees_emptyReplica rfl)
  have hchanged : source₁.map Prod.snd ≠ source₂.map Prod.snd := fun hrows => by
    have hkeys := congrArg (fun t => (KeyedTable.keys t).length) hrows
    simp only [KeyedTable.keys_map, hlength₁, hlength₂] at hkeys
    cases hkeys
  obtain ⟨result₁, after₁, hlocked₁, -, hholds₁, -⟩ := succeeds_lockedSync hprepare₁
    (succeeds_sync_next hholds₂ hbuild₁ rfl hgold₁ (fun hsha => absurd hsha (by decide))
      (fun hrows => absurd hrows hchanged))
  let start : SyncWorld Bool := ⟨noBuilds, emptyReplica, none, fun _ => .waiting⟩
  have hpromote₁ : SyncRun sampleSha256 sampleDecode bothFiles start _ :=
    .single (.gold _ (.wrote .promoted [firstBuild] move_firstBuild))
  have hread₁ := (hpromote₁.tail (.select true rfl)).tail
    (.prepare true (bothSync [firstBuild]) rfl reads_bothSource hprepare₁)
  have hpromote₂ := hread₁.tail (.gold _ (.wrote .promoted bothBuilds move_bothBuilds))
  have hread₂ := (hpromote₂.tail (.select false rfl)).tail
    (.prepare false (bothSync bothBuilds) rfl reads_bothSource hprepare₂)
  have hcommit₂ := hread₂.tail (.commit false bothSource rfl reads_bothSource hlocked₂)
  refine ⟨start, _, _, ⟨.nil, rfl, rfl, fun _ => rfl⟩, hcommit₂,
    .commit true bothSource rfl reads_bothSource hlocked₁, rfl, rfl, ?_, ?_, ?_, ?_⟩
  · exact congrArg _ hholds₂.state
  · exact congrArg _ hholds₁.state
  · exact ⟨_, List.suffix_cons _ _, rfl, firstBuild, List.mem_cons_self, rfl, rfl⟩
  · exact ⟨_, List.suffix_refl _, rfl, secondBuild,
      List.mem_cons_of_mem _ List.mem_cons_self, rfl, rfl⟩

section Concurrent

variable {ι : Type} [DecidableEq ι] {sha256 : Bytes → Sha256Hex}
  {decodeFrame : Bytes → Except PyError GoldFrame} {files : String → Option Bytes}
  {start w : SyncWorld ι}

/-- **A commit replicates the build that was current when the catalog was read.** In
whatever order invocations and publications make their steps, the replica holds
one whole build, that of the last commit. Only a commit changes it, and then to
the build that the committing invocation has read; so it goes back exactly where
that reading was before the promotion of the recorded build, and no invocation
can do that which begins after the commit of the recorded build. -/
theorem sync_concurrent (hstart : start.IsInitial)
    (hreach : SyncRun sha256 decodeFrame files start w) :
    (w.committed = none → w.replica = start.replica)
    ∧ (∀ moment, w.committed = some moment → ∃ record,
      Replicates sha256 decodeFrame files w.replica record
      ∧ CurrentAfter start.gold.lake.records w.gold.events moment record.buildId)
    ∧ (∀ moment buildId buildId',
      CurrentAfter start.gold.lake.records w.gold.events moment buildId →
      CurrentAfter start.gold.lake.records w.gold.events moment buildId' → buildId = buildId')
    ∧ (∀ w', SyncStep sha256 decodeFrame files w w' →
      (w'.replica = w.replica ∧ w'.committed = w.committed)
      ∨ ∃ i moment env found, w.phase i = .prepared moment env found
        ∧ w'.committed = some moment
        ∧ Replicates sha256 decodeFrame files w'.replica found.1
        ∧ CurrentAfter start.gold.lake.records w.gold.events moment found.1.buildId)
    ∧ ∀ earlier i, SyncRun sha256 decodeFrame files start earlier →
      SyncRun sha256 decodeFrame files earlier w → earlier.phase i = .waiting →
      ∀ moment env found, w.phase i = .prepared moment env found →
      ∀ before, earlier.committed = some before → before ≤ moment := by
  have h := SyncInvariant.run hstart hreach
  refine ⟨h.unchanged, fun moment hm => (h.recorded moment hm).2, ?_, fun w' hstep => ?_, ?_⟩
  · intro moment buildId buildId'
    exact (history_of_leads h.leads hstart.events).1.currentAfter_unique hstart.wellFormed
  · cases hstep with
    | gold gold hgold => exact .inl ⟨rfl, rfl⟩
    | select i hphase => exact .inl ⟨rfl, rfl⟩
    | prepare i env hphase hfiles hprepared => exact .inl ⟨rfl, rfl⟩
    | fail i => exact .inl ⟨rfl, rfl⟩
    | @commit i moment env found source faults rest result after hphase hfiles hrun =>
      have hfound := h.phases i
      rw [hphase] at hfound
      obtain ⟨-, henv, hprepared, hcurrent⟩ := hfound
      exact .inr ⟨i, moment, env, found, hphase, rfl,
        replicates_of_commit hprepared henv hfiles hrun, hcurrent⟩
    | rollBack i source hphase hlast hrun =>
      exact .inl ⟨congrArg Session.replica (rolledBack hlast hrun), rfl⟩
  · intro earlier i hearlier hrun hwaiting moment env found hphase before hbefore
    have hle := ((SyncInvariant.run hstart hearlier).recorded before hbefore).1
    have hnone : ∀ m ∈ (earlier.phase i).moment, before ≤ m := fun m hm => by
      rw [hwaiting] at hm
      cases hm
    have hmoment := (moment_of_run hle hrun hnone).2
    rw [hphase] at hmoment
    exact hmoment moment rfl

end Concurrent

/-- An invocation that was overtaken puts the replica back to the first build. -/
theorem sync_overtaken : ∃ start w w' : SyncWorld Bool,
    start.IsInitial ∧ SyncRun sampleSha256 sampleDecode bothFiles start w
    ∧ SyncStep sampleSha256 sampleDecode bothFiles w w'
    ∧ w.committed = some 2 ∧ w'.committed = some 1
    ∧ (w.replica.syncState postgresDatasetId).map (·.sourceBuildId) = some secondBuild.buildId
    ∧ (w'.replica.syncState postgresDatasetId).map (·.sourceBuildId) = some firstBuild.buildId
    ∧ CurrentAfter start.gold.lake.records w.gold.events 1 firstBuild.buildId
    ∧ CurrentAfter start.gold.lake.records w.gold.events 2 secondBuild.buildId :=
  exists_overtaken

/-- After the second build was replicated, the replica holds it, and what is prepared
decides what comes next. -/
theorem sync_concurrent_overtaken : ∃ start w : SyncWorld Bool,
    start.IsInitial ∧ w.committed = some 2
    ∧ (∃ record, Replicates sampleSha256 sampleDecode bothFiles w.replica record
      ∧ CurrentAfter start.gold.lake.records w.gold.events 2 record.buildId)
    ∧ ∀ w', SyncStep sampleSha256 sampleDecode bothFiles w w' →
      (w'.replica = w.replica ∧ w'.committed = w.committed)
      ∨ ∃ i moment env found, w.phase i = .prepared moment env found
        ∧ w'.committed = some moment
        ∧ Replicates sampleSha256 sampleDecode bothFiles w'.replica found.1
        ∧ CurrentAfter start.gold.lake.records w.gold.events moment found.1.buildId := by
  obtain ⟨start, w, -, hstart, hreach, -, hcommitted, -⟩ := exists_overtaken
  obtain ⟨-, hrecorded, -, hstep, -⟩ := sync_concurrent hstart hreach
  exact ⟨start, w, hstart, hcommitted, hrecorded 2 hcommitted, hstep⟩
