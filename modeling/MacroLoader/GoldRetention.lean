import MacroLoader.GoldHistory

/-!
# What retention keeps

Retention counts the builds of a pair of versions, the current one among them, and
marks as many of the oldest others as there are too many. The current build may be
old, or of another pair of versions, so the count and the candidates are not of the
same builds. That the candidates suffice is because there is one current build at
most and at least one build is retained (`selectGroup_eq`); that the right number is
left is because the marked builds are distinct builds of the group
(`length_retainedGroup_marked`).
-/

open Program

/-! ## Groups of builds -/

/-- The builds of a pair of versions that consumers can select. -/
def selectableBuilds (records : List GoldCatalogRecord) (version : ℤ × ℤ) :
    List GoldCatalogRecord :=
  records.filter (fun r => r.selectableComplete && (GoldProgram.versions r == version))

/-- When a build was completed, and its id. -/
def completionKey (r : GoldCatalogRecord) : Timestamp ×ₗ String :=
  toLex ((r.completedAtUtc.map (·.instant)).getD 0, r.buildId)

/-- **What retention leaves of a catalog**: of each pair of versions as many builds as
are to be retained or as there are, the current one and the newest others; and all
records that it does not mark as they are. -/
structure KeepsNewest (retain : ℕ) (ids : List String) (before after : List GoldCatalogRecord) :
    Prop where
  count : ∀ v, (selectableBuilds after v).length = min (selectableBuilds before v).length retain
  subset : ∀ v, selectableBuilds after v ⊆ selectableBuilds before v
  current : ∀ v, ∀ r ∈ selectableBuilds before v, r.current = true → r ∈ selectableBuilds after v
  newest : ∀ v, ∀ r ∈ selectableBuilds after v, r.current = false →
    ∀ r' ∈ selectableBuilds before v, r' ∉ selectableBuilds after v →
      completionKey r' < completionKey r
  marked : ∀ r ∈ before, r.buildId ∈ ids → r.current = false ∧ r.selectableComplete = true
    ∧ ∃ r' ∈ after, r'.buildId = r.buildId ∧ GoldProgram.isMarked r' = true
  unmarked : ∀ r ∈ before, r.buildId ∉ ids → r ∈ after
  builds : (after.map (·.buildId)).Perm (before.map (·.buildId))

namespace GoldProgram

variable {policy : RetentionPolicy} {records group after : List GoldCatalogRecord}
  {v : ℤ × ℤ} {r r' : GoldCatalogRecord}

/-- The builds of a pair of versions that count for retention. -/
def retainedGroup (records : List GoldCatalogRecord) (v : ℤ × ℤ) : List GoldCatalogRecord :=
  (records.filter isRetained).filter (versions · == v)

theorem mem_retainedGroup : r ∈ retainedGroup records v
    ↔ r ∈ records ∧ isRetained r = true ∧ versions r = v := by
  rw [retainedGroup, List.mem_filter, List.mem_filter, beq_iff_eq, and_assoc]

/-- Of the records that the catalog accepts, those that count are those that can be
selected. -/
theorem isRetained_eq_selectable (h : r.WellFormed) : isRetained r = r.selectableComplete := by
  rw [Bool.eq_iff_iff]
  simp only [isRetained, GoldCatalogRecord.selectableComplete, Bool.and_eq_true, beq_iff_eq,
    Option.isNone_iff_eq_none]
  constructor
  · rintro ⟨⟨hstatus, hpruned⟩, hpaths⟩
    exact ⟨⟨⟨hstatus, (h.complete_artifacts hstatus hpruned).1⟩, hpruned⟩, hpaths⟩
  · rintro ⟨⟨⟨hstatus, -⟩, hpruned⟩, hpaths⟩
    exact ⟨⟨hstatus, hpruned⟩, hpaths⟩

theorem retainedGroup_eq_selectableBuilds
    (h : ∀ r ∈ records, isRetained r = r.selectableComplete) :
    retainedGroup records v = selectableBuilds records v := by
  rw [retainedGroup, selectableBuilds, List.filter_filter]
  exact List.filter_congr (fun r hr => by rw [h r hr, Bool.and_comm])

/-! ## The order of completion -/

theorem recordLE_iff : recordLE (·.completedAtUtc) r r' = true
    ↔ completionKey r ≤ completionKey r' := by
  rw [recordLE, completionKey, completionKey, Prod.Lex.le_iff]
  simp

theorem pairwise_sortRecords (l : List GoldCatalogRecord) :
    (sortRecords (·.completedAtUtc) l).Pairwise (fun a b => completionKey a ≤ completionKey b) := by
  have : Std.Total (fun a b => recordLE (·.completedAtUtc) a b = true) :=
    ⟨fun a b => by rw [recordLE_iff, recordLE_iff]; exact le_total _ _⟩
  have : IsTrans GoldCatalogRecord (fun a b => recordLE (·.completedAtUtc) a b = true) :=
    ⟨fun a b c => by rw [recordLE_iff, recordLE_iff, recordLE_iff]; exact le_trans⟩
  have hsorted : (sortRecords (·.completedAtUtc) l).Pairwise
      (fun a b => recordLE (·.completedAtUtc) a b = true) := List.pairwise_insertionSort _ _
  exact hsorted.imp (fun h => recordLE_iff.mp h)

theorem perm_sortRecords (l : List GoldCatalogRecord) :
    (sortRecords (·.completedAtUtc) l).Perm l := List.perm_insertionSort _ _

/-! ## The builds that are marked -/

/-- How many builds of a group are too many. -/
def excessOf (policy : RetentionPolicy) (group : List GoldCatalogRecord) : ℕ :=
  group.length - policy.retainSuccessfulBuilds

/-- The oldest builds of a group that are not current, as many as there are too many. -/
def oldestOthers (policy : RetentionPolicy) (group : List GoldCatalogRecord) :
    List GoldCatalogRecord :=
  (sortRecords (·.completedAtUtc) (group.filter (fun r => !r.current))).take
    (excessOf policy group)

theorem mem_of_mem_oldestOthers (h : r ∈ oldestOthers policy group) :
    r ∈ group ∧ r.current = false := by
  have hmem := (perm_sortRecords _).mem_iff.mp (List.mem_of_mem_take h)
  simpa using hmem

/-- **The others of a group suffice**: there is one current build at most. -/
theorem excessOf_le (h : WellFormedCatalog records) (hgroup : group.Sublist records) :
    excessOf policy group ≤ (group.filter (fun r => !r.current)).length := by
  have hcurrent : (group.filter (·.current)).length ≤ 1 :=
    (hgroup.filter _).length_le.trans h.current_le_one
  have hsum := List.length_eq_length_filter_add (l := group) (·.current)
  have hpos := policy.retain_pos
  unfold excessOf
  omega

theorem length_oldestOthers (h : WellFormedCatalog records) (hgroup : group.Sublist records) :
    (oldestOthers policy group).length = excessOf policy group := by
  rw [oldestOthers, List.length_take, (perm_sortRecords _).length_eq]
  exact min_eq_left (excessOf_le h hgroup)

/-- **The selection within a group never fails.** -/
theorem selectGroup_eq (h : WellFormedCatalog records) (hgroup : group.Sublist records)
    (hretained : ∀ r ∈ group, isRetained r = true) :
    selectGroup policy group = .ok ((oldestOthers policy group).map (·.buildId)) := by
  unfold selectGroup
  dsimp only
  split_ifs with hexcess
  · have hnone : excessOf policy group = 0 := hexcess
    rw [oldestOthers, hnone, List.take_zero]
    rfl
  · have hcompleted : (group.filter (fun r => !r.current)).all
        (fun r => r.completedAtUtc.isSome) = true := by
      refine List.all_eq_true.mpr (fun r hr => ?_)
      have hr := (List.mem_filter.mp hr).1
      have hwf := h.records_wellFormed r (hgroup.subset hr)
      have hselectable := hretained r hr
      rw [isRetained_eq_selectable hwf] at hselectable
      simp only [GoldCatalogRecord.selectableComplete, Bool.and_eq_true] at hselectable
      exact hselectable.1.1.2
    have hsuffice : group.length - policy.retainSuccessfulBuilds
        ≤ (group.filter (fun r => !r.current)).length := excessOf_le h hgroup
    rw [check, check, if_pos hcompleted, if_pos hsuffice]
    rfl

theorem sublist_retainedGroup : (retainedGroup records v).Sublist records :=
  List.filter_sublist.trans List.filter_sublist

/-- The pairs of versions in a catalog, in order. -/
def versionKeys (records : List GoldCatalogRecord) : List (ℤ × ℤ) :=
  ((records.filter isRetained).map versions).dedup.insertionSort (fun a b => versionsLE a b)

theorem mem_versionKeys (hr : r ∈ retainedGroup records v) : v ∈ versionKeys records := by
  obtain ⟨hmem, hretained, rfl⟩ := mem_retainedGroup.mp hr
  rw [versionKeys, List.mem_insertionSort, List.mem_dedup]
  exact List.mem_map_of_mem (List.mem_filter.mpr ⟨hmem, hretained⟩)

/-- A loop of which every step succeeds. -/
theorem mapM_eq_ok_map {α β ε : Type} {f : α → Except ε β} {g : α → β} {l : List α}
    (h : ∀ a ∈ l, f a = .ok (g a)) : l.mapM f = .ok (l.map g) := by
  obtain ⟨l', hl', hall⟩ := exists_mapM_eq_ok (f := f) (R := fun a b => b = g a)
    (fun a ha => ⟨g a, h a ha, rfl⟩)
  have hsame : List.Forall₂ (· = ·) (l.map g) l' :=
    List.forall₂_map_left_iff.mpr (hall.imp (fun _ _ => Eq.symm))
  rw [hl', (List.forall₂_eq_eq_eq ▸ hsame : l.map g = l')]

/-- **The selection never fails**: it is the oldest others of each group. -/
theorem selectForMark_eq (h : WellFormedCatalog records) :
    selectForMark policy records = .ok ((versionKeys records).map (fun v =>
      (oldestOthers policy (retainedGroup records v)).map (·.buildId))).flatten := by
  have hgroups : (versionKeys records).mapM (fun v => selectGroup policy (retainedGroup records v))
      = .ok ((versionKeys records).map (fun v =>
        (oldestOthers policy (retainedGroup records v)).map (·.buildId))) :=
    mapM_eq_ok_map (fun v _ => selectGroup_eq h sublist_retainedGroup
      (fun r hr => (mem_retainedGroup.mp hr).2.1))
  show ((versionKeys records).mapM (fun v => selectGroup policy (retainedGroup records v))
    >>= fun selected => pure selected.flatten) = _
  rw [hgroups]
  rfl

/-- **A record is selected** where it is among the oldest others of its group. -/
theorem mem_selectForMark {ids : List String} (h : WellFormedCatalog records)
    (hids : selectForMark policy records = .ok ids) (hr : r ∈ records) :
    r.buildId ∈ ids ↔ r ∈ oldestOthers policy (retainedGroup records (versions r)) := by
  rw [selectForMark_eq h] at hids
  obtain rfl := Except.ok.inj hids
  simp only [List.mem_flatten, List.mem_map, exists_exists_and_eq_and]
  constructor
  · rintro ⟨v, -, r', hr', hid⟩
    have hgroup := mem_retainedGroup.mp (mem_of_mem_oldestOthers hr').1
    obtain rfl := h.eq_of_buildId hgroup.1 hr hid
    rw [hgroup.2.2]
    exact hr'
  · intro hold
    exact ⟨versions r, mem_versionKeys (mem_of_mem_oldestOthers hold).1, r, hold, rfl⟩

/-- Where no group has too many builds, none is selected. -/
theorem selectForMark_eq_nil
    (h : ∀ v, (retainedGroup records v).length ≤ policy.retainSuccessfulBuilds) :
    selectForMark policy records = .ok [] := by
  have hgroups : (versionKeys records).mapM (fun v => selectGroup policy (retainedGroup records v))
      = .ok ((versionKeys records).map (fun _ => [])) :=
    mapM_eq_ok_map (fun v _ => if_pos (Nat.sub_eq_zero_of_le (h v)))
  show ((versionKeys records).mapM (fun v => selectGroup policy (retainedGroup records v))
    >>= fun selected => pure selected.flatten) = _
  rw [hgroups]
  show Except.ok ((versionKeys records).map (fun _ => ([] : List String))).flatten = _
  rw [List.flatten_eq_nil_iff.mpr (fun l hl => by
    obtain ⟨_, -, rfl⟩ := List.mem_map.mp hl
    rfl)]

/-! ## The catalog with the marks -/

/-- A record that is marked. -/
def tombstone (markedAt : PyDatetime) (r : GoldCatalogRecord) : GoldCatalogRecord :=
  { r with
    current := false
    dataPath := none
    buildManifestPath := none
    plotPath := none
    prunedAtUtc := some markedAt }

/-- A record, marked if it is selected. -/
def markSelectedRecord (ids : List String) (markedAt : PyDatetime) (r : GoldCatalogRecord) :
    GoldCatalogRecord :=
  if r.buildId ∈ ids then tombstone markedAt r else r

theorem markSelectedRecord_buildId (ids : List String) (markedAt : PyDatetime) :
    (markSelectedRecord ids markedAt r).buildId = r.buildId := by
  unfold markSelectedRecord
  split_ifs <;> rfl

/-- **Marking never fails**: what is selected counts for retention and is not current. -/
theorem markRecord_eq {ids : List String} (h : WellFormedCatalog records)
    (hids : selectForMark policy records = .ok ids) (markedAt : PyDatetime) :
    records.mapM (fun r => if r.buildId ∈ ids then markRecord r markedAt else .ok r)
      = .ok (records.map (markSelectedRecord ids markedAt)) := by
  refine mapM_eq_ok_map (fun r hr => ?_)
  unfold markSelectedRecord
  split_ifs with hid
  · obtain ⟨hgroup, hcurrent⟩ := mem_of_mem_oldestOthers ((mem_selectForMark h hids hr).mp hid)
    have hretained := (mem_retainedGroup.mp hgroup).2.1
    simp only [isRetained, Bool.and_eq_true, beq_iff_eq, Option.isNone_iff_eq_none] at hretained
    unfold markRecord
    rw [check, check, check, check, if_pos hretained.1.1, if_pos hcurrent, if_pos hretained.1.2,
      if_pos hretained.2]
    rfl
  · rfl

/-- A marked build does not count any more. -/
theorem isRetained_tombstone (markedAt : PyDatetime) : isRetained (tombstone markedAt r) = false := by
  simp [isRetained, tombstone]

/-- The builds of a group after the marking: those that are not selected. -/
theorem retainedGroup_marked (ids : List String) (markedAt : PyDatetime) :
    retainedGroup (records.map (markSelectedRecord ids markedAt)) v
      = (retainedGroup records v).filter (fun r => decide (r.buildId ∉ ids)) := by
  have hcount : ∀ r, (isRetained (markSelectedRecord ids markedAt r)
      && (versions (markSelectedRecord ids markedAt r) == v))
      = ((isRetained r && (versions r == v)) && decide (r.buildId ∉ ids)) := by
    intro r
    unfold markSelectedRecord
    by_cases hid : r.buildId ∈ ids
    · rw [if_pos hid, isRetained_tombstone, decide_eq_false (not_not.mpr hid), Bool.and_false,
        Bool.false_and]
    · rw [if_neg hid, decide_eq_true hid, Bool.and_true]
  unfold retainedGroup
  rw [List.filter_filter, List.filter_map, List.filter_filter, List.filter_filter]
  have hkeep : ∀ r ∈ records.filter ((fun r => (versions r == v) && isRetained r)
      ∘ markSelectedRecord ids markedAt), markSelectedRecord ids markedAt r = r := by
    intro r hr
    have hr := (List.mem_filter.mp hr).2
    rw [Function.comp_apply, Bool.and_comm, hcount, Bool.and_eq_true, decide_eq_true_iff] at hr
    exact if_neg hr.2
  rw [List.map_congr_left hkeep, List.map_id']
  refine List.filter_congr (fun r _ => ?_)
  rw [Function.comp_apply, Bool.and_comm, hcount]
  ac_rfl

/-- **The right number is left.** -/
theorem length_retainedGroup_marked {ids : List String} (h : WellFormedCatalog records)
    (hids : selectForMark policy records = .ok ids) :
    ((retainedGroup records v).filter (fun r => decide (r.buildId ∉ ids))).length
      = min (retainedGroup records v).length policy.retainSuccessfulBuilds := by
  have hnodup : records.Nodup := List.Nodup.of_map _ h.nodup_ids
  have hgroup : (retainedGroup records v).Nodup := hnodup.sublist sublist_retainedGroup
  have hmarked : ((retainedGroup records v).filter (fun r => decide (r.buildId ∈ ids))).Perm
      (oldestOthers policy (retainedGroup records v)) := by
    refine (List.perm_ext_iff_of_nodup (hgroup.filter _) ?_).mpr (fun r => ?_)
    · refine List.Nodup.sublist (List.take_sublist _ _) ?_
      exact (perm_sortRecords _).nodup_iff.mpr (hgroup.filter _)
    · rw [List.mem_filter, decide_eq_true_iff]
      constructor
      · rintro ⟨hr, hid⟩
        obtain ⟨hmem, -, rfl⟩ := mem_retainedGroup.mp hr
        exact (mem_selectForMark h hids hmem).mp hid
      · intro hr
        have hmem := (mem_of_mem_oldestOthers hr).1
        obtain ⟨hrecord, -, rfl⟩ := mem_retainedGroup.mp hmem
        exact ⟨hmem, (mem_selectForMark h hids hrecord).mpr hr⟩
  have hlength : ((retainedGroup records v).filter (fun r => decide (r.buildId ∈ ids))).length
      = excessOf policy (retainedGroup records v) :=
    hmarked.length_eq.trans (length_oldestOthers h sublist_retainedGroup)
  have hsum := List.length_eq_length_filter_add (l := retainedGroup records v)
    (fun r => decide (r.buildId ∈ ids))
  have hnot : (retainedGroup records v).filter (fun r => !decide (r.buildId ∈ ids))
      = (retainedGroup records v).filter (fun r => decide (r.buildId ∉ ids)) :=
    List.filter_congr (fun r _ => by rw [decide_not])
  rw [hnot, hlength] at hsum
  unfold excessOf at hsum
  omega

/-- **What is marked is older** than the others that are left. -/
theorem completionKey_lt {ids : List String} (h : WellFormedCatalog records)
    (hids : selectForMark policy records = .ok ids) (hr : r ∈ retainedGroup records v)
    (hleft : r.buildId ∉ ids) (hcurrent : r.current = false) (hr' : r' ∈ retainedGroup records v)
    (hmarked : r'.buildId ∈ ids) : completionKey r' < completionKey r := by
  obtain ⟨hmem, -, rfl⟩ := mem_retainedGroup.mp hr
  obtain ⟨hmem', -, hversion⟩ := mem_retainedGroup.mp hr'
  have hold := (mem_selectForMark h hids hmem').mp hmarked
  rw [hversion] at hold
  have hnew : r ∉ oldestOthers policy (retainedGroup records (versions r)) :=
    fun hin => hleft ((mem_selectForMark h hids hmem).mpr hin)
  have hsorted := pairwise_sortRecords
    ((retainedGroup records (versions r)).filter (fun r => !r.current))
  have hin : r ∈ sortRecords (·.completedAtUtc)
      ((retainedGroup records (versions r)).filter (fun r => !r.current)) :=
    (perm_sortRecords _).mem_iff.mpr (List.mem_filter.mpr ⟨hr, by rw [hcurrent]; rfl⟩)
  rw [← List.take_append_drop (excessOf policy (retainedGroup records (versions r)))
    (sortRecords (·.completedAtUtc) _)] at hsorted hin
  have hdrop := (List.mem_append.mp hin).resolve_left hnew
  refine lt_of_le_of_ne ((List.pairwise_append.mp hsorted).2.2 r' hold r hdrop) (fun heq => ?_)
  -- the ids are distinct, so the keys are
  have hid : r'.buildId = r.buildId := congrArg (fun k => (ofLex k).2) heq
  exact hleft (hid ▸ hmarked)

/-- The catalog after the marking, in the order of the file. -/
def IsMarkedCatalog (ids : List String) (before after : List GoldCatalogRecord) : Prop :=
  ∃ markedAt, after.Perm (before.map (markSelectedRecord ids markedAt))

theorem isMarkedCatalog_nil (records : List GoldCatalogRecord) :
    IsMarkedCatalog [] records records := by
  have hid : markSelectedRecord [] (.utc 0) = id := funext (fun _ => if_neg List.not_mem_nil)
  exact ⟨.utc 0, by rw [hid, List.map_id]⟩

section Marked

variable {ids : List String} (h : WellFormedCatalog records)
  (hids : selectForMark policy records = .ok ids) (hafter : IsMarkedCatalog ids records after)

include h hafter in
/-- The builds of a group that can be selected after the marking. -/
theorem perm_selectableBuilds_marked : (selectableBuilds after v).Perm
    ((retainedGroup records v).filter (fun r => decide (r.buildId ∉ ids))) := by
  obtain ⟨markedAt, hperm⟩ := hafter
  have hsame : ∀ r ∈ records.map (markSelectedRecord ids markedAt),
      isRetained r = r.selectableComplete := by
    intro marked hmarked
    obtain ⟨r, hr, rfl⟩ := List.mem_map.mp hmarked
    unfold markSelectedRecord
    split_ifs
    · rw [isRetained_tombstone]
      simp [GoldCatalogRecord.selectableComplete, tombstone]
    · exact isRetained_eq_selectable (h.records_wellFormed r hr)
  rw [← retainedGroup_marked ids markedAt, retainedGroup_eq_selectableBuilds hsame]
  exact hperm.filter _

include h hafter in
theorem mem_selectableBuilds_marked : r ∈ selectableBuilds after v
    ↔ r ∈ retainedGroup records v ∧ r.buildId ∉ ids := by
  rw [(perm_selectableBuilds_marked h hafter).mem_iff, List.mem_filter, decide_eq_true_iff]

include h hids hafter in
/-- After the marking no group has too many builds. -/
theorem length_selectableBuilds_marked : (selectableBuilds after v).length
    = min (retainedGroup records v).length policy.retainSuccessfulBuilds :=
  (perm_selectableBuilds_marked h hafter).length_eq.trans (length_retainedGroup_marked h hids)

include h hids hafter in
/-- **The marked catalog keeps the newest builds.** -/
theorem keepsNewest : KeepsNewest policy.retainSuccessfulBuilds ids records after := by
  have hgroup : ∀ v, retainedGroup records v = selectableBuilds records v := fun v =>
    retainedGroup_eq_selectableBuilds
      (fun r hr => isRetained_eq_selectable (h.records_wellFormed r hr))
  have hmem : ∀ {r v}, r ∈ selectableBuilds after v
      ↔ r ∈ selectableBuilds records v ∧ r.buildId ∉ ids := fun {r v} => by
    rw [mem_selectableBuilds_marked h hafter, hgroup]
  have hselected : ∀ r ∈ records, r.buildId ∈ ids →
      r.current = false ∧ isRetained r = true := fun r hr hid => by
    obtain ⟨hin, hcurrent⟩ := mem_of_mem_oldestOthers ((mem_selectForMark h hids hr).mp hid)
    exact ⟨hcurrent, (mem_retainedGroup.mp hin).2.1⟩
  refine ⟨fun v => ?_, fun v r hr => (hmem.mp hr).1, fun v r hr hcurrent => ?_,
    fun v r hr hcurrent r' hr' hgone => ?_, fun r hr hid => ?_, fun r hr hid => ?_, ?_⟩
  · rw [length_selectableBuilds_marked h hids hafter, hgroup]
  · refine hmem.mpr ⟨hr, fun hid => ?_⟩
    have hnot := (hselected r (List.mem_filter.mp hr).1 hid).1
    rw [hcurrent] at hnot
    cases hnot
  · obtain ⟨hin, hleft⟩ := hmem.mp hr
    have hmarked : r'.buildId ∈ ids := by
      by_contra hid
      exact hgone (hmem.mpr ⟨hr', hid⟩)
    exact completionKey_lt h hids (hgroup v ▸ hin) hleft hcurrent (hgroup v ▸ hr') hmarked
  · obtain ⟨hcurrent, hretained⟩ := hselected r hr hid
    obtain ⟨markedAt, hperm⟩ := hafter
    refine ⟨hcurrent, isRetained_eq_selectable (h.records_wellFormed r hr) ▸ hretained,
      tombstone markedAt r, hperm.mem_iff.mpr (List.mem_map.mpr ⟨r, hr, if_pos hid⟩), rfl, ?_⟩
    simp only [isRetained, Bool.and_eq_true, beq_iff_eq] at hretained
    simp [isMarked, tombstone, hretained.1.1]
  · obtain ⟨markedAt, hperm⟩ := hafter
    exact hperm.mem_iff.mpr (List.mem_map.mpr ⟨r, hr, if_neg hid⟩)
  · obtain ⟨markedAt, hperm⟩ := hafter
    have hsame : (records.map (markSelectedRecord ids markedAt)).map (·.buildId)
        = records.map (·.buildId) := by
      rw [List.map_map]
      exact List.map_congr_left (fun r _ => markSelectedRecord_buildId ids markedAt)
    exact hsame ▸ hperm.map _

end Marked

/-! ## The run -/

/-- Two sessions with one catalog. -/
def SameCatalog (s s' : GoldSession) : Prop := s'.lake.catalog = s.lake.catalog

instance : Std.Refl SameCatalog := ⟨fun _ => rfl⟩

instance : IsTrans GoldSession SameCatalog := ⟨fun _ _ _ h h' => Eq.trans h' h⟩

theorem moves_sweep_sameCatalog (buildId : String) : Moves SameCatalog (sweep buildId) := by
  have hfile : ∀ artifact, Moves SameCatalog (sweepFile buildId artifact) := fun artifact =>
    moves_bind (moves_signal _) (fun _ => moves_bind (moves_write (fun s => by
      split
      · exact (onlyBuild_setFile buildId artifact none s).catalog_eq
      · exact rfl)) (fun _ => moves_signal _))
  unfold sweep
  refine moves_bind (fun s => wp_update (show SameCatalog s _ from rfl)) (fun _ => ?_)
  refine moves_bind (moves_goldBuildRoot _) (fun _ => ?_)
  refine moves_bind (hfile _) (fun _ => moves_bind (hfile _) (fun _ => ?_))
  refine moves_bind (hfile _) (fun _ => moves_bind (moves_signal _) (fun _ => ?_))
  refine moves_bind (moves_query _) (fun present => moves_bind ?_ (fun _ => moves_signal _))
  exact moves_onlyIf ((moves_removeBuildDirectory buildId).mono (fun _ _ h => h.catalog_eq))

theorem moves_refreshViews_sameCatalog (formats : GoldFormats) (records : List GoldCatalogRecord) :
    Moves SameCatalog (refreshViews formats records) :=
  (moves_refreshViews formats records).mono (fun _ _ h => h.catalog_eq)

/-- The catalog in the course of a retention run: as it was, or with the marks. -/
def MarksAtMost (ids : List String) (s s' : GoldSession) : Prop :=
  SameCatalog s s' ∨ ids ≠ [] ∧ IsMarkedCatalog ids s.lake.records s'.lake.records

theorem MarksAtMost.congr {ids : List String} {s s' s'' : GoldSession}
    (h : MarksAtMost ids s s') (hsame : SameCatalog s' s'') : MarksAtMost ids s s'' := by
  refine h.imp (fun h => hsame.trans h) (fun h => ⟨h.1, ?_⟩)
  rw [show s''.lake.records = s'.lake.records from congrArg (·.getD []) hsame]
  exact h.2

variable {formats : GoldFormats} {s : GoldSession} {ids : List String} {clock : PyDatetime}

theorem wp_markSelected_catalog (h : WellFormedCatalog s.lake.records)
    (hids : selectForMark policy s.lake.records = .ok ids) :
    wp (markSelected formats s.lake.records ids clock) (Post.keeping (MarksAtMost ids s)
      (fun _ s' => IsMarkedCatalog ids s.lake.records s'.lake.records)) s := by
  have hstart : MarksAtMost ids s s := .inl rfl
  unfold markSelected
  split_ifs with hempty
  · obtain rfl := List.isEmpty_iff.mp hempty
    exact wp_pure_keeping hstart (isMarkedCatalog_nil _)
  · have hsome : ids ≠ [] := fun hnil => hempty (List.isEmpty_iff.mpr hnil)
    refine wp_bind_ofExcept hstart (fun markedAt _ => ?_)
    refine wp_bind_ofExcept hstart (fun marked hmarked => ?_)
    obtain rfl := Except.ok.inj ((markRecord_eq h hids markedAt).symm.trans hmarked)
    unfold replaceCatalog
    -- the rename is the only step that changes the catalog
    refine wp_bind_keeping (P := fun _ s' => ids ≠ [] ∧ IsMarkedCatalog ids s.lake.records
      s'.lake.records) (wp_bind_ofExcept hstart (fun rows hrows => ?_)) ?_
    · have hwritten : IsMarkedCatalog ids s.lake.records (setCatalog .marked rows s).lake.records :=
        ⟨markedAt, catalogFrame_perm hrows⟩
      exact wp_write_keeping hstart (.inr ⟨hsome, hwritten⟩) ⟨hsome, hwritten⟩
    · rintro _ s₁ h₁ hwritten
      have hkeep : ∀ s₂, SameCatalog s₁ s₂ → MarksAtMost ids s s₂ := fun _ => h₁.congr
      refine wp_bind_keeping ((moves_refreshViews_sameCatalog formats _).keeping hkeep
        (fun _ s₂ hsame => hsame)) (fun _ s₂ h₂ hsame => wp_pure_keeping h₂ ?_)
      rw [show s₂.lake.records = s₁.lake.records from congrArg (·.getD []) hsame]
      exact hwritten.2

/-- **A retention run marks what it selects**, and nothing else of it changes the
catalog. -/
theorem wp_retain_catalog (formats : GoldFormats) (clock : PyDatetime)
    (hids : selectForMark policy s.lake.records = .ok ids) :
    wp (retain formats policy clock) (Post.keeping (MarksAtMost ids s) (fun result s' =>
      result.markedBuildIds = ids ∧ IsMarkedCatalog ids s.lake.records s'.lake.records)) s := by
  have hstart : MarksAtMost ids s s := .inl rfl
  unfold retain
  refine wp_bind_query hstart (fun onDisk hread => ?_)
  obtain ⟨heq, h⟩ := readCatalog_eq_ok hread
  have honDisk : onDisk = s.lake.records := heq
  rw [honDisk] at h ⊢
  rw [hids]
  refine wp_bind_ofExcept hstart (fun markIds hmarkIds => ?_)
  obtain rfl := Except.ok.inj hmarkIds
  refine wp_bind_keeping (wp_markSelected_catalog h hids) ?_
  intro records s₁ h₁ hmarked
  dsimp only
  generalize sortRecords (·.prunedAtUtc) (records.filter isMarked) = marked
  have hkeep : ∀ s₂, SameCatalog s₁ s₂ → MarksAtMost ids s s₂ := fun _ => h₁.congr
  refine wp_bind_keeping (P := fun _ s₂ => SameCatalog s₁ s₂)
    ((moves_onlyIf (moves_refreshViews_sameCatalog formats records)).keeping
      hkeep (fun _ s₂ hsame => hsame)) (fun _ s₂ h₂ hsame => ?_)
  have hkeep' : ∀ s₃, SameCatalog s₂ s₃ → MarksAtMost ids s s₃ := fun _ => h₂.congr
  have hsweeps : Moves SameCatalog (forEach marked (fun r => sweep r.buildId)) := by
    refine moves_forEach (fun r => ?_) marked
    exact moves_sweep_sameCatalog r.buildId
  refine wp_bind_keeping (P := fun _ s₃ => SameCatalog s₂ s₃)
    (hsweeps.keeping hkeep' (fun _ s₃ hsame' => hsame')) (fun _ s₃ h₃ hsame₃ => ?_)
  refine wp_pure_keeping h₃ ⟨rfl, ?_⟩
  rw [show s₃.lake.records = s₁.lake.records from congrArg (·.getD []) (hsame₃.trans hsame)]
  exact hmarked

/-- **A second run marks nothing**, and leaves the catalog as it is however it ends. -/
theorem wp_retain_again {s' : GoldSession} (formats : GoldFormats) (clock : PyDatetime)
    (h : WellFormedCatalog s.lake.records)
    (hids : selectForMark policy s.lake.records = .ok ids)
    (hafter : IsMarkedCatalog ids s.lake.records s'.lake.records) :
    wp (retain formats policy clock) (Post.keeping (SameCatalog s') (fun again _ =>
      again.markedBuildIds = [])) s' := by
  have hnone : selectForMark policy s'.lake.records = .ok [] := by
    refine selectForMark_eq_nil (fun v => ?_)
    obtain ⟨markedAt, hperm⟩ := hafter
    have hlength : (retainedGroup s'.lake.records v).length
        = (retainedGroup (s.lake.records.map (markSelectedRecord ids markedAt)) v).length :=
      ((hperm.filter _).filter _).length_eq
    rw [hlength, retainedGroup_marked, length_retainedGroup_marked h hids]
    exact min_le_right _ _
  have hsame : ∀ s'', MarksAtMost [] s' s'' → SameCatalog s' s'' :=
    fun s'' hmarks => hmarks.resolve_right (fun hne => hne.1 rfl)
  exact wp_mono (wp_retain_catalog formats clock hnone)
    (fun _ s'' hend => ⟨hsame s'' hend.1, hend.2.1⟩) (fun _ s'' => hsame s'') hsame

end GoldProgram

/-- **Retention keeps exactly the right builds.** On a valid catalog neither the
selection nor the marking can raise. A run that returns leaves of each pair of versions
as many builds as there are or as are to be retained, the current one and the newest
others, and a run after it marks nothing; and wherever a run ends, the catalog is the
one that it found or the one that it would leave. -/
theorem goldRetention_keepsNewest (formats : GoldFormats) (policy : GoldProgram.RetentionPolicy)
    (clock : PyDatetime) (s : GoldSession) (hvalid : WellFormedCatalog s.lake.records) :
    ∃ ids, GoldProgram.selectForMark policy s.lake.records = .ok ids
      ∧ (∀ markedAt, ∃ marked, s.lake.records.mapM (fun r =>
          if r.buildId ∈ ids then GoldProgram.markRecord r markedAt else .ok r) = .ok marked)
      ∧ wp (GoldProgram.retain formats policy clock)
        ⟨fun result s' => result.markedBuildIds = ids
            ∧ KeepsNewest policy.retainSuccessfulBuilds ids s.lake.records s'.lake.records
            ∧ ∀ clock', wp (GoldProgram.retain formats policy clock')
              (Post.keeping (GoldProgram.SameCatalog s')
                (fun again _ => again.markedBuildIds = [])) s',
          fun _ s' => GoldProgram.SameCatalog s s'
            ∨ KeepsNewest policy.retainSuccessfulBuilds ids s.lake.records s'.lake.records,
          fun s' => GoldProgram.SameCatalog s s'
            ∨ KeepsNewest policy.retainSuccessfulBuilds ids s.lake.records s'.lake.records⟩ s := by
  have hids : GoldProgram.selectForMark policy s.lake.records = .ok _ :=
    GoldProgram.selectForMark_eq hvalid
  refine ⟨_, hids, fun markedAt => ⟨_, GoldProgram.markRecord_eq hvalid hids markedAt⟩, ?_⟩
  have hcut : ∀ s', GoldProgram.MarksAtMost _ s s' → GoldProgram.SameCatalog s s'
      ∨ KeepsNewest policy.retainSuccessfulBuilds _ s.lake.records s'.lake.records :=
    fun _ hmarks => hmarks.imp id (fun h => GoldProgram.keepsNewest hvalid hids h.2)
  exact wp_mono (GoldProgram.wp_retain_catalog formats clock hids)
    (fun _ s' hend => ⟨hend.2.1, GoldProgram.keepsNewest hvalid hids hend.2.2,
      fun clock' => GoldProgram.wp_retain_again formats clock' hvalid hids hend.2.2⟩)
    (fun _ s' => hcut s') hcut

/-- The record of a build that was completed after the current one. -/
def sampleOther (buildId : String) (second : ℤ) : GoldCatalogRecord :=
  { sampleBuild with
    buildId := buildId
    current := false
    startedAtUtc := .utc (second * 1000000)
    completedAtUtc := some (.utc (second * 1000000)) }

/-- A session with three builds of one pair of versions, of which the oldest is current. -/
def sampleGroupSession : GoldSession where
  lake :=
    { catalog := some [sampleBuild, sampleOther "19700101T000020Z" 20,
        sampleOther "19700101T000030Z" 30]
      builds := fun _ => some (fun _ => some pngSignature)
      rootJson := none
      rootProfile := none }
  events := []

theorem wellFormed_sampleGroup : WellFormedCatalog sampleGroupSession.lake.records :=
  (catalogFrame_eq_ok.mp (show catalogFrame [sampleBuild, sampleOther "19700101T000020Z" 20,
      sampleOther "19700101T000030Z" 30] = .ok [sampleBuild, sampleOther "19700101T000020Z" 20,
      sampleOther "19700101T000030Z" 30] from by rfl)).1

/-- Of the three builds two are left, the current one among them. -/
theorem goldRetention_keepsNewest_sample :
    wp (GoldProgram.retain sampleFormats ⟨2, by decide⟩ (.utc 50000000))
      ⟨fun _ s' => (selectableBuilds s'.lake.records (11, 6)).length = 2
          ∧ sampleBuild ∈ selectableBuilds s'.lake.records (11, 6),
        fun _ _ => True, fun _ => True⟩ sampleGroupSession := by
  obtain ⟨ids, -, -, hrun⟩ := goldRetention_keepsNewest sampleFormats ⟨2, by decide⟩
    (.utc 50000000) sampleGroupSession wellFormed_sampleGroup
  refine wp_mono hrun (fun _ s' hend => ?_) (fun _ _ _ => trivial) (fun _ _ => trivial)
  obtain ⟨-, hkeeps, -⟩ := hend
  refine ⟨(hkeeps.count (11, 6)).trans (by decide), ?_⟩
  exact hkeeps.current (11, 6) sampleBuild (by decide) rfl
