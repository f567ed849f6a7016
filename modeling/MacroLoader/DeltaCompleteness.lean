import MacroLoader.RowRoundTrip

/-!
# What a delta brings about

The planner is given the stored digests as a list, in the order in which they
were read, and makes a map of it; the frame too has its rows in the order of its
file. Neither order matters, because what the plan is made of are two maps from
timestamps to digests, one of each side. Writing the plan turns the one into the
other, and touches the keys at which they differ and no others, so there is
nothing left to plan afterwards.
-/

/-- `GoldRowDigest`. -/
abbrev GoldRowDigest := Timestamp × Sha256Hex

/-- A step of `_target_digest_map`. -/
def addDigest (result : KeyedTable Timestamp Sha256Hex) (digest : GoldRowDigest) :
    Except PyError (KeyedTable Timestamp Sha256Hex) :=
  if (result.get? digest.1).isSome then
    .error (.valueError "PostgreSQL digest state contains duplicate timestamp_m1")
  else .ok (result.insert digest.1 digest.2)

/-- `_target_digest_map`. -/
def targetDigestMap (targetDigests : List GoldRowDigest) :
    Except PyError (KeyedTable Timestamp Sha256Hex) :=
  targetDigests.foldlM addDigest .empty

/-- **A list of digests without duplicates has a map.** -/
theorem targetDigestMap_of_nodup {digests : List GoldRowDigest}
    (h : (digests.map Prod.fst).Nodup) : targetDigestMap digests = .ok (.ofRows digests) := by
  suffices hfold : ∀ (l : List GoldRowDigest) (result : KeyedTable Timestamp Sha256Hex),
      (l.map Prod.fst).Nodup → (∀ digest ∈ l, result.get? digest.1 = none) →
      l.foldlM addDigest result = .ok (l.foldl (fun t r => t.insert r.1 r.2) result) from
    hfold digests .empty h (fun _ _ => rfl)
  intro l
  induction l with
  | nil => exact fun _ _ _ => rfl
  | cons digest rest ih =>
    intro result hnodup hnew
    rw [List.map_cons, List.nodup_cons] at hnodup
    have hfirst : addDigest result digest = .ok (result.insert digest.1 digest.2) :=
      if_neg (by rw [hnew digest List.mem_cons_self]; exact Bool.false_ne_true)
    rw [List.foldlM_cons, hfirst, List.foldl_cons]
    refine ih _ hnodup.2 (fun digest' hmem => ?_)
    have hne : digest'.1 ≠ digest.1 := fun heq => hnodup.1 (heq ▸ List.mem_map_of_mem hmem)
    rw [KeyedTable.get?_insert, if_neg hne]
    exact hnew digest' (List.mem_cons_of_mem _ hmem)

section Planning

variable (sha256 : Bytes → Sha256Hex)

/-- `plan_gold_delta`, given the stored digests as they were read. -/
def planFromDigests (frame : GoldFrame) (targetDigests : List GoldRowDigest)
    (syncState : Option GoldSyncState) : Except PyError GoldDeltaPlan := do
  let _ ← sourceRowsAndDigests sha256 frame
  let target ← targetDigestMap targetDigests
  planGoldDelta sha256 frame target syncState

end Planning

/-- **A source frame** as `plan_gold_delta` is to be given one: its timestamps are
unique date-times and its cells null or finite. -/
structure IsSourceFrame (frame : GoldFrame) : Prop where
  timestamps : ∀ r ∈ frame.rows, ∃ t, r.1 = some t ∧ datetimeMin ≤ t ∧ t ≤ datetimeMax
  unique : frame.timestamps.Nodup
  finite : ∀ r ∈ frame.rows, IsFiniteRow r.2

section Source

variable {sha256 : Bytes → Sha256Hex} {frame : GoldFrame}

/-- The rows of a frame, each under its timestamp. -/
theorem map_fst_rows (frame : GoldFrame) :
    (frame.rows.filterMap (fun r => r.1.map (fun t => (t, r.2)))).map Prod.fst
      = frame.timestamps := by
  rw [GoldFrame.timestamps, List.map_filterMap]
  congr 1
  funext r
  rw [Option.map_map]
  exact Option.map_id'

theorem IsSourceFrame.sourceTable_eq (h : IsSourceFrame frame) :
    sourceTable frame
      = .ok (.ofRows (frame.rows.filterMap (fun r => r.1.map (fun t => (t, r.2))))) := by
  have hnull : frame.rows.any (fun r => r.1.isNone) = false :=
    List.any_eq_false.mpr (fun r hr => by
      obtain ⟨t, ht, -⟩ := h.timestamps r hr
      rw [ht]
      exact Bool.false_ne_true)
  have hunique := h.unique
  rw [← map_fst_rows] at hunique
  unfold sourceTable
  simp only [hnull, Bool.false_eq_true, if_false, hunique, not_true_eq_false]

theorem IsSourceFrame.perm {frame' : GoldFrame} (h : IsSourceFrame frame)
    (hperm : frame.rows.Perm frame'.rows) : IsSourceFrame frame' where
  timestamps r hr := h.timestamps r (hperm.mem_iff.mpr hr)
  unique := (hperm.filterMap Prod.fst).nodup_iff.mp h.unique
  finite r hr := h.finite r (hperm.mem_iff.mpr hr)

/-- The order of the rows of a source frame does not matter. -/
theorem IsSourceFrame.sourceRowsAndDigests_perm {frame' : GoldFrame} (h : IsSourceFrame frame)
    (hperm : frame.rows.Perm frame'.rows) :
    sourceRowsAndDigests sha256 frame' = sourceRowsAndDigests sha256 frame := by
  have hunique := h.unique
  rw [← map_fst_rows] at hunique
  rw [sourceRowsAndDigests, sourceRowsAndDigests, h.sourceTable_eq, (h.perm hperm).sourceTable_eq,
    KeyedTable.ofRows_perm hunique (hperm.filterMap _)]

theorem IsSourceFrame.sourceRow_isOk (h : IsSourceFrame frame) {t : Timestamp}
    {row : WideRow Float64} (hrow : (some t, row) ∈ frame.rows) :
    ∃ r, sourceRow sha256 t row = .ok r := by
  obtain ⟨t', ht', hrange⟩ := h.timestamps _ hrow
  cases ht'
  have hload : loadDatetime t = .ok t := if_pos hrange
  obtain ⟨values, hvalues⟩ := canonicalRow_isOk (h.finite _ hrow)
  obtain ⟨digest, hdigest⟩ := goldRowSha256_isOk sha256 hload
    (fun c => ⟨_, canonicalRow_eq_ok_iff.mp (canonicalRow_idem hvalues) c⟩)
  exact ⟨(values, digest), bind_eq_ok.mpr ⟨t, hload, bind_eq_ok.mpr ⟨values, hvalues,
    bind_eq_ok.mpr ⟨digest, hdigest, rfl⟩⟩⟩⟩

/-- **The source rows of a source frame** are its rows, each in canonical form and
with its digest. -/
theorem IsSourceFrame.exists_source (h : IsSourceFrame frame) :
    ∃ source, sourceRowsAndDigests sha256 frame = .ok source
      ∧ ∀ t r, source.get? t = some r
        ↔ ∃ row, (some t, row) ∈ frame.rows ∧ sourceRow sha256 t row = .ok r := by
  have hunique := h.unique
  rw [← map_fst_rows] at hunique
  have htable : ∀ t row, (KeyedTable.ofRows
      (frame.rows.filterMap (fun r => r.1.map (fun t => (t, r.2))))).get? t = some row
        ↔ (some t, row) ∈ frame.rows := by
    intro t row
    rw [KeyedTable.get?_ofRows_eq_some_iff hunique, List.mem_filterMap]
    constructor
    · rintro ⟨⟨t', row'⟩, hmem, heq⟩
      obtain ⟨t'', rfl, heq⟩ := Option.map_eq_some_iff.mp heq
      cases heq
      exact hmem
    · exact fun hmem => ⟨(some t, row), hmem, rfl⟩
  obtain ⟨source, hsource⟩ := KeyedTable.traverse_isOk (f := sourceRow sha256)
    (fun t row hget => h.sourceRow_isOk ((htable t row).mp hget))
  refine ⟨source, bind_eq_ok.mpr ⟨_, h.sourceTable_eq, hsource⟩, fun t r => ?_⟩
  have hkey := KeyedTable.traverse_eq_ok_iff.mp hsource t
  constructor
  · intro hr
    rw [hr, Option.map_some] at hkey
    obtain ⟨row, hrow, hok⟩ := Option.map_eq_some_iff.mp hkey
    exact ⟨row, (htable t row).mp hrow, hok⟩
  · rintro ⟨row, hrow, hok⟩
    rw [(htable t row).mpr hrow, Option.map_some, hok] at hkey
    obtain ⟨r', hr', heq⟩ := Option.map_eq_some_iff.mp hkey.symm
    rw [hr', Except.ok.inj heq]

end Source

/-! ## Writing a plan -/

/-- **The digest map after a plan**: the source digests of the rows written, and
none for the rows deleted. -/
def GoldDeltaPlan.applyDigests (plan : GoldDeltaPlan) (target : KeyedTable Timestamp Sha256Hex) :
    KeyedTable Timestamp Sha256Hex :=
  (target.setAll plan.sourceDigests.get? (plan.mutations.map Prod.fst)).setAll (fun _ => none)
    plan.deletes

/-- The keys of a plan, group by group. -/
def GoldDeltaPlan.keys (plan : GoldDeltaPlan) : List Timestamp :=
  plan.inserts.map Prod.fst ++ (plan.updates.map Prod.fst ++ (plan.deletes ++ plan.unchanged))

section Plan

variable {source : KeyedTable Timestamp (WideRow Float64 × Sha256Hex)}
  {target : KeyedTable Timestamp Sha256Hex}

/-- The digest of a source row. -/
theorem get?_sourceDigests (t : Timestamp) :
    (deltaPlan source target).sourceDigests.get? t = (source.get? t).map Prod.snd :=
  KeyedTable.get?_map source Prod.snd t

/-- **The keys that are written** are those under which the source has another
digest than the target, or the only one. -/
theorem mem_keys_mutations {t : Timestamp} :
    t ∈ (deltaPlan source target).mutations.map Prod.fst
      ↔ ∃ r, source.get? t = some r ∧ target.get? t ≠ some r.2 := by
  rw [GoldDeltaPlan.mutations, List.map_append, List.mem_append]
  show t ∈ (rowsOfKind .insert source target).map Prod.fst
    ∨ t ∈ (rowsOfKind .update source target).map Prod.fst ↔ _
  rw [mem_keys_rowsOfKind_iff, mem_keys_rowsOfKind_iff]
  constructor
  · rintro (⟨row, d, hsource, hkind⟩ | ⟨row, d, hsource, hkind⟩) <;>
      refine ⟨(row, d), hsource, fun heq => ?_⟩ <;> rw [heq] at hkind <;> simp [deltaKind] at hkind
  · rintro ⟨⟨row, d⟩, hsource, hne⟩
    cases htarget : target.get? t with
    | none => exact .inl ⟨row, d, hsource, rfl⟩
    | some d' =>
      rw [htarget] at hne
      exact .inr ⟨row, d, hsource, if_pos (fun heq => hne (congrArg some heq))⟩

theorem mem_unchanged {t : Timestamp} :
    t ∈ (deltaPlan source target).unchanged
      ↔ ∃ r, source.get? t = some r ∧ target.get? t = some r.2 := by
  show t ∈ (rowsOfKind .unchanged source target).map Prod.fst ↔ _
  rw [mem_keys_rowsOfKind_iff]
  constructor
  · rintro ⟨row, d, hsource, hkind⟩
    cases htarget : target.get? t with
    | none => rw [htarget] at hkind; cases hkind
    | some d' =>
      rw [htarget, deltaKind] at hkind
      split_ifs at hkind with heq
      exact ⟨(row, d), hsource, congrArg some (not_not.mp heq)⟩
  · rintro ⟨⟨row, d⟩, hsource, htarget⟩
    exact ⟨row, d, hsource, by rw [htarget, deltaKind, if_neg (fun h => h rfl)]⟩

theorem nodup_keys_rowsOfKind (kind : DeltaKind) :
    ((rowsOfKind kind source target).map Prod.fst).Nodup := by
  have hkeys : (rowsOfKind kind source target).map Prod.fst
      = (source.rows.filter (fun r => deltaKind (target.get? r.1) r.2.2 = kind)).map Prod.fst := by
    rw [rowsOfKind, List.map_map]
    rfl
  rw [hkeys]
  exact source.keys_nodup.sublist (List.filter_sublist.map Prod.fst)

/-- **Every key of either side is in one group of the plan**, and in one place of it. -/
theorem nodup_keys_deltaPlan : (deltaPlan source target).keys.Nodup := by
  have hdisjoint : ∀ {l l' : List Timestamp}, Disjoint l.toFinset l'.toFinset → l.Disjoint l' :=
    fun h => List.disjoint_toFinset_iff_disjoint.mp h
  have hiu := hdisjoint (disjoint_rowsOfKind source target
    (show DeltaKind.insert ≠ .update by decide))
  have hin := hdisjoint (disjoint_rowsOfKind source target
    (show DeltaKind.insert ≠ .unchanged by decide))
  have hun := hdisjoint (disjoint_rowsOfKind source target
    (show DeltaKind.update ≠ .unchanged by decide))
  have hid := hdisjoint (disjoint_deletedKeys source target .insert)
  have hud := hdisjoint (disjoint_deletedKeys source target .update)
  have hnd := hdisjoint (disjoint_deletedKeys source target .unchanged)
  have hdeleted : (deltaPlan source target).deletes.Nodup := target.keys_nodup.filter _
  refine List.Nodup.append (nodup_keys_rowsOfKind .insert)
    (List.Nodup.append (nodup_keys_rowsOfKind .update)
      (List.Nodup.append hdeleted (nodup_keys_rowsOfKind .unchanged) hnd.symm) ?_) ?_
  · exact List.disjoint_append_right.mpr ⟨hud, hun⟩
  · exact List.disjoint_append_right.mpr ⟨hiu, List.disjoint_append_right.mpr ⟨hid, hin⟩⟩

theorem mem_keys_deltaPlan {t : Timestamp} :
    t ∈ (deltaPlan source target).keys
      ↔ (source.get? t).isSome ∨ (target.get? t).isSome := by
  have hsplit : t ∈ (deltaPlan source target).keys
      ↔ t ∈ (deltaPlan source target).mutations.map Prod.fst
        ∨ t ∈ (deltaPlan source target).deletes ∨ t ∈ (deltaPlan source target).unchanged := by
    simp only [GoldDeltaPlan.keys, GoldDeltaPlan.mutations, List.map_append, List.mem_append,
      or_assoc]
  rw [hsplit, mem_keys_mutations, mem_unchanged]
  show _ ∨ t ∈ deletedKeys source target ∨ _ ↔ _
  rw [mem_deletedKeys_iff]
  cases hsource : source.get? t with
  | none => simp
  | some r =>
    by_cases htarget : target.get? t = some r.2
    · simp [htarget]
    · simp [htarget]

/-- **Writing a plan turns the stored digests into the source digests.** -/
theorem applyDigests_deltaPlan :
    (deltaPlan source target).applyDigests target = (deltaPlan source target).sourceDigests := by
  ext t : 1
  rw [GoldDeltaPlan.applyDigests, KeyedTable.get?_setAll, KeyedTable.get?_setAll]
  have hdelete : t ∈ (deltaPlan source target).deletes
      ↔ (target.get? t).isSome ∧ source.get? t = none := mem_deletedKeys_iff
  simp only [hdelete, mem_keys_mutations, get?_sourceDigests]
  cases hsource : source.get? t with
  | none => cases target.get? t <;> simp
  | some r =>
    by_cases htarget : target.get? t = some r.2
    · simp [htarget]
    · simp [htarget]

/-- **Where both sides are the same, there is nothing to do.** -/
theorem isEmpty_deltaPlan_of_agrees (h : ∀ t, target.get? t = (source.get? t).map Prod.snd) :
    (deltaPlan source target).isEmpty = true := by
  have hmutations : (deltaPlan source target).mutations.map Prod.fst = [] :=
    List.eq_nil_iff_forall_not_mem.mpr (fun t ht => by
      obtain ⟨r, hr, hne⟩ := mem_keys_mutations.mp ht
      exact hne (by rw [h, hr, Option.map_some]))
  have hdeletes : (deltaPlan source target).deletes = [] :=
    List.eq_nil_iff_forall_not_mem.mpr (fun t ht => by
      obtain ⟨hsome, hnone⟩ := mem_deletedKeys_iff.mp ht
      rw [h, hnone] at hsome
      cases hsome)
  obtain ⟨hins, hupd⟩ := List.append_eq_nil_iff.mp (List.map_eq_nil_iff.mp hmutations)
  rw [GoldDeltaPlan.isEmpty, hins, hupd, hdeletes]
  rfl

end Plan

/-! ## The plan for a frame -/

section Frame

variable {sha256 : Bytes → Sha256Hex} {frame : GoldFrame} {digests : List GoldRowDigest}
  {state : Option GoldSyncState}
  {source : KeyedTable Timestamp (WideRow Float64 × Sha256Hex)}

/-- **A source frame and a list of digests without duplicates have a plan**: the one
for the two maps. -/
theorem planFromDigests_eq (hsource : sourceRowsAndDigests sha256 frame = .ok source)
    (hnodup : (digests.map Prod.fst).Nodup) (hstate : state = none → digests = []) :
    planFromDigests sha256 frame digests state = .ok (deltaPlan source (.ofRows digests)) := by
  refine bind_eq_ok.mpr ⟨source, hsource, bind_eq_ok.mpr
    ⟨.ofRows digests, targetDigestMap_of_nodup hnodup, planGoldDelta_eq_ok_iff.mpr
      ⟨source, hsource, fun hnone => ?_, rfl⟩⟩⟩
  rw [hstate hnone]
  rfl

/-- **`plan_gold_delta` is complete and minimal.** For a source frame and stored
digests without duplicates, none if there is no prior state, there is a plan; its
groups are disjoint and cover the keys of both sides; its rows and digests are
those of the frame; writing it turns the stored digests into the source digests;
no key with equal digests is touched; planning again finds nothing to do; and
neither the order of the rows nor that of the digests matters. -/
theorem planGoldDelta_complete (sha256 : Bytes → Sha256Hex) (frame : GoldFrame)
    (digests : List GoldRowDigest) (state : Option GoldSyncState) (hframe : IsSourceFrame frame)
    (hnodup : (digests.map Prod.fst).Nodup) (hstate : state = none → digests = []) :
    ∃ plan, planFromDigests sha256 frame digests state = .ok plan
      ∧ plan.keys.Nodup
      ∧ (∀ t, t ∈ plan.keys ↔ t ∈ frame.timestamps ∨ t ∈ digests.map Prod.fst)
      ∧ (∀ t d, plan.sourceDigests.get? t = some d
        ↔ ∃ row values, (some t, row) ∈ frame.rows ∧ sourceRow sha256 t row = .ok (values, d))
      ∧ (∀ r ∈ plan.mutations, ∃ row d, (some r.1, row) ∈ frame.rows
        ∧ sourceRow sha256 r.1 row = .ok (r.2, d))
      ∧ plan.applyDigests (.ofRows digests) = plan.sourceDigests
      ∧ (∀ t d, (t, d) ∈ digests → plan.sourceDigests.get? t = some d →
        t ∉ plan.mutations.map Prod.fst ∧ t ∉ plan.deletes)
      ∧ (∀ state', (state' = none → (plan.applyDigests (.ofRows digests)).rows = []) →
        ∃ plan', planFromDigests sha256 frame (plan.applyDigests (.ofRows digests)).rows state'
          = .ok plan' ∧ plan'.isEmpty = true)
      ∧ ∀ (frame' : GoldFrame) (digests' : List GoldRowDigest), frame.rows.Perm frame'.rows →
        digests.Perm digests' → planFromDigests sha256 frame' digests' state = .ok plan := by
  obtain ⟨source, hsource, hrows⟩ : ∃ source, sourceRowsAndDigests sha256 frame = .ok source
      ∧ ∀ t r, source.get? t = some r
        ↔ ∃ row, (some t, row) ∈ frame.rows ∧ sourceRow sha256 t row = .ok r :=
    hframe.exists_source
  have htarget : ∀ t d, (KeyedTable.ofRows digests).get? t = some d ↔ (t, d) ∈ digests :=
    fun t d => KeyedTable.get?_ofRows_eq_some_iff hnodup
  have hsourceKeys : ∀ t, (source.get? t).isSome ↔ t ∈ frame.timestamps := by
    intro t
    rw [Option.isSome_iff_exists, GoldFrame.timestamps, List.mem_filterMap]
    constructor
    · rintro ⟨r, hr⟩
      obtain ⟨row, hrow, -⟩ := (hrows t r).mp hr
      exact ⟨(some t, row), hrow, rfl⟩
    · rintro ⟨⟨_, row⟩, hrow, rfl⟩
      obtain ⟨r, hr⟩ : ∃ r, sourceRow sha256 t row = .ok r := hframe.sourceRow_isOk hrow
      exact ⟨r, (hrows t r).mpr ⟨row, hrow, hr⟩⟩
  have htargetKeys : ∀ t, ((KeyedTable.ofRows digests).get? t).isSome
      ↔ t ∈ digests.map Prod.fst := by
    intro t
    rw [← KeyedTable.mem_keys_iff, KeyedTable.mem_keys_ofRows hnodup]
  have hdigest : ∀ t d, (deltaPlan source (.ofRows digests)).sourceDigests.get? t = some d
      ↔ ∃ values, source.get? t = some (values, d) := by
    intro t d
    rw [get?_sourceDigests, Option.map_eq_some_iff]
    exact ⟨fun ⟨r, hr, hd⟩ => ⟨r.1, by rw [hr, ← hd]⟩, fun ⟨values, hr⟩ => ⟨_, hr, rfl⟩⟩
  refine ⟨deltaPlan source (.ofRows digests), planFromDigests_eq hsource hnodup hstate,
    nodup_keys_deltaPlan, fun t => ?_, fun t d => ?_, fun r hr => ?_, applyDigests_deltaPlan,
    fun t d hmem hd => ⟨fun hkey => ?_, fun hkey => ?_⟩, fun state' hstate' => ?_,
    fun frame' digests' hframe' hdigests' => ?_⟩
  · rw [mem_keys_deltaPlan, hsourceKeys, htargetKeys]
  · rw [hdigest]
    constructor
    · rintro ⟨values, hr⟩
      obtain ⟨row, hrow⟩ := (hrows t _).mp hr
      exact ⟨row, values, hrow⟩
    · rintro ⟨row, values, hrow⟩
      exact ⟨values, (hrows t _).mpr ⟨row, hrow⟩⟩
  · have hget : ∃ d, source.get? r.1 = some (r.2, d) := by
      rcases List.mem_append.mp hr with hr | hr <;>
        exact (mem_rowsOfKind_iff.mp hr).imp (fun d h => h.1)
    obtain ⟨d, hget⟩ := hget
    obtain ⟨row, hrow⟩ := (hrows _ _).mp hget
    exact ⟨row, d, hrow⟩
  · obtain ⟨r, hr, hne⟩ := mem_keys_mutations.mp hkey
    rw [get?_sourceDigests, hr] at hd
    exact hne (((htarget t d).mpr hmem).trans hd.symm)
  · rw [get?_sourceDigests, (mem_deletedKeys_iff.mp hkey).2] at hd
    cases hd
  · -- the stored digests are now those of the source
    rw [applyDigests_deltaPlan] at hstate' ⊢
    refine ⟨_, planFromDigests_eq hsource (KeyedTable.keys_nodup _) hstate', ?_⟩
    refine isEmpty_deltaPlan_of_agrees (fun t => ?_)
    rw [KeyedTable.ofRows_rows, get?_sourceDigests]
  · have hdigestsNodup : (digests'.map Prod.fst).Nodup :=
      (hdigests'.map Prod.fst).nodup_iff.mp hnodup
    rw [← KeyedTable.ofRows_perm hnodup hdigests']
    refine planFromDigests_eq ((hframe.sourceRowsAndDigests_perm hframe').trans hsource)
      hdigestsNodup (fun hnone => ?_)
    rw [hstate hnone] at hdigests'
    exact hdigests'.nil_eq.symm

end Frame

/-- A digest, for an example. -/
def zeroDigest : Sha256Hex := ⟨String.ofList (List.replicate 64 '0'), by decide⟩

/-- A frame of one row, for an example. -/
def onesFrame : GoldFrame := ⟨[(some 0, fun _ => some Float64.one)]⟩

theorem planGoldDelta_complete_ones :
    ∃ plan, planFromDigests (fun _ => zeroDigest) onesFrame [(1, zeroDigest), (0, zeroDigest)]
        (some ⟨"build", zeroDigest, 1, 1, 0, none, none, 0, le_rfl, by simp, by simp⟩) = .ok plan
      ∧ plan.keys.Nodup
      ∧ (∀ t, t ∈ plan.keys ↔ t ∈ onesFrame.timestamps ∨ t ∈ [1, 0])
      ∧ plan.applyDigests (.ofRows [(1, zeroDigest), (0, zeroDigest)]) = plan.sourceDigests := by
  obtain ⟨plan, hplan, hkeys, hcover, -, -, happly, -⟩ := planGoldDelta_complete
    (fun _ => zeroDigest) onesFrame [(1, zeroDigest), (0, zeroDigest)]
    (some ⟨"build", zeroDigest, 1, 1, 0, none, none, 0, le_rfl, by simp, by simp⟩)
    { timestamps := fun r hr => ⟨0, by rw [List.mem_singleton.mp hr], by decide, by decide⟩
      unique := by decide
      finite := fun r hr => by
        rw [List.mem_singleton.mp hr]
        rintro c x ⟨⟩
        decide }
    (by decide) (by rintro ⟨⟩)
  exact ⟨plan, hplan, hkeys, hcover, happly⟩
