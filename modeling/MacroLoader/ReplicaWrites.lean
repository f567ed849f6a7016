import MacroLoader.Replica

/-!
# What the writes of a delta do

The writes of a delta touch one row each, in five loops. What they amount to
is stated against the contents the replica is to end with: a row or a digest
that is not pending already has its final value, and the writes that remain
make the pending ones final (`Written`). Every loop is then one induction that
strikes out of the pending set what its body writes.
-/

open Transaction Program

/-- The contents a replica is to end with: the rows of every table, and the digest
index. -/
structure FinalContents where
  row : (s : Series) → Timestamp → Option (RawRow Float64 s.nativeShape)
  digest : Timestamp → Option String

/-- **Outside the pending rows `K` and the pending digests `J`, the replica has its
final contents**; the synchronization states are those of `base`, and so far
only allowed statements have been executed. -/
structure Written (final : FinalContents) (base : Replica) (allowed : Statement → Prop)
    (K : Set (Series × Timestamp)) (J : Set Timestamp) (s : Session) : Prop where
  rows : ∀ series t, (series, t) ∉ K → (s.replica.raw series).get? t = final.row series t
  index : ∀ t, t ∉ J → (s.replica.rowHashes postgresDatasetId).get? t = final.digest t
  state : s.replica.syncState = base.syncState
  log : ∀ statement ∈ s.statements, allowed statement

variable {final : FinalContents} {base : Replica} {allowed : Statement → Prop}
  {K K' : Set (Series × Timestamp)} {J J' : Set Timestamp} {s : Session}

/-- Writing the final value of a row makes the row final. -/
theorem Written.setRow (h : Written final base allowed K J s) {series : Series} {t : Timestamp}
    {row : Option (RawRow Float64 series.nativeShape)} {statement : Statement}
    (hrow : row = final.row series t) (hallowed : allowed statement)
    (hK : ∀ p ∈ K, p = (series, t) ∨ p ∈ K') :
    Written final base allowed K' J
      ⟨s.replica.setRow series t row, s.statements ++ [statement]⟩ where
  rows series' t' hp := by
    by_cases hs : series' = series
    · subst hs
      simp only [Replica.setRow, Function.update_self, KeyedTable.get?_alter]
      by_cases ht : t' = t
      · subst ht
        simpa using hrow
      · rw [if_neg ht]
        refine h.rows series' t' (fun hmem => ?_)
        exact (hK _ hmem).elim (fun heq => ht (Prod.mk.inj heq).2) hp
    · simp only [Replica.setRow, Function.update_of_ne hs]
      refine h.rows series' t' (fun hmem => ?_)
      exact (hK _ hmem).elim (fun heq => hs (Prod.mk.inj heq).1) hp
  index := h.index
  state := h.state
  log st hst := by
    rcases List.mem_append.mp hst with hst | hst
    · exact h.log st hst
    · rwa [List.mem_singleton.mp hst]

/-- Writing the final value of a digest makes the digest final. -/
theorem Written.setDigest (h : Written final base allowed K J s) {t : Timestamp}
    {digest : Option String} {statement : Statement} (hdigest : digest = final.digest t)
    (hallowed : allowed statement) (hJ : ∀ t' ∈ J, t' = t ∨ t' ∈ J') :
    Written final base allowed K J'
      ⟨s.replica.setDigest postgresDatasetId t digest, s.statements ++ [statement]⟩ where
  rows := h.rows
  index t' ht' := by
    simp only [Replica.setDigest, Function.update_self, KeyedTable.get?_alter]
    by_cases ht : t' = t
    · subst ht
      simpa using hdigest
    · rw [if_neg ht]
      exact h.index t' (fun hmem => (hJ _ hmem).elim ht ht')
  state := h.state
  log st hst := by
    rcases List.mem_append.mp hst with hst | hst
    · exact h.log st hst
    · rwa [List.mem_singleton.mp hst]

/-! ## A stored row projects to itself -/

/-- The row of a wide row that a table is to store: none if it would be all null. -/
def storedRow (s : Series) (row : WideRow Float64) : Option (RawRow Float64 s.nativeShape) :=
  if (seriesRow s row).allNull then none else some (seriesRow s row)

/-- **A row that Gold assembles**: it has a value, and the level of every OHLC
series is the close of its bar. -/
structure IsGoldRow (row : WideRow Float64) : Prop where
  visible : visible row = true
  level : ∀ s, levelIsClose s row = true

/-- Nothing is lost by not storing an all-null row. -/
theorem level_storedRow (s : Series) (row : WideRow Float64) :
    (storedRow s row).bind RawRow.level = (seriesRow s row).level := by
  unfold storedRow
  split_ifs with hnull
  · exact (RawRow.allNull_iff.mp hnull).1.symm
  · rfl

theorem field_storedRow (s : Series) (row : WideRow Float64) (f : OhlcField) :
    (storedRow s row).bind (fun r => r.field f) = (seriesRow s row).field f := by
  unfold storedRow
  split_ifs with hnull
  · exact ((RawRow.allNull_iff.mp hnull).2 f).symm
  · rfl

/-- Canonical doubles that compare equal are the same double. -/
theorem eq_of_nullableEq {a b : Option Float64} (ha : canonicalCell a = .ok a)
    (hb : canonicalCell b = .ok b) (h : nullableEq a b = true) : a = b := by
  have hzero : ∀ x : Float64, canonicalCell (some x) = .ok (some x) → x.isZero = true →
      x = Float64.zero := by
    intro x hx hz
    cases hc : canonicalFloat x with
    | error e => rw [canonicalCell, hc] at hx; cases hx
    | ok y =>
      rw [canonicalCell, hc] at hx
      obtain rfl : y = x := Option.some.inj (Except.ok.inj hx)
      exact (canonicalFloat_eq_ok hc).2.trans (if_pos hz)
  cases a with
  | none => cases b with
    | none => rfl
    | some y => cases h
  | some x => cases b with
    | none => cases h
    | some y =>
      simp only [nullableEq, Float64.numEq, Bool.and_eq_true, Bool.or_eq_true, beq_iff_eq] at h
      rcases h.2 with heq | ⟨hx, hy⟩
      · rw [heq]
      · rw [hzero x ha hx, hzero y hb hy]

/-- The table of a series stores the level of a canonical Gold row. -/
theorem level_seriesRow {row : WideRow Float64} (hcanonical : canonicalRow row = .ok row)
    {s : Series} (hlevel : levelIsClose s row = true) :
    (seriesRow s row).level = row (.level s) := by
  rw [canonicalRow_eq_ok_iff] at hcanonical
  rw [seriesRow, RawRow.level_ofCells]
  split_ifs with hshape
  · have hclose : barCell s .close row = row (.bar s hshape .close) := dif_pos hshape
    rw [levelIsClose, hshape, bne_self_eq_false, Bool.false_or, hclose] at hlevel
    exact hclose.trans (eq_of_nullableEq (hcanonical _) (hcanonical _) hlevel).symm
  · rfl

theorem field_seriesRow {row : WideRow Float64} {s : Series} (hshape : s.nativeShape = .ohlc)
    (f : OhlcField) : (seriesRow s row).field f = row (.bar s hshape f) := by
  rw [seriesRow, RawRow.field_ofCells, if_pos hshape]
  exact dif_pos hshape

/-- **The rows stored of a canonical Gold row project to it.** -/
theorem toWide_storedRow {row : WideRow Float64} (hcanonical : canonicalRow row = .ok row)
    (hlevel : ∀ s, levelIsClose s row = true) :
    JoinedRow.toWide (fun s => storedRow s row) = row := by
  funext c
  cases c with
  | level s => exact (level_storedRow s row).trans (level_seriesRow hcanonical (hlevel s))
  | bar s hshape f => exact (field_storedRow s row f).trans (field_seriesRow hshape f)

/-! ## Loops of point writes -/

/-- The rows of every series at the timestamps of a list. -/
def rowsAt (l : List Timestamp) : Set (Series × Timestamp) := { p | p.2 ∈ l }

theorem succeeds_applySeriesRow {row : GoldRowPayload} {series : Series}
    (h : Written final base allowed K J s) (hlevel : levelIsClose series row.2 = true)
    (hfinal : final.row series row.1 = storedRow series row.2)
    (hallowed : ∀ st, st.timestamp = some row.1 → allowed st)
    (hK : ∀ p ∈ K, p = (series, row.1) ∨ p ∈ K') :
    Succeeds (applySeriesRow row series) s (fun _ s' => Written final base allowed K' J s') := by
  refine succeeds_bind (succeeds_require hlevel ?_)
  unfold storedRow at hfinal
  split_ifs with hnull
  · rw [if_pos hnull] at hfinal
    exact succeeds_write (h.setRow hfinal.symm (hallowed _ rfl) hK)
  · rw [if_neg hnull] at hfinal
    exact succeeds_write (h.setRow hfinal.symm (hallowed _ rfl) hK)

/-- **Applying a row** makes the rows of all series at its timestamp final. -/
theorem succeeds_applyFeatureRow {row : GoldRowPayload}
    (h : Written final base allowed K J s) (hlevel : ∀ series, levelIsClose series row.2 = true)
    (hfinal : ∀ series, final.row series row.1 = storedRow series row.2)
    (hallowed : ∀ st, st.timestamp = some row.1 → allowed st)
    (hK : ∀ p ∈ K, p.2 = row.1 ∨ p ∈ K') :
    Succeeds (applyFeatureRow row) s (fun _ s' => Written final base allowed K' J s') := by
  refine succeeds_forEach
    (fun rest s' => Written final base allowed ({ p | p.2 = row.1 ∧ p.1 ∈ rest } ∪ K') J s')
    ?_ (fun series _ rest s' hs' => ?_) (fun s' hs' => by simpa using hs')
  · refine ⟨fun series t hp => h.rows series t (fun hmem => hp ?_), h.index, h.state, h.log⟩
    exact (hK _ hmem).imp (fun ht => ⟨ht, mem_goldSourceSeries _⟩) id
  · refine succeeds_applySeriesRow hs' (hlevel series) (hfinal series) hallowed ?_
    rintro ⟨series', t⟩ (⟨ht, hmem⟩ | hmem)
    · rcases List.mem_cons.mp hmem with hs | hmem
      · exact .inl (Prod.ext hs ht)
      · exact .inr (.inl ⟨ht, hmem⟩)
    · exact .inr (.inr hmem)

theorem succeeds_deleteFeatureTimestamp {t : Timestamp}
    (h : Written final base allowed K J s) (hfinal : ∀ series, final.row series t = none)
    (hallowed : ∀ st, st.timestamp = some t → allowed st) (hK : ∀ p ∈ K, p.2 = t ∨ p ∈ K') :
    Succeeds (deleteFeatureTimestamp t) s
      (fun _ s' => Written final base allowed K' J s') := by
  refine succeeds_forEach
    (fun rest s' => Written final base allowed ({ p | p.2 = t ∧ p.1 ∈ rest } ∪ K') J s')
    ?_ (fun series _ rest s' hs' => ?_) (fun s' hs' => by simpa using hs')
  · refine ⟨fun series t' hp => h.rows series t' (fun hmem => hp ?_), h.index, h.state, h.log⟩
    exact (hK _ hmem).imp (fun ht => ⟨ht, mem_goldSourceSeries _⟩) id
  · refine succeeds_write (hs'.setRow (hfinal series).symm (hallowed _ rfl) ?_)
    rintro ⟨series', t'⟩ (⟨ht, hmem⟩ | hmem)
    · rcases List.mem_cons.mp hmem with hs | hmem
      · exact .inl (Prod.ext hs ht)
      · exact .inr (.inl ⟨ht, hmem⟩)
    · exact .inr (.inr hmem)

/-- A loop over rows that makes the rows at each timestamp final. -/
theorem succeeds_forEach_rows {β : Type} {l : List β} {body : β → Transaction Unit}
    (key : β → Timestamp) (h : Written final base allowed (rowsAt (l.map key) ∪ K) J s)
    (hbody : ∀ b ∈ l, ∀ K₁ K₂ s', Written final base allowed K₁ J s' →
      (∀ p ∈ K₁, p.2 = key b ∨ p ∈ K₂) →
      Succeeds (body b) s' (fun _ s'' => Written final base allowed K₂ J s'')) :
    Succeeds (forEach l body) s (fun _ s' => Written final base allowed K J s') := by
  refine succeeds_forEach
    (fun rest s' => Written final base allowed (rowsAt (rest.map key) ∪ K) J s') h
    (fun b hb rest s' hs' => ?_) (fun s' hs' => by simpa [rowsAt] using hs')
  refine hbody b hb _ _ s' hs' ?_
  rintro p (hmem | hmem)
  · rcases List.mem_cons.mp hmem with hp | hp
    · exact .inl hp
    · exact .inr (.inl hp)
  · exact .inr (.inr hmem)

/-- A loop over digests that makes each of them final. -/
theorem succeeds_forEach_digests {β : Type} {l : List β} {body : β → Transaction Unit}
    (key : β → Timestamp) (h : Written final base allowed K ({ t | t ∈ l.map key } ∪ J) s)
    (hbody : ∀ b ∈ l, ∀ J₁ J₂ s', Written final base allowed K J₁ s' →
      (∀ t ∈ J₁, t = key b ∨ t ∈ J₂) →
      Succeeds (body b) s' (fun _ s'' => Written final base allowed K J₂ s'')) :
    Succeeds (forEach l body) s (fun _ s' => Written final base allowed K J s') := by
  refine succeeds_forEach
    (fun rest s' => Written final base allowed K ({ t | t ∈ rest.map key } ∪ J) s') h
    (fun b hb rest s' hs' => ?_) (fun s' hs' => by simpa using hs')
  refine hbody b hb _ _ s' hs' ?_
  rintro t (hmem | hmem)
  · rcases List.mem_cons.mp hmem with ht | ht
    · exact .inl ht
    · exact .inr (.inl ht)
  · exact .inr (.inr hmem)

/-- What it takes of a plan for its writes to lead to the final contents. -/
structure PlanFits (final : FinalContents) (allowed : Statement → Prop) (plan : GoldDeltaPlan) :
    Prop where
  level : ∀ r ∈ plan.mutations, ∀ series, levelIsClose series r.2 = true
  row : ∀ r ∈ plan.mutations, ∀ series, final.row series r.1 = storedRow series r.2
  digest : ∀ r ∈ plan.mutations, ∃ d, plan.sourceDigests.get? r.1 = some d
    ∧ final.digest r.1 = some d.1
  deleted : ∀ t ∈ plan.deletes, (∀ series, final.row series t = none) ∧ final.digest t = none
  allowed_mutation : ∀ r ∈ plan.mutations, ∀ st, st.timestamp = some r.1 → allowed st
  allowed_delete : ∀ t ∈ plan.deletes, ∀ st, st.timestamp = some t → allowed st
  allowed_refresh : allowed .refreshFeatures

/-- **The writes of a plan lead to the final contents**, if the replica has them
everywhere but at the keys of the plan. -/
theorem succeeds_writeDelta {plan : GoldDeltaPlan} (hfits : PlanFits final allowed plan)
    (h : Written final base allowed
      (rowsAt (plan.mutations.map Prod.fst) ∪ rowsAt plan.deletes)
      ({ t | t ∈ plan.mutations.map Prod.fst } ∪ { t | t ∈ plan.deletes }) s) :
    Succeeds (writeDelta postgresDatasetId plan) s
      (fun _ s' => Written final base allowed ∅ ∅ s') := by
  have hins : ∀ r ∈ plan.inserts, r ∈ plan.mutations := fun r hr => List.mem_append_left _ hr
  have hupd : ∀ r ∈ plan.updates, r ∈ plan.mutations := fun r hr => List.mem_append_right _ hr
  have hsplit : rowsAt (plan.mutations.map Prod.fst) ∪ rowsAt plan.deletes
      = rowsAt (plan.inserts.map Prod.fst)
        ∪ (rowsAt (plan.updates.map Prod.fst) ∪ (rowsAt plan.deletes ∪ ∅)) := by
    ext p
    simp [rowsAt, GoldDeltaPlan.mutations, or_assoc]
  rw [hsplit] at h
  have happly : ∀ r ∈ plan.mutations, ∀ K₁ K₂ J s', Written final base allowed K₁ J s' →
      (∀ p ∈ K₁, p.2 = r.1 ∨ p ∈ K₂) →
      Succeeds (applyFeatureRow r) s' (fun _ s'' => Written final base allowed K₂ J s'') :=
    fun r hr K₁ K₂ J s' hs' hK => succeeds_applyFeatureRow hs' (hfits.level r hr)
      (hfits.row r hr) (hfits.allowed_mutation r hr) hK
  unfold writeDelta
  refine succeeds_bind ((succeeds_forEach_rows Prod.fst h
    (fun r hr K₁ K₂ s' => happly r (hins r hr) K₁ K₂ _ s')).mono (fun _ s₁ h₁ => ?_))
  refine succeeds_bind ((succeeds_forEach_rows Prod.fst h₁
    (fun r hr K₁ K₂ s' => happly r (hupd r hr) K₁ K₂ _ s')).mono (fun _ s₂ h₂ => ?_))
  refine succeeds_bind ((succeeds_forEach_rows (K := ∅) id (by rwa [List.map_id])
    (fun t ht K₁ K₂ s' hs' hK => succeeds_deleteFeatureTimestamp hs' (hfits.deleted t ht).1
      (hfits.allowed_delete t ht) hK)).mono (fun _ s₃ h₃ => ?_))
  refine succeeds_bind ((succeeds_forEach_digests Prod.fst h₃
    (fun r hr J₁ J₂ s' hs' hJ => ?_)).mono (fun _ s₄ h₄ => ?_))
  · obtain ⟨d, hd, hfinal⟩ := hfits.digest r hr
    rw [upsertDigest, hd]
    exact succeeds_write (hs'.setDigest hfinal.symm (hfits.allowed_mutation r hr _ rfl) hJ)
  refine succeeds_bind ((succeeds_forEach_digests (J := ∅) id (by rwa [List.map_id, Set.union_empty])
    (fun t ht J₁ J₂ s' hs' hJ => ?_)).mono (fun _ s₅ h₅ => ?_))
  · exact succeeds_write (hs'.setDigest (hfits.deleted t ht).2.symm
      (hfits.allowed_delete t ht _ rfl) hJ)
  split_ifs
  · exact succeeds_pure h₅
  · refine succeeds_write ⟨h₅.rows, h₅.index, h₅.state, fun st hst => ?_⟩
    rcases List.mem_append.mp hst with hst | hst
    · exact h₅.log st hst
    · exact (List.mem_singleton.mp hst) ▸ hfits.allowed_refresh
