import MacroLoader.KeyedTable

/-!
# Rows that carry their own key

A data frame is a list of rows, and the key of a row is computed from the row
itself. Nothing keeps two rows from having the same key, so a list of rows is a
table only where its keys are distinct. There, the table forgets the order of
the list and nothing else (`mem_table`), and a list in key order is recovered
from it (`eq_of_table_eq`): that is how a frame that has been split, stored and
put together again is shown to be the frame it was.

The upsert of one table into another is the operation that merges are measured
against.
-/

variable {ρ κ : Type} [LinearOrder κ]

namespace KeyedRows

variable {keyOf : ρ → κ} {rows rows' : List ρ}

/-- The table of some rows under their keys. -/
def table (keyOf : ρ → κ) (rows : List ρ) : KeyedTable κ ρ :=
  KeyedTable.ofRows (rows.map (fun r => (keyOf r, r)))

omit [LinearOrder κ] in
theorem map_fst_pairs (keyOf : ρ → κ) (rows : List ρ) :
    (rows.map (fun r => (keyOf r, r))).map Prod.fst = rows.map keyOf := by
  rw [List.map_map]
  rfl

/-- Where keys are distinct, the rows of a key are one row. -/
theorem filter_keyOf_eq (h : (rows.map keyOf).Nodup) {r : ρ} (hr : r ∈ rows) :
    rows.filter (fun row => decide (keyOf row = keyOf r)) = [r] := by
  have hnodup := List.Nodup.of_map _ h
  refine List.perm_singleton.mp ((List.perm_ext_iff_of_nodup (hnodup.filter _)
    (List.nodup_singleton _)).mpr (fun row => ?_))
  rw [List.mem_filter, List.mem_singleton, decide_eq_true_iff]
  constructor
  · rintro ⟨hrow, hkey⟩
    exact List.inj_on_of_nodup_map h hrow hr hkey
  · rintro rfl
    exact ⟨hr, rfl⟩

theorem lookupRows_pairs (h : (rows.map keyOf).Nodup) {k : κ} {r : ρ} :
    KeyedTable.lookupRows (rows.map (fun r => (keyOf r, r))) k = some r
      ↔ r ∈ rows ∧ keyOf r = k := by
  constructor
  · intro hr
    obtain ⟨r', hr', heq⟩ := List.mem_map.mp (KeyedTable.mem_of_lookupRows hr)
    cases heq
    exact ⟨hr', rfl⟩
  · rintro ⟨hr, rfl⟩
    induction rows with
    | nil => cases hr
    | cons first rest ih =>
      rw [List.map_cons, List.nodup_cons] at h
      rw [List.map_cons, KeyedTable.lookupRows]
      rcases List.mem_cons.mp hr with rfl | hr
      · rw [if_pos rfl]
      · rw [if_neg (fun heq => h.1 (List.mem_map.mpr ⟨r, hr, heq.symm⟩)), ih h.2 hr]

/-- **What the table of some rows holds.** -/
theorem mem_table (h : (rows.map keyOf).Nodup) {k : κ} {r : ρ} :
    (table keyOf rows).get? k = some r ↔ r ∈ rows ∧ keyOf r = k := by
  have hnodup : ((rows.map (fun r => (keyOf r, r))).map Prod.fst).Nodup := by
    rwa [map_fst_pairs]
  rw [table, KeyedTable.get?_ofRows hnodup, lookupRows_pairs h]

theorem get?_table_eq_none (h : (rows.map keyOf).Nodup) {k : κ} :
    (table keyOf rows).get? k = none ↔ ∀ r ∈ rows, keyOf r ≠ k := by
  constructor
  · intro hnone r hr hk
    rw [(mem_table h).mpr ⟨hr, hk⟩] at hnone
    cases hnone
  · intro hall
    cases hrow : (table keyOf rows).get? k with
    | none => rfl
    | some r =>
      obtain ⟨hr, hk⟩ := (mem_table h).mp hrow
      exact absurd hk (hall r hr)

/-- The order of the rows does not matter to their table. -/
theorem table_congr (h : (rows.map keyOf).Nodup) (h' : (rows'.map keyOf).Nodup)
    (hmem : ∀ r, r ∈ rows ↔ r ∈ rows') : table keyOf rows = table keyOf rows' := by
  ext k r
  rw [mem_table h, mem_table h', hmem]

/-! ## Rows in key order -/

/-- The rows in the order of their keys. -/
def sortRows (keyOf : ρ → κ) (rows : List ρ) : List ρ :=
  rows.insertionSort (fun a b => keyOf a ≤ keyOf b)

/-- Rows whose keys increase. -/
def Sorted (keyOf : ρ → κ) (rows : List ρ) : Prop := rows.Pairwise (fun a b => keyOf a < keyOf b)

theorem perm_sortRows (keyOf : ρ → κ) (rows : List ρ) : (sortRows keyOf rows).Perm rows :=
  List.perm_insertionSort _ _

@[simp] theorem mem_sortRows {r : ρ} : r ∈ sortRows keyOf rows ↔ r ∈ rows :=
  (perm_sortRows keyOf rows).mem_iff

theorem nodup_sortRows (h : (rows.map keyOf).Nodup) :
    ((sortRows keyOf rows).map keyOf).Nodup :=
  ((perm_sortRows keyOf rows).map keyOf).nodup_iff.mpr h

theorem Sorted.nodup (h : Sorted keyOf rows) : (rows.map keyOf).Nodup :=
  List.pairwise_map.mpr (h.imp (fun hlt => ne_of_lt hlt))

theorem Sorted.filter (h : Sorted keyOf rows) (p : ρ → Bool) : Sorted keyOf (rows.filter p) :=
  List.Pairwise.filter p h

/-- Distinct keys that do not decrease increase. -/
theorem sorted_sortRows (h : (rows.map keyOf).Nodup) : Sorted keyOf (sortRows keyOf rows) := by
  have : Std.Total (fun a b : ρ => keyOf a ≤ keyOf b) := ⟨fun a b => le_total _ _⟩
  have : IsTrans ρ (fun a b : ρ => keyOf a ≤ keyOf b) := ⟨fun _ _ _ hab hbc => hab.trans hbc⟩
  have hle : (sortRows keyOf rows).Pairwise (fun a b => keyOf a ≤ keyOf b) :=
    List.pairwise_insertionSort _ _
  have hne : (sortRows keyOf rows).Pairwise (fun a b => keyOf a ≠ keyOf b) :=
    List.pairwise_map.mp (nodup_sortRows h)
  exact (hle.and hne).imp (fun hab => lt_of_le_of_ne hab.1 hab.2)

/-- **Rows in key order are determined by their table.** -/
theorem eq_of_table_eq (h : Sorted keyOf rows) (h' : Sorted keyOf rows')
    (htable : table keyOf rows = table keyOf rows') : rows = rows' := by
  have hmem : ∀ r, r ∈ rows ↔ r ∈ rows' := fun r => by
    have hrow := mem_table h.nodup (k := keyOf r) (r := r)
    rw [htable, mem_table h'.nodup] at hrow
    exact ⟨fun hr => (hrow.mpr ⟨hr, rfl⟩).1, fun hr => (hrow.mp ⟨hr, rfl⟩).1⟩
  have hperm : rows.Perm rows' :=
    (List.perm_ext_iff_of_nodup (List.Nodup.of_map _ h.nodup)
      (List.Nodup.of_map _ h'.nodup)).mpr hmem
  exact hperm.eq_of_pairwise (fun a b _ _ hab hba => absurd (hab.trans hba) (lt_irrefl _)) h h'

/-- Rows in key order that have the same keys go together one by one. -/
theorem forall₂_of_sorted {R : ρ → ρ → Prop} (h : Sorted keyOf rows) (h' : Sorted keyOf rows')
    (hkeys : ∀ r ∈ rows, ∃ r' ∈ rows', keyOf r' = keyOf r)
    (hrows : ∀ r' ∈ rows', ∃ r ∈ rows, keyOf r = keyOf r' ∧ R r r') :
    List.Forall₂ (fun r r' => keyOf r = keyOf r' ∧ R r r') rows rows' := by
  induction rows generalizing rows' with
  | nil =>
    obtain rfl : rows' = [] := List.eq_nil_iff_forall_not_mem.mpr (fun r' hr' => by
      obtain ⟨r, hr, -⟩ := hrows r' hr'
      cases hr)
    exact .nil
  | cons r rest ih =>
    obtain ⟨first, hfirst, hkey⟩ := hkeys r List.mem_cons_self
    cases rows' with
    | nil => cases hfirst
    | cons r' rest' =>
      obtain ⟨hlt, hrest⟩ := List.pairwise_cons.mp h
      obtain ⟨hlt', hrest'⟩ := List.pairwise_cons.mp h'
      obtain ⟨match_, hmatch, hkey', hR⟩ := hrows r' List.mem_cons_self
      -- both heads have the least key there is
      have hle : keyOf r' ≤ keyOf r := by
        rcases List.mem_cons.mp hfirst with rfl | hmem
        · exact hkey.le
        · exact hkey ▸ (hlt' first hmem).le
      have hhead : match_ = r := by
        rcases List.mem_cons.mp hmatch with rfl | hmem
        · rfl
        · exact absurd (hkey' ▸ hlt match_ hmem) (not_lt.mpr hle)
      subst hhead
      refine .cons ⟨hkey', hR⟩ (ih hrest hrest' (fun a ha => ?_) (fun b hb => ?_))
      · obtain ⟨b, hb, hab⟩ := hkeys a (List.mem_cons_of_mem _ ha)
        rcases List.mem_cons.mp hb with rfl | hb
        · exact absurd (hkey'.trans hab) (ne_of_lt (hlt a ha))
        · exact ⟨b, hb, hab⟩
      · obtain ⟨a, ha, hab, hR'⟩ := hrows b (List.mem_cons_of_mem _ hb)
        rcases List.mem_cons.mp ha with rfl | ha
        · exact absurd (hkey'.symm.trans hab) (ne_of_lt (hlt' b hb))
        · exact ⟨a, ha, hab, hR'⟩

end KeyedRows

/-! ## Upserts -/

namespace KeyedTable

variable {K V : Type} [LinearOrder K]

/-- What an upsert keeps of an old and a new row of one key, where `same` says
whether the new one counts as the old one. -/
def upsertRow (same : V → V → Bool) : Option V → Option V → Option V
  | old, none => old
  | none, some new => some new
  | some old, some new => some (if same new old then old else new)

/-- **Upsert**: every new row goes in, in the place of the old row of its key,
unless it counts as the same as that one; every other old row stays. -/
def upsert (same : V → V → Bool) (old new : KeyedTable K V) : KeyedTable K V :=
  (old.fullJoin new).filterMap (fun _ r => upsertRow same r.1 r.2)

@[simp] theorem get?_upsert (same : V → V → Bool) (old new : KeyedTable K V) (k : K) :
    (old.upsert same new).get? k = upsertRow same (old.get? k) (new.get? k) := by
  rw [upsert, get?_filterMap, get?_fullJoin]
  cases old.get? k <;> cases new.get? k <;> rfl

end KeyedTable
