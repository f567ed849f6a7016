import Mathlib

/-!
# Tables addressed by an ordered primary key

A table with a primary key holds at most one row per key, and every query
that reads it in order reads it in key order. Both facts are the same fact
about a list – its keys strictly increase – so that is the representation:
a list of rows together with the proof. A table is then determined by its
lookup function (`ext_get?`), which turns most equalities between tables
into equalities between lookups, key by key.

The operations are those of a relational engine on one key: point writes
(`alter`, and its instances `insert` and `erase`), row-wise selection and
projection (`filterMap`, `map`), restriction to an initial segment of the
keys (`truncate`), and the two joins on the key (`leftJoin`, `fullJoin`).
Each comes with the lemma that says what it looks up.
-/

variable {K V W X : Type} [LinearOrder K]

/-- **A table with an ordered primary key**: its rows in key order, each key
at most once. -/
structure KeyedTable (K V : Type) [LinearOrder K] where
  /-- The rows, in key order. -/
  rows : List (K × V)
  /-- The key strictly increases from row to row. -/
  sorted : rows.Pairwise (fun a b => a.1 < b.1)

namespace KeyedTable

/-- The keys of the rows, in order. -/
def keys (t : KeyedTable K V) : List K := t.rows.map Prod.fst

/-- The row a list of rows holds under a key: the first one, which is the
only one where the keys increase. -/
def lookupRows : List (K × V) → K → Option V
  | [], _ => none
  | r :: rest, k => if r.1 = k then some r.2 else lookupRows rest k

/-- The row stored under a key. -/
def get? (t : KeyedTable K V) (k : K) : Option V := lookupRows t.rows k

@[simp] theorem keys_length (t : KeyedTable K V) : t.keys.length = t.rows.length :=
  List.length_map _

theorem keys_pairwise (t : KeyedTable K V) : t.keys.Pairwise (· < ·) :=
  List.pairwise_map.mpr t.sorted

theorem keys_nodup (t : KeyedTable K V) : t.keys.Nodup :=
  t.keys_pairwise.imp (fun h => ne_of_lt h)

theorem mem_of_lookupRows {l : List (K × V)} {k : K} {v : V}
    (h : lookupRows l k = some v) : (k, v) ∈ l := by
  induction l with
  | nil => cases h
  | cons r rest ih =>
    simp only [lookupRows] at h
    split_ifs at h with hk
    · cases h
      exact hk ▸ List.mem_cons_self
    · exact List.mem_cons_of_mem _ (ih h)

/-- In a list whose keys increase, a row is found under its own key. -/
theorem lookupRows_of_mem {l : List (K × V)} (hl : l.Pairwise (fun a b => a.1 < b.1))
    {k : K} {v : V} (h : (k, v) ∈ l) : lookupRows l k = some v := by
  induction l with
  | nil => cases h
  | cons r l ih =>
    rw [List.pairwise_cons] at hl
    rcases List.mem_cons.mp h with rfl | hmem
    · simp [lookupRows]
    · have hlt : r.1 < k := hl.1 _ hmem
      rw [lookupRows, if_neg (ne_of_lt hlt)]
      exact ih hl.2 hmem

/-- A key that precedes every row is not found. -/
theorem lookupRows_of_lt {l : List (K × V)} {k : K} (hk : ∀ r ∈ l, k < r.1) :
    lookupRows l k = none := by
  cases hg : lookupRows l k with
  | none => rfl
  | some v => exact absurd (hk _ (mem_of_lookupRows hg)) (lt_irrefl k)

/-- **A row is in the table exactly when its key looks it up.** -/
theorem mem_rows_iff {t : KeyedTable K V} {k : K} {v : V} :
    (k, v) ∈ t.rows ↔ t.get? k = some v :=
  ⟨lookupRows_of_mem t.sorted, mem_of_lookupRows⟩

theorem mem_keys_iff {t : KeyedTable K V} {k : K} :
    k ∈ t.keys ↔ (t.get? k).isSome := by
  rw [keys, List.mem_map, Option.isSome_iff_exists]
  constructor
  · rintro ⟨⟨k', v⟩, h, rfl⟩
    exact ⟨v, mem_rows_iff.mp h⟩
  · rintro ⟨v, h⟩
    exact ⟨(k, v), mem_rows_iff.mpr h, rfl⟩

/-! ## The first and the last key -/

@[simp] theorem isSome_head?_keys {t : KeyedTable K V} :
    t.keys.head?.isSome ↔ 0 < t.rows.length := by
  rw [← keys_length]
  cases t.keys <;> simp

@[simp] theorem isSome_getLast?_keys {t : KeyedTable K V} :
    t.keys.getLast?.isSome ↔ 0 < t.rows.length := by
  rw [← keys_length, List.getLast?_isSome, List.length_pos_iff]

/-- The first key is the least of them. -/
theorem head?_keys_le {t : KeyedTable K V} {a k : K} (ha : t.keys.head? = some a)
    (hk : k ∈ t.keys) : a ≤ k := by
  have hsorted := t.keys_pairwise
  cases hkeys : t.keys with
  | nil => rw [hkeys] at hk; cases hk
  | cons b rest =>
    rw [hkeys] at ha hk hsorted
    cases ha
    rcases List.mem_cons.mp hk with rfl | hk
    · exact le_rfl
    · exact le_of_lt ((List.pairwise_cons.mp hsorted).1 k hk)

/-- The last key is the greatest of them. -/
theorem le_getLast?_keys {t : KeyedTable K V} {b k : K} (hb : t.keys.getLast? = some b)
    (hk : k ∈ t.keys) : k ≤ b := by
  have hsorted := t.keys_pairwise
  obtain ⟨init, hinit⟩ := List.getLast?_eq_some_iff.mp hb
  rw [hinit] at hk hsorted
  rcases List.mem_append.mp hk with hk | hk
  · exact le_of_lt ((List.pairwise_append.mp hsorted).2.2 k hk b (List.mem_singleton_self b))
  · exact (List.mem_singleton.mp hk).le

/-- The bounds of a list that has the keys as its members, in any order. -/
theorem min?_eq_head?_keys {t : KeyedTable K V} {l : List K} (h : ∀ k, k ∈ l ↔ k ∈ t.keys) :
    l.min? = t.keys.head? := by
  cases hkeys : t.keys.head? with
  | none =>
    rw [List.head?_eq_none_iff] at hkeys
    exact List.min?_eq_none_iff.mpr (List.eq_nil_iff_forall_not_mem.mpr
      (fun k hk => by rw [h, hkeys] at hk; cases hk))
  | some a =>
    refine List.min?_eq_some_iff.mpr ⟨(h a).mpr (List.mem_of_head? hkeys), fun k hk => ?_⟩
    exact head?_keys_le hkeys ((h k).mp hk)

theorem max?_eq_getLast?_keys {t : KeyedTable K V} {l : List K} (h : ∀ k, k ∈ l ↔ k ∈ t.keys) :
    l.max? = t.keys.getLast? := by
  cases hkeys : t.keys.getLast? with
  | none =>
    rw [List.getLast?_eq_none_iff] at hkeys
    exact List.max?_eq_none_iff.mpr (List.eq_nil_iff_forall_not_mem.mpr
      (fun k hk => by rw [h, hkeys] at hk; cases hk))
  | some b =>
    refine List.max?_eq_some_iff.mpr ⟨(h b).mpr (List.mem_of_getLast? hkeys), fun k hk => ?_⟩
    exact le_getLast?_keys hkeys ((h k).mp hk)

/-- Two lists of rows in key order with the same members are the same list. -/
theorem rows_eq_of_mem_iff {l l' : List (K × V)}
    (hl : l.Pairwise (fun a b => a.1 < b.1)) (hl' : l'.Pairwise (fun a b => a.1 < b.1))
    (h : ∀ r, r ∈ l ↔ r ∈ l') : l = l' := by
  have nodup : ∀ {m : List (K × V)}, m.Pairwise (fun a b => a.1 < b.1) → m.Nodup :=
    fun hm => hm.imp (fun hab heq => absurd (congrArg Prod.fst heq) (ne_of_lt hab))
  refine List.Perm.eq_of_pairwise (fun a b _ _ hab hba => ?_) hl hl'
    ((List.perm_ext_iff_of_nodup (nodup hl) (nodup hl')).mpr h)
  exact absurd (hab.trans hba) (lt_irrefl _)

/-- **A table is its lookup function.** -/
@[ext] theorem ext_get? {a b : KeyedTable K V} (h : ∀ k, a.get? k = b.get? k) : a = b := by
  have hrows : a.rows = b.rows :=
    rows_eq_of_mem_iff a.sorted b.sorted (fun r => by
      rw [show r = (r.1, r.2) from rfl, mem_rows_iff, mem_rows_iff, h])
  cases a
  cases b
  congr

instance [DecidableEq V] : DecidableEq (KeyedTable K V) := fun a b =>
  decidable_of_iff (a.rows = b.rows) ⟨fun h => by cases a; cases b; congr, fun h => by rw [h]⟩

/-! ## Point writes -/

/-- The table with no row. -/
def empty : KeyedTable K V := ⟨[], List.Pairwise.nil⟩

instance : Inhabited (KeyedTable K V) := ⟨empty⟩

@[simp] theorem get?_empty (k : K) : (empty : KeyedTable K V).get? k = none := rfl

/-- The rows after the row of `k` has been rewritten by `f`, which is given
the row if there is one and answers with the row to keep. -/
def alterRows (k : K) (f : Option V → Option V) : List (K × V) → List (K × V)
  | [] => (f none).toList.map (fun v => (k, v))
  | r :: rest =>
    if k < r.1 then (f none).toList.map (fun v => (k, v)) ++ r :: rest
    else if r.1 < k then r :: alterRows k f rest
    else (f (some r.2)).toList.map (fun v => (k, v)) ++ rest

theorem mem_alterRows {k : K} {f : Option V → Option V} {l : List (K × V)} {r : K × V}
    (h : r ∈ alterRows k f l) : r.1 = k ∨ r ∈ l := by
  induction l with
  | nil => simp only [alterRows, List.mem_map] at h; grind
  | cons r' rest ih =>
    simp only [alterRows] at h
    split_ifs at h <;> simp only [List.mem_append, List.mem_cons, List.mem_map] at h ⊢ <;> grind

theorem alterRows_pairwise (k : K) (f : Option V → Option V) {l : List (K × V)}
    (hl : l.Pairwise (fun a b => a.1 < b.1)) :
    (alterRows k f l).Pairwise (fun a b => a.1 < b.1) := by
  induction l with
  | nil =>
    simp only [alterRows]
    cases f none <;> simp
  | cons r rest ih =>
    rw [List.pairwise_cons] at hl
    simp only [alterRows]
    split_ifs with hlt hgt
    · cases f none with
      | none => simpa using hl
      | some v =>
        simp only [Option.toList_some, List.map_cons, List.map_nil, List.cons_append,
          List.nil_append, List.pairwise_cons, List.mem_cons, forall_eq_or_imp]
        exact ⟨⟨hlt, fun b hb => hlt.trans (hl.1 b hb)⟩, hl⟩
    · refine List.pairwise_cons.mpr ⟨fun b hb => ?_, ih hl.2⟩
      rcases mem_alterRows hb with hk | hmem
      · rwa [hk]
      · exact hl.1 b hmem
    · have heq : r.1 = k := le_antisymm (not_lt.mp hlt) (not_lt.mp hgt)
      cases f (some r.2) with
      | none => simpa using hl.2
      | some v => simpa [← heq] using hl

/-- Rewrite the row of one key, leaving every other row alone. -/
def alter (t : KeyedTable K V) (k : K) (f : Option V → Option V) : KeyedTable K V :=
  ⟨alterRows k f t.rows, alterRows_pairwise k f t.sorted⟩

theorem lookupRows_alterRows (k : K) (f : Option V → Option V) {l : List (K × V)}
    (hl : l.Pairwise (fun a b => a.1 < b.1)) (k' : K) :
    lookupRows (alterRows k f l) k' = if k' = k then f (lookupRows l k) else lookupRows l k' := by
  induction l with
  | nil =>
    simp only [alterRows, lookupRows]
    cases f none <;> simp [lookupRows, eq_comm]
  | cons r rest ih =>
    rw [List.pairwise_cons] at hl
    have habs : k < r.1 → lookupRows rest k = none := fun hlt =>
      lookupRows_of_lt (fun b hb => hlt.trans (hl.1 b hb))
    rcases lt_trichotomy k r.1 with hlt | heq | hgt
    · -- the key precedes every row, so it was absent
      have hne : r.1 ≠ k := ne_of_gt hlt
      rw [alterRows, if_pos hlt]
      cases hf : f none <;> by_cases hk : k' = k <;>
        simp [lookupRows, hf, hk, hne, habs hlt, Ne.symm, eq_comm]
    · subst heq
      have hrest : lookupRows rest r.1 = none := lookupRows_of_lt hl.1
      rw [alterRows, if_neg (lt_irrefl _), if_neg (lt_irrefl _)]
      cases hf : f (some r.2) <;> by_cases hk : k' = r.1 <;>
        simp [lookupRows, hf, hk, hrest, eq_comm]
    · have hne : r.1 ≠ k := ne_of_lt hgt
      rw [alterRows, if_neg (not_lt_of_gt hgt), if_pos hgt, lookupRows, lookupRows, lookupRows,
        if_neg hne, ih hl.2]
      by_cases hr : r.1 = k'
      · simp [hr, hr ▸ hne]
      · simp [hr]

/-- **A point write is seen under its own key only.** -/
@[simp] theorem get?_alter (t : KeyedTable K V) (k : K) (f : Option V → Option V) (k' : K) :
    (t.alter k f).get? k' = if k' = k then f (t.get? k) else t.get? k' :=
  lookupRows_alterRows k f t.sorted k'

/-- Insert the row of a key, or replace it. -/
def insert (t : KeyedTable K V) (k : K) (v : V) : KeyedTable K V := t.alter k (fun _ => some v)

/-- Delete the row of a key, if there is one. -/
def erase (t : KeyedTable K V) (k : K) : KeyedTable K V := t.alter k (fun _ => none)

@[simp] theorem get?_insert (t : KeyedTable K V) (k : K) (v : V) (k' : K) :
    (t.insert k v).get? k' = if k' = k then some v else t.get? k' :=
  get?_alter t k _ k'

@[simp] theorem get?_erase (t : KeyedTable K V) (k k' : K) :
    (t.erase k).get? k' = if k' = k then none else t.get? k' :=
  get?_alter t k _ k'

/-- Rewrite the rows of some keys to what a function has under them. -/
def setAll (t : KeyedTable K V) (f : K → Option V) (l : List K) : KeyedTable K V :=
  l.foldl (fun t k => t.alter k (fun _ => f k)) t

@[simp] theorem get?_setAll (t : KeyedTable K V) (f : K → Option V) (l : List K) (k : K) :
    (t.setAll f l).get? k = if k ∈ l then f k else t.get? k := by
  induction l generalizing t with
  | nil => rfl
  | cons a l ih =>
    rw [setAll, List.foldl_cons]
    refine (ih _).trans ?_
    rw [get?_alter]
    by_cases hk : k ∈ l
    · rw [if_pos hk, if_pos (List.mem_cons_of_mem _ hk)]
    · by_cases ha : k = a
      · rw [if_neg hk, if_pos ha, if_pos (ha ▸ List.mem_cons_self), ha]
      · rw [if_neg hk, if_neg ha, if_neg (fun hmem => (List.mem_cons.mp hmem).elim ha hk)]

/-- The table of some rows: sorted by key, a later row of a key replacing an
earlier one. -/
def ofRows (l : List (K × V)) : KeyedTable K V :=
  l.foldl (fun t r => t.insert r.1 r.2) empty

theorem get?_foldl_insert {l : List (K × V)} (hl : (l.map Prod.fst).Nodup)
    (t : KeyedTable K V) (k : K) :
    (l.foldl (fun t r => t.insert r.1 r.2) t).get? k = (lookupRows l k).or (t.get? k) := by
  induction l generalizing t with
  | nil => rfl
  | cons r rest ih =>
    rw [List.map_cons, List.nodup_cons] at hl
    rw [List.foldl_cons, ih hl.2, get?_insert, lookupRows]
    by_cases hk : r.1 = k
    · have habs : lookupRows rest k = none := by
        cases hrow : lookupRows rest k with
        | none => rfl
        | some v =>
          exact absurd (List.mem_map_of_mem (mem_of_lookupRows hrow)) (hk ▸ hl.1)
      simp [hk, habs]
    · simp [hk, Ne.symm hk]

/-- Where no key is repeated, the table has exactly the given rows. -/
theorem get?_ofRows {l : List (K × V)} (hl : (l.map Prod.fst).Nodup) (k : K) :
    (ofRows l).get? k = lookupRows l k := by
  rw [ofRows, get?_foldl_insert hl, get?_empty, Option.or_none]

/-- Where no key is repeated, a row is found under its own key. -/
theorem lookupRows_eq_some_iff {l : List (K × V)} (hl : (l.map Prod.fst).Nodup) {k : K} {v : V} :
    lookupRows l k = some v ↔ (k, v) ∈ l := by
  refine ⟨mem_of_lookupRows, fun h => ?_⟩
  induction l with
  | nil => cases h
  | cons r rest ih =>
    rw [List.map_cons, List.nodup_cons] at hl
    rw [lookupRows]
    rcases List.mem_cons.mp h with rfl | h
    · rw [if_pos rfl]
    · have hne : r.1 ≠ k := fun heq => hl.1 (heq ▸ List.mem_map_of_mem h)
      rw [if_neg hne]
      exact ih hl.2 h

theorem get?_ofRows_eq_some_iff {l : List (K × V)} (hl : (l.map Prod.fst).Nodup) {k : K} {v : V} :
    (ofRows l).get? k = some v ↔ (k, v) ∈ l := by
  rw [get?_ofRows hl, lookupRows_eq_some_iff hl]

/-- The order of the rows does not matter to their table. -/
theorem ofRows_perm {l l' : List (K × V)} (hl : (l.map Prod.fst).Nodup) (h : l.Perm l') :
    ofRows l' = ofRows l := by
  ext k v
  have hl' : (l'.map Prod.fst).Nodup := (h.map Prod.fst).nodup_iff.mp hl
  rw [get?_ofRows_eq_some_iff hl', get?_ofRows_eq_some_iff hl, h.mem_iff]

/-- The table of the rows of a table is the table. -/
theorem ofRows_rows (t : KeyedTable K V) : ofRows t.rows = t := by
  ext k v
  rw [get?_ofRows_eq_some_iff t.keys_nodup, mem_rows_iff]

/-- The keys of the given rows are the keys of their table. -/
theorem mem_keys_ofRows {l : List (K × V)} (hl : (l.map Prod.fst).Nodup) (k : K) :
    k ∈ (ofRows l).keys ↔ k ∈ l.map Prod.fst := by
  rw [mem_keys_iff, get?_ofRows hl]
  induction l with
  | nil => simp [lookupRows]
  | cons r rest ih =>
    rw [List.map_cons, List.nodup_cons] at hl
    rw [lookupRows, List.map_cons, List.mem_cons]
    split_ifs with hk
    · simp [hk]
    · rw [ih hl.2]
      exact ⟨.inr, fun h => h.resolve_left (fun h' => hk h'.symm)⟩

theorem length_ofRows {l : List (K × V)} (hl : (l.map Prod.fst).Nodup) :
    (ofRows l).rows.length = l.length := by
  have hperm := (List.perm_ext_iff_of_nodup (ofRows l).keys_nodup hl).mpr (mem_keys_ofRows hl)
  rw [← keys_length, hperm.length_eq, List.length_map]

/-! ## Selection and projection -/

/-- Select rows and compute new ones from them, row by row. -/
def filterMap (t : KeyedTable K V) (f : K → V → Option W) : KeyedTable K W :=
  ⟨t.rows.filterMap (fun r => (f r.1 r.2).map (fun w => (r.1, w))),
    t.sorted.filterMap _ (fun a b hab r hr r' hr' => by
      obtain ⟨_, _, rfl⟩ := Option.map_eq_some_iff.mp hr
      obtain ⟨_, _, rfl⟩ := Option.map_eq_some_iff.mp hr'
      exact hab)⟩

@[simp] theorem get?_filterMap (t : KeyedTable K V) (f : K → V → Option W) (k : K) :
    (t.filterMap f).get? k = (t.get? k).bind (f k) := by
  refine Option.ext (fun w => ?_)
  rw [← mem_rows_iff]
  simp only [filterMap, List.mem_filterMap, Option.map_eq_some_iff, Option.bind_eq_some_iff]
  constructor
  · rintro ⟨⟨k', v⟩, hmem, w', hw', heq⟩
    obtain ⟨rfl, rfl⟩ := Prod.mk.inj heq
    exact ⟨v, mem_rows_iff.mp hmem, hw'⟩
  · rintro ⟨v, hv, hw⟩
    exact ⟨(k, v), mem_rows_iff.mpr hv, w, hw, rfl⟩

/-- Compute a new row from each row. -/
def map (t : KeyedTable K V) (f : V → W) : KeyedTable K W := t.filterMap (fun _ v => some (f v))

@[simp] theorem get?_map (t : KeyedTable K V) (f : V → W) (k : K) :
    (t.map f).get? k = (t.get? k).map f := by
  rw [map, get?_filterMap]
  cases t.get? k <;> rfl

@[simp] theorem keys_map (t : KeyedTable K V) (f : V → W) : (t.map f).keys = t.keys := by
  simp only [keys, map, filterMap, List.map_filterMap, Option.map_some]
  induction t.rows with
  | nil => rfl
  | cons r rest ih => rw [List.filterMap_cons, ih, List.map_cons]

/-- Tables with rows under the same keys have the same keys. -/
theorem keys_congr {a : KeyedTable K V} {b : KeyedTable K W}
    (h : ∀ k, (a.get? k).isSome = (b.get? k).isSome) : a.keys = b.keys := by
  have hunit : a.map (fun _ => ()) = b.map (fun _ => ()) := by
    ext k : 1
    have hk := h k
    rw [get?_map, get?_map]
    cases ha : a.get? k <;> cases hb : b.get? k <;> simp_all
  rw [← keys_map a (fun _ => ()), hunit, keys_map]

/-- Keep the rows that satisfy a condition. -/
def filter (t : KeyedTable K V) (p : V → Bool) : KeyedTable K V :=
  t.filterMap (fun _ v => if p v then some v else none)

@[simp] theorem get?_filter (t : KeyedTable K V) (p : V → Bool) (k : K) :
    (t.filter p).get? k = (t.get? k).filter p := by
  rw [filter, get?_filterMap]
  cases t.get? k <;> simp [Option.filter]

/-- The list a table unfolds to when each row contributes a list: a row that
contributes nothing might as well not be there. -/
theorem flatMap_rows_eq {f : K → V → List X} {g : K → W → List X} {a : KeyedTable K V}
    {b : KeyedTable K W}
    (h : ∀ k, ((a.get? k).map (f k)).getD [] = ((b.get? k).map (g k)).getD []) :
    a.rows.flatMap (fun r => f r.1 r.2) = b.rows.flatMap (fun r => g r.1 r.2) := by
  have contributing : ∀ {U : Type} (e : K → U → List X) (t : KeyedTable K U),
      t.rows.flatMap (fun r => e r.1 r.2)
        = (t.filterMap (fun k v => if (e k v).isEmpty then none else some (e k v))).rows.flatMap
            (fun r => r.2) := by
    intro U e t
    simp only [filterMap]
    induction t.rows with
    | nil => rfl
    | cons r rest ih =>
      rw [List.flatMap_cons, ih, List.filterMap_cons]
      cases e r.1 r.2 <;> simp
  rw [contributing f a, contributing g b]
  congr 2
  ext k : 1
  rw [get?_filterMap, get?_filterMap]
  have hk := h k
  cases ha : a.get? k <;> cases hb : b.get? k <;> simp_all

/-- The rows up to and including a key. -/
def truncate (t : KeyedTable K V) (T : K) : KeyedTable K V :=
  t.filterMap (fun k v => if k ≤ T then some v else none)

theorem get?_truncate (t : KeyedTable K V) (T k : K) :
    (t.truncate T).get? k = if k ≤ T then t.get? k else none := by
  rw [truncate, get?_filterMap]
  split_ifs <;> cases t.get? k <;> simp_all

@[simp] theorem truncate_empty (T : K) : (empty : KeyedTable K V).truncate T = empty := rfl

@[simp] theorem truncate_filterMap (t : KeyedTable K V) (f : K → V → Option W) (T : K) :
    (t.filterMap f).truncate T = (t.truncate T).filterMap f := by
  ext k : 1
  simp only [get?_truncate, get?_filterMap]
  split_ifs <;> rfl

@[simp] theorem truncate_map (t : KeyedTable K V) (f : V → W) (T : K) :
    (t.map f).truncate T = (t.truncate T).map f :=
  truncate_filterMap t _ T

@[simp] theorem truncate_filter (t : KeyedTable K V) (p : V → Bool) (T : K) :
    (t.filter p).truncate T = (t.truncate T).filter p :=
  truncate_filterMap t _ T

/-! ## Computations that may fail -/

/-- The error of a computation, if it fails. -/
def errorOf {ε : Type} : Except ε W → Option ε
  | .error e => some e
  | .ok _ => none

theorem errorOf_eq_none {ε : Type} {r : Except ε W} : errorOf r = none ↔ ∃ w, r = .ok w := by
  cases r <;> simp [errorOf]

/-- Compute a value from each row, in key order, raising the first error. -/
def traverse {ε : Type} (t : KeyedTable K V) (f : K → V → Except ε W) :
    Except ε (KeyedTable K W) :=
  match t.rows.findSome? (fun r => errorOf (f r.1 r.2)) with
  | some e => .error e
  | none => .ok (t.filterMap (fun k v => (f k v).toOption))

/-- **A computation succeeds on a table when it does on every row**, and yields
under each key the value computed from its row. -/
theorem traverse_eq_ok_iff {ε : Type} {t : KeyedTable K V} {f : K → V → Except ε W}
    {t' : KeyedTable K W} :
    t.traverse f = .ok t' ↔ ∀ k, (t.get? k).map (f k) = (t'.get? k).map Except.ok := by
  have hall : t.rows.findSome? (fun r => errorOf (f r.1 r.2)) = none
      ↔ ∀ k v, t.get? k = some v → ∃ w, f k v = .ok w := by
    rw [List.findSome?_eq_none_iff]
    exact ⟨fun h k v hv => errorOf_eq_none.mp (h (k, v) (mem_rows_iff.mpr hv)),
      fun h r hr => errorOf_eq_none.mpr (h r.1 r.2 (mem_rows_iff.mp hr))⟩
  have hcell : ∀ r : Except ε W, (∃ w, r = .ok w) → r.toOption.map Except.ok = some r := by
    rintro _ ⟨w, rfl⟩
    rfl
  unfold traverse
  constructor
  · intro h k
    split at h
    · cases h
    · next hnone =>
      rw [← Except.ok.inj h, get?_filterMap]
      cases hv : t.get? k with
      | none => rfl
      | some v => exact (hcell _ (hall.mp hnone k v hv)).symm
  · intro h
    have hok : ∀ k v, t.get? k = some v → ∃ w, f k v = .ok w := by
      intro k v hv
      have hk := h k
      rw [hv, Option.map_some] at hk
      obtain ⟨w, -, hw⟩ := Option.map_eq_some_iff.mp hk.symm
      exact ⟨w, hw.symm⟩
    rw [hall.mpr hok]
    refine congrArg Except.ok (ext_get? (fun k => ?_))
    have hk := h k
    rw [get?_filterMap]
    cases hv : t.get? k with
    | none =>
      rw [hv] at hk
      exact (Option.map_eq_none_iff.mp hk.symm).symm
    | some v =>
      rw [hv, Option.map_some] at hk
      obtain ⟨w, hw', hw⟩ := Option.map_eq_some_iff.mp hk.symm
      rw [hw', Option.bind_some, ← hw]
      rfl

theorem keys_traverse {ε : Type} {t : KeyedTable K V} {f : K → V → Except ε W}
    {t' : KeyedTable K W} (h : t.traverse f = .ok t') : t'.keys = t.keys :=
  keys_congr (fun k => by
    rw [← Option.isSome_map (f := f k), traverse_eq_ok_iff.mp h k, Option.isSome_map])

/-- A computation that succeeds on every row succeeds on the table. -/
theorem traverse_isOk {ε : Type} {t : KeyedTable K V} {f : K → V → Except ε W}
    (h : ∀ k v, t.get? k = some v → ∃ w, f k v = .ok w) : ∃ t', t.traverse f = .ok t' := by
  have hnone : t.rows.findSome? (fun r => errorOf (f r.1 r.2)) = none :=
    List.findSome?_eq_none_iff.mpr
      (fun r hr => errorOf_eq_none.mpr (h r.1 r.2 (mem_rows_iff.mp hr)))
  exact ⟨_, by rw [traverse, hnone]⟩

/-! ## Joins on the key -/

/-- `LEFT JOIN … ON` equal keys: every row of the left table, with the row of
the right table under the same key if there is one. -/
def leftJoin (a : KeyedTable K V) (b : KeyedTable K W) : KeyedTable K (V × Option W) :=
  a.filterMap (fun k v => some (v, b.get? k))

@[simp] theorem get?_leftJoin (a : KeyedTable K V) (b : KeyedTable K W) (k : K) :
    (a.leftJoin b).get? k = (a.get? k).map (fun v => (v, b.get? k)) := by
  rw [leftJoin, get?_filterMap]
  cases a.get? k <;> rfl

@[simp] theorem truncate_leftJoin (a : KeyedTable K V) (b : KeyedTable K W) (T : K) :
    (a.leftJoin b).truncate T = (a.truncate T).leftJoin (b.truncate T) := by
  ext k : 1
  simp only [get?_truncate, get?_leftJoin]
  split_ifs <;> rfl

/-- The left join with a whole family of tables at once. -/
def leftJoinFamily {ι : Type} (a : KeyedTable K V) (b : ι → KeyedTable K W) :
    KeyedTable K (V × (ι → Option W)) :=
  a.filterMap (fun k v => some (v, fun i => (b i).get? k))

@[simp] theorem get?_leftJoinFamily {ι : Type} (a : KeyedTable K V) (b : ι → KeyedTable K W)
    (k : K) :
    (a.leftJoinFamily b).get? k = (a.get? k).map (fun v => (v, fun i => (b i).get? k)) := by
  rw [leftJoinFamily, get?_filterMap]
  cases a.get? k <;> rfl

@[simp] theorem truncate_leftJoinFamily {ι : Type} (a : KeyedTable K V)
    (b : ι → KeyedTable K W) (T : K) :
    (a.leftJoinFamily b).truncate T
      = (a.truncate T).leftJoinFamily (fun i => (b i).truncate T) := by
  ext k : 1
  simp only [get?_truncate, get?_leftJoinFamily]
  split_ifs <;> rfl

/-- `JOIN … ON` equal keys: the rows whose key is in both tables. -/
def innerJoin (a : KeyedTable K V) (b : KeyedTable K W) : KeyedTable K (V × W) :=
  a.filterMap (fun k v => (b.get? k).map (fun w => (v, w)))

@[simp] theorem get?_innerJoin (a : KeyedTable K V) (b : KeyedTable K W) (k : K) :
    (a.innerJoin b).get? k = (a.get? k).bind (fun v => (b.get? k).map (fun w => (v, w))) :=
  get?_filterMap a _ k

@[simp] theorem truncate_innerJoin (a : KeyedTable K V) (b : KeyedTable K W) (T : K) :
    (a.innerJoin b).truncate T = (a.truncate T).innerJoin (b.truncate T) := by
  ext k : 1
  simp only [get?_truncate, get?_innerJoin]
  split_ifs <;> rfl

/-- `FULL OUTER JOIN … USING` the key: every key of either table, with the
row each table holds under it. -/
def fullJoin (a : KeyedTable K V) (b : KeyedTable K W) : KeyedTable K (Option V × Option W) :=
  b.rows.foldl (fun acc r => acc.alter r.1 (fun o => some (o.bind Prod.fst, some r.2)))
    (a.map (fun v => (some v, none)))

/-- Joining in rows one by one: a key that is not among them keeps its row,
a key that is gets the row joined in. -/
theorem get?_foldl_alter (l : List (K × W)) (hl : l.Pairwise (fun a b => a.1 < b.1))
    (acc : KeyedTable K (Option V × Option W)) (k : K) :
    (l.foldl (fun acc r => acc.alter r.1 (fun o => some (o.bind Prod.fst, some r.2))) acc).get? k
      = match lookupRows l k with
        | none => acc.get? k
        | some w => some ((acc.get? k).bind Prod.fst, some w) := by
  induction l generalizing acc with
  | nil => rfl
  | cons r rest ih =>
    rw [List.pairwise_cons] at hl
    rw [List.foldl_cons, ih hl.2, get?_alter, lookupRows]
    by_cases hk : r.1 = k
    · have hrest : lookupRows rest k = none := lookupRows_of_lt (hk ▸ hl.1)
      simp [hk, hrest]
    · simp [hk, Ne.symm hk]

@[simp] theorem get?_fullJoin (a : KeyedTable K V) (b : KeyedTable K W) (k : K) :
    (a.fullJoin b).get? k
      = if (a.get? k).isSome || (b.get? k).isSome then some (a.get? k, b.get? k) else none := by
  rw [fullJoin, get?_foldl_alter _ b.sorted, get?_map]
  change (match b.get? k with | none => _ | some w => _) = _
  cases b.get? k <;> cases a.get? k <;> simp

@[simp] theorem truncate_fullJoin (a : KeyedTable K V) (b : KeyedTable K W) (T : K) :
    (a.fullJoin b).truncate T = (a.truncate T).fullJoin (b.truncate T) := by
  ext k : 1
  simp only [get?_truncate, get?_fullJoin]
  split_ifs <;> simp_all

end KeyedTable
