import MacroLoader.KeyedTable

/-!
# Window functions and recurrences over a keyed table

A window function answers, for each row of an ordered table, a question about
the row's *position*: the value some rows earlier, an aggregate over the rows
between two offsets. So the meaning of a window function is a function of the
whole list of rows and of a position in it (`window`), and nothing in that type
keeps it from looking at the rows that follow.

What does keep it from them is a property of the particular function
(`Causal`): that cutting the list after the position changes nothing. `LAG`,
`ROW_NUMBER`, a `ROWS` frame that ends at or before the current row, and the
state of a recurrence that walks the rows in order all have it. For such a
function the window and the cut commute (`truncate_window`), which is the one
fact about windows that a causality argument needs.
-/

variable {K V W X S : Type} [LinearOrder K]

namespace KeyedTable

/-- The rows of a table without their keys, in key order. -/
def values (t : KeyedTable K V) : List V := t.rows.map Prod.snd

/-- How many rows precede a key. -/
def rank (t : KeyedTable K V) (k : K) : ℕ := t.rows.countP (fun r => decide (r.1 < k))

/-- **A window function over a table**: each row's new value is computed from
all the rows, the row's position among them, and the row itself. -/
def window (t : KeyedTable K V) (f : List V → ℕ → V → W) : KeyedTable K W :=
  ⟨t.rows.mapIdx (fun i r => (r.1, f t.values i r.2)), by
    rw [List.pairwise_iff_getElem]
    intro i j hi hj hij
    rw [List.getElem_mapIdx, List.getElem_mapIdx]
    exact List.pairwise_iff_getElem.mp t.sorted i j _ _ hij⟩

theorem lookupRows_mapIdx {l : List (K × V)} (hl : l.Pairwise (fun a b => a.1 < b.1))
    (g : ℕ → V → W) (k : K) :
    lookupRows (l.mapIdx (fun i r => (r.1, g i r.2))) k
      = (lookupRows l k).map (g (l.countP (fun r => decide (r.1 < k)))) := by
  induction l generalizing g with
  | nil => rfl
  | cons r rest ih =>
    rw [List.pairwise_cons] at hl
    rw [List.mapIdx_cons, lookupRows, lookupRows]
    by_cases hk : r.1 = k
    · subst hk
      have hzero : (r :: rest).countP (fun s => decide (s.1 < r.1)) = 0 := by
        rw [List.countP_eq_zero]
        intro s hs
        rcases List.mem_cons.mp hs with rfl | hs
        · simp
        · simpa using le_of_lt (hl.1 s hs)
      simp [hzero]
    · rw [if_neg hk, if_neg hk, ih hl.2 (fun i => g (i + 1))]
      rcases lt_or_gt_of_ne hk with hlt | hgt
      · rw [List.countP_cons_of_pos (by simpa using hlt)]
      · have hnone : lookupRows rest k = none :=
          lookupRows_of_lt (fun s hs => hgt.trans (hl.1 s hs))
        rw [hnone]
        rfl

/-- **What a window function computes under a key**: the function at the
number of rows that precede it. -/
theorem get?_window (t : KeyedTable K V) (f : List V → ℕ → V → W) (k : K) :
    (t.window f).get? k = (t.get? k).map (f t.values (t.rank k)) :=
  lookupRows_mapIdx t.sorted (f t.values) k

/-! ## Cutting a table after a key -/

theorem rows_truncate (t : KeyedTable K V) (T : K) :
    (t.truncate T).rows = t.rows.filter (fun r => decide (r.1 ≤ T)) := by
  rw [truncate, filterMap, ← List.filterMap_eq_filter]
  refine List.filterMap_congr (fun r _ => ?_)
  by_cases h : r.1 ≤ T <;> simp [h, Option.guard]

/-- Keeping the rows up to a key is keeping the first rows. -/
theorem filter_le_eq_take {l : List (K × V)} (hl : l.Pairwise (fun a b => a.1 < b.1)) (T : K) :
    l.filter (fun r => decide (r.1 ≤ T)) = l.take (l.countP (fun r => decide (r.1 ≤ T))) := by
  induction l with
  | nil => rfl
  | cons r rest ih =>
    rw [List.pairwise_cons] at hl
    by_cases h : r.1 ≤ T
    · rw [List.filter_cons_of_pos (by simpa using h), List.countP_cons_of_pos (by simpa using h),
        List.take_succ_cons, ih hl.2]
    · have hrest : ∀ s ∈ r :: rest, ¬ s.1 ≤ T := fun s hs => by
        rcases List.mem_cons.mp hs with rfl | hs
        · exact h
        · exact fun hle => h ((le_of_lt (hl.1 s hs)).trans hle)
      rw [List.filter_eq_nil_iff.mpr (by simpa using hrest),
        List.countP_eq_zero.mpr (by simpa using hrest), List.take_zero]

theorem values_truncate (t : KeyedTable K V) (T : K) :
    (t.truncate T).values = t.values.take (t.rows.countP (fun r => decide (r.1 ≤ T))) := by
  rw [values, rows_truncate, filter_le_eq_take t.sorted, List.map_take, values]

theorem rank_truncate (t : KeyedTable K V) {T k : K} (hk : k ≤ T) :
    (t.truncate T).rank k = t.rank k := by
  rw [rank, rank, rows_truncate, List.countP_filter]
  refine List.countP_congr (fun r _ => ?_)
  simpa using fun h : r.1 < k => (le_of_lt h).trans hk

/-- A row that survives the cut is among the rows the cut keeps. -/
theorem rank_lt_countP {t : KeyedTable K V} {T k : K} (hk : k ≤ T) {v : V}
    (h : t.get? k = some v) : t.rank k < t.rows.countP (fun r => decide (r.1 ≤ T)) := by
  have hmem := mem_rows_iff.mpr h
  have hsplit : t.rows.countP (fun r => decide (r.1 < k))
      < t.rows.countP (fun r => decide (r.1 ≤ k)) := by
    have hone : 0 < (t.rows.countP (fun r => decide (r.1 = k))) :=
      List.countP_pos_iff.mpr ⟨_, hmem, by simp⟩
    have hadd : t.rows.countP (fun r => decide (r.1 ≤ k))
        = t.rows.countP (fun r => decide (r.1 < k))
          + t.rows.countP (fun r => decide (r.1 = k)) := by
      induction t.rows with
      | nil => rfl
      | cons r rest ih =>
        simp only [List.countP_cons, ih, decide_eq_true_eq]
        rcases lt_trichotomy r.1 k with hlt | heq | hgt
        · simp [hlt, hlt.le, ne_of_lt hlt]; omega
        · simp [heq]; omega
        · simp [not_lt_of_gt hgt, not_le_of_gt hgt, ne_of_gt hgt]
    omega
  refine hsplit.trans_le (List.countP_mono_left (fun r _ hr => ?_))
  simpa using (of_decide_eq_true hr).trans hk

/-! ## Causal window functions -/

/-- **A window function is causal** when cutting the rows anywhere after the
current one does not change it. -/
def Causal (f : List V → ℕ → V → W) : Prop :=
  ∀ (l : List V) (n i : ℕ) (v : V), i < n → f (l.take n) i v = f l i v

/-- **A causal window commutes with the cut**: computing over the whole table
and keeping the rows up to a key is computing over the rows up to the key. -/
theorem truncate_window {f : List V → ℕ → V → W} (hf : Causal f) (t : KeyedTable K V) (T : K) :
    (t.window f).truncate T = (t.truncate T).window f := by
  ext k : 1
  rw [get?_truncate, get?_window, get?_window, get?_truncate]
  split_ifs with hk
  · cases hv : t.get? k with
    | none => rfl
    | some v =>
      rw [Option.map_some, Option.map_some, values_truncate, rank_truncate t hk,
        hf _ _ _ _ (rank_lt_countP hk hv)]
  · rfl

/-- `ROW_NUMBER() OVER (ORDER BY key)`. -/
def rowNumber (_ : List V) (i : ℕ) : ℕ := i + 1

/-- `LAG(col, k) OVER (ORDER BY key)`: the value `k` rows earlier, null before
there are that many. -/
def lag (col : V → Option X) (k : ℕ) (rows : List V) (i : ℕ) : Option X :=
  if k ≤ i then rows[i - k]?.bind col else none

/-- The rows of `ROWS BETWEEN start PRECEDING AND stop PRECEDING`; the current
row is the one `0` rows earlier. -/
def frame (start stop : ℕ) (rows : List V) (i : ℕ) : List V :=
  (rows.take (i + 1 - stop)).drop (i - start)

theorem lag_take (col : V → Option X) (k : ℕ) (l : List V) {n i : ℕ} (h : i < n) :
    lag col k (l.take n) i = lag col k l i := by
  unfold lag
  split_ifs
  · rw [List.getElem?_take_of_lt (by omega)]
  · rfl

theorem frame_take (start stop : ℕ) (l : List V) {n i : ℕ} (h : i < n) :
    frame start stop (l.take n) i = frame start stop l i := by
  rw [frame, frame, List.take_take, Nat.min_eq_left (by omega)]

/-- The state a recurrence has after walking to a position of an aggregated
array: `init` of the first element, then `step` with each next one. -/
def stateAt (init : V → S) (step : S → V → S) (input : List V) : ℕ → Option S
  | 0 => input[0]?.map init
  | n + 1 => (stateAt init step input n).bind (fun s => input[n + 1]?.map (step s))

theorem stateAt_take (init : V → S) (step : S → V → S) (l : List V) {n i : ℕ} (h : i < n) :
    stateAt init step (l.take n) i = stateAt init step l i := by
  induction i with
  | zero => rw [stateAt, stateAt, List.getElem?_take_of_lt h]
  | succ i ih => rw [stateAt, stateAt, ih (by omega), List.getElem?_take_of_lt h]

/-- **`WITH RECURSIVE` over the rows of a table**: the rows are aggregated in
order, and every row gets the state the recurrence has when it reaches it. -/
def recursive (t : KeyedTable K V) (init : V → S) (step : S → V → S) : KeyedTable K S :=
  (t.window (fun rows i _ => stateAt init step rows i)).filterMap (fun _ s => s)

@[simp] theorem truncate_recursive (t : KeyedTable K V) (init : V → S) (step : S → V → S)
    (T : K) :
    (t.recursive init step).truncate T = (t.truncate T).recursive init step := by
  rw [recursive, truncate_filterMap, truncate_window, recursive]
  exact fun l n i _ h => stateAt_take init step l h

@[simp] theorem values_map (t : KeyedTable K V) (f : V → W) :
    (t.map f).values = t.values.map f := by
  simp only [values, map, filterMap, List.map_filterMap, Option.map_some, List.map_map]
  exact congrFun List.filterMap_eq_map t.rows

omit [LinearOrder K] in
/-- A selection that drops nothing keeps positions. -/
theorem getElem?_filterMap_of_isSome {l : List X} {f : X → Option W}
    (h : ∀ x ∈ l, (f x).isSome) (i : ℕ) : (l.filterMap f)[i]? = l[i]?.bind f := by
  induction l generalizing i with
  | nil => rfl
  | cons x l ih =>
    obtain ⟨w, hw⟩ := Option.isSome_iff_exists.mp (h x List.mem_cons_self)
    rw [List.filterMap_cons_some hw]
    cases i with
    | zero => exact hw.symm
    | succ i => exact ih (fun y hy => h y (List.mem_cons_of_mem _ hy)) i

/-- A recurrence has a state at every row. -/
theorem exists_stateAt (init : V → S) (step : S → V → S) {input : List V} {i : ℕ}
    (h : i < input.length) : ∃ s, stateAt init step input i = some s := by
  induction i with
  | zero => exact ⟨_, by rw [stateAt, List.getElem?_eq_getElem h]; rfl⟩
  | succ i ih =>
    obtain ⟨s, hs⟩ := ih (by omega)
    exact ⟨_, by rw [stateAt, hs, List.getElem?_eq_getElem h]; rfl⟩

/-- The row of a recurrence at a position. -/
theorem getElem?_rows_recursive (t : KeyedTable K V) (init : V → S) (step : S → V → S) (i : ℕ) :
    (t.recursive init step).rows[i]?
      = t.rows[i]?.bind (fun r => (stateAt init step t.values i).map (fun s => (r.1, s))) := by
  have hlength : t.values.length = t.rows.length := List.length_map _
  rw [recursive, filterMap, getElem?_filterMap_of_isSome]
  · rw [window, List.getElem?_mapIdx, Option.bind_map]
    rfl
  · intro r hr
    obtain ⟨j, hj, rfl⟩ := List.mem_mapIdx.mp hr
    obtain ⟨s, hs⟩ := exists_stateAt init step (hlength ▸ hj)
    simp [hs]

/-- **A recurrence has one row for each row it walks over**, and the state it has
there. -/
theorem keys_recursive (t : KeyedTable K V) (init : V → S) (step : S → V → S) :
    (t.recursive init step).keys = t.keys := by
  refine List.ext_getElem? (fun i => ?_)
  rw [keys, keys, List.getElem?_map, List.getElem?_map, getElem?_rows_recursive]
  cases hrow : t.rows[i]? with
  | none => rfl
  | some r =>
    have hlt : i < t.values.length := by
      rw [values, List.length_map]
      exact (List.getElem?_eq_some_iff.mp hrow).1
    obtain ⟨s, hs⟩ := exists_stateAt init step hlt
    rw [Option.bind_some, hs]
    rfl

theorem getElem?_values_recursive (t : KeyedTable K V) (init : V → S) (step : S → V → S)
    (i : ℕ) : (t.recursive init step).values[i]? = stateAt init step t.values i := by
  rw [values, List.getElem?_map, getElem?_rows_recursive]
  cases hrow : t.rows[i]? with
  | none =>
    have hnone : t.values[i]? = none := by rw [values, List.getElem?_map, hrow]; rfl
    cases i with
    | zero => rw [stateAt, hnone]; rfl
    | succ i => rw [stateAt, hnone]; cases stateAt init step t.values i <;> rfl
  | some r =>
    rw [Option.bind_some, Option.map_map]
    exact Option.map_id'

/-! ## The last row before a key -/

/-- The value of the last row before a key: what a lateral subquery
`WHERE key < k ORDER BY key DESC LIMIT 1` returns. -/
def lastBefore (t : KeyedTable K V) (k : K) : Option V :=
  ((t.rows.filter (fun r => decide (r.1 < k))).getLast?).map Prod.snd

theorem lastBefore_truncate (t : KeyedTable K V) {T k : K} (hk : k ≤ T) :
    (t.truncate T).lastBefore k = t.lastBefore k := by
  rw [lastBefore, lastBefore, rows_truncate, List.filter_filter]
  congr 3
  funext r
  have himp : r.1 < k → r.1 ≤ T := fun h => (le_of_lt h).trans hk
  by_cases h : r.1 < k <;> simp [h, himp]

/-- `LEFT JOIN LATERAL`: every row with the value of the last row of another
table before its key. -/
def lateralJoin (a : KeyedTable K V) (b : KeyedTable K W) : KeyedTable K (V × Option W) :=
  a.filterMap (fun k v => some (v, b.lastBefore k))

@[simp] theorem truncate_lateralJoin (a : KeyedTable K V) (b : KeyedTable K W) (T : K) :
    (a.lateralJoin b).truncate T = (a.truncate T).lateralJoin (b.truncate T) := by
  ext k : 1
  simp only [lateralJoin, get?_truncate, get?_filterMap]
  split_ifs with hk
  · rw [lastBefore_truncate b hk]
  · rfl

end KeyedTable
