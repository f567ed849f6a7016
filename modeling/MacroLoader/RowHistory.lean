import MacroLoader.Window

/-!
# Windows as functions of a history

A window function that looks back sees the rows up to the current one. Listed
newest first (`history`), these rows make the usual windows plain functions on
lists: a lag is an element, a trailing frame is a prefix, a row number is a
length, and the state of a recurrence is a recursion on the list. Stacking one
window on another is applying one such function along the tails of the list
(`alongHistory`), and a selection between two windows is a `filterMap`.

So a chain of windows, selections and recurrences over a table becomes one
function of the history of its first table, and a claim about the chain a claim
about lists, in which no positions are left.
-/

variable {K V W X S : Type} [LinearOrder K]

namespace KeyedTable

/-- **The values up to a key**, newest first. -/
def history (t : KeyedTable K V) (k : K) : List V :=
  ((t.rows.filter (fun r => decide (r.1 ≤ k))).map Prod.snd).reverse

/-- The values before a key, newest first. -/
def earlier (t : KeyedTable K V) (k : K) : List V :=
  ((t.rows.filter (fun r => decide (r.1 < k))).map Prod.snd).reverse

variable {t : KeyedTable K V} {k : K} {v : V}

/-- The rows up to a key are those before it and the one under it. -/
theorem filter_le_eq {l : List (K × V)} (hl : l.Pairwise (fun a b => a.1 < b.1)) (k : K) :
    (l.filter (fun r => decide (r.1 ≤ k))).map Prod.snd
      = (l.filter (fun r => decide (r.1 < k))).map Prod.snd ++ (lookupRows l k).toList := by
  induction l with
  | nil => rfl
  | cons r rest ih =>
    rw [List.pairwise_cons] at hl
    rw [lookupRows]
    rcases lt_trichotomy r.1 k with hlt | heq | hgt
    · rw [List.filter_cons_of_pos (by simpa using hlt.le),
        List.filter_cons_of_pos (by simpa using hlt), if_neg hlt.ne, List.map_cons, List.map_cons,
        ih hl.2, List.cons_append]
    · -- the rows after the key are neither before it nor under it
      have hle : rest.filter (fun s => decide (s.1 ≤ k)) = [] :=
        List.filter_eq_nil_iff.mpr (fun s hs => by simpa [← heq] using hl.1 s hs)
      have hlt : rest.filter (fun s => decide (s.1 < k)) = [] :=
        List.filter_eq_nil_iff.mpr (fun s hs => by simpa [← heq] using (hl.1 s hs).le)
      rw [List.filter_cons_of_pos (by simpa using heq.le),
        List.filter_cons_of_neg (by simp [heq]), if_pos heq, hle, hlt]
      rfl
    · rw [List.filter_cons_of_neg (by simpa using hgt),
        List.filter_cons_of_neg (by simpa using hgt.le), if_neg hgt.ne', ih hl.2]

theorem history_eq (t : KeyedTable K V) (k : K) :
    t.history k = (t.get? k).toList ++ t.earlier k := by
  rw [history, filter_le_eq t.sorted, List.reverse_append, earlier]
  show (t.get? k).toList.reverse ++ _ = _
  cases t.get? k <;> rfl

/-- **A history starts with the current row.** -/
theorem history_of_get? (h : t.get? k = some v) : t.history k = v :: t.earlier k := by
  rw [history_eq, h]
  rfl

theorem length_earlier (t : KeyedTable K V) (k : K) : (t.earlier k).length = t.rank k := by
  rw [earlier, List.length_reverse, List.length_map, rank, List.countP_eq_length_filter]

/-- A selection selects among the rows that a condition on the key leaves. -/
theorem map_filter_filterMap (t : KeyedTable K V) (f : V → Option W) (p : K → Bool) :
    ((t.filterMap (fun _ => f)).rows.filter (fun r => p r.1)).map Prod.snd
      = ((t.rows.filter (fun r => p r.1)).map Prod.snd).filterMap f := by
  rw [List.filterMap_map, filterMap, List.filter_filterMap, List.map_filterMap,
    List.filterMap_filter]
  refine List.filterMap_congr (fun r _ => ?_)
  cases hr : p r.1 <;> cases hf : f r.2 <;> simp [hr, hf, Option.filter]

/-- **A selection selects in the history.** -/
@[simp] theorem history_filterMap (t : KeyedTable K V) (f : V → Option W) (k : K) :
    (t.filterMap (fun _ => f)).history k = (t.history k).filterMap f := by
  rw [history, history, List.filterMap_reverse]
  exact congrArg List.reverse (map_filter_filterMap t f (fun j => decide (j ≤ k)))

@[simp] theorem earlier_filterMap (t : KeyedTable K V) (f : V → Option W) (k : K) :
    (t.filterMap (fun _ => f)).earlier k = (t.earlier k).filterMap f := by
  rw [earlier, earlier, List.filterMap_reverse]
  exact congrArg List.reverse (map_filter_filterMap t f (fun j => decide (j < k)))

@[simp] theorem history_map (t : KeyedTable K V) (f : V → W) (k : K) :
    (t.map f).history k = (t.history k).map f :=
  (history_filterMap t (fun v => some (f v)) k).trans (congrFun List.filterMap_eq_map _)

@[simp] theorem earlier_map (t : KeyedTable K V) (f : V → W) (k : K) :
    (t.map f).earlier k = (t.earlier k).map f :=
  (earlier_filterMap t (fun v => some (f v)) k).trans (congrFun List.filterMap_eq_map _)

theorem length_history (h : t.get? k = some v) : (t.history k).length = t.rank k + 1 := by
  rw [history_of_get? h, List.length_cons, length_earlier]

/-- A history is a prefix of the table, read backwards. -/
theorem history_eq_reverse_take (t : KeyedTable K V) (k : K) :
    t.history k = (t.values.take (t.rows.countP (fun r => decide (r.1 ≤ k)))).reverse := by
  rw [← values_truncate, values, rows_truncate, history]

theorem reverse_take_rank (h : t.get? k = some v) :
    (t.values.take (t.rank k + 1)).reverse = t.history k := by
  rw [history_eq_reverse_take, List.countP_eq_length_filter, ← length_history h, history,
    List.length_reverse, List.length_map]

theorem getElem?_rank (h : t.get? k = some v) : t.values[t.rank k]? = some v := by
  have htake : t.values.take (t.rank k + 1) = (t.earlier k).reverse ++ [v] := by
    rw [← List.reverse_cons, ← history_of_get? h, ← reverse_take_rank h, List.reverse_reverse]
  rw [← List.getElem?_take_of_lt (Nat.lt_succ_self _), htake, List.getElem?_append_right
    (by rw [List.length_reverse, length_earlier]), List.length_reverse, length_earlier,
    Nat.sub_self]
  rfl

theorem reverse_take_rank_earlier (h : t.get? k = some v) :
    (t.values.take (t.rank k)).reverse = t.earlier k := by
  have hhistory := reverse_take_rank h
  rw [List.take_add_one, getElem?_rank h, Option.toList_some, List.reverse_append,
    history_of_get? h] at hhistory
  exact (List.cons.inj hhistory).2

/-! ## The usual windows -/

section Positions

variable {l : List V} {i : ℕ}

theorem reverse_take_succ (h : l[i]? = some v) :
    (l.take (i + 1)).reverse = v :: (l.take i).reverse := by
  rw [List.take_add_one, h, Option.toList_some, List.reverse_append]
  rfl

theorem length_take_of_getElem? (h : l[i]? = some v) : (l.take i).length = i := by
  have hi := (List.getElem?_eq_some_iff.mp h).1
  rw [List.length_take]
  omega

/-- A row number counts the current row and the earlier ones. -/
theorem rowNumber_eq (h : l[i]? = some v) :
    rowNumber l i = (v :: (l.take i).reverse).length := by
  rw [List.length_cons, List.length_reverse, length_take_of_getElem? h]
  rfl

/-- **A lag is an element of the history.** -/
theorem lag_eq (h : l[i]? = some v) (col : V → Option X) (j : ℕ) :
    lag col j l i = (v :: (l.take i).reverse)[j]?.bind col := by
  have hi := (List.getElem?_eq_some_iff.mp h).1
  have hlength : (l.take (i + 1)).length = i + 1 := by rw [List.length_take]; omega
  rw [lag, ← reverse_take_succ h]
  split_ifs with hj
  · rw [List.getElem?_reverse (by omega), hlength, List.getElem?_take_of_lt (by omega),
      show i + 1 - 1 - j = i - j by omega]
  · rw [List.getElem?_eq_none (by rw [List.length_reverse]; omega), Option.bind_none]

/-- **A frame that ends at the current row is a prefix of the history.** -/
theorem frame_eq (h : l[i]? = some v) (n : ℕ) :
    frame n 0 l i = ((v :: (l.take i).reverse).take (n + 1)).reverse := by
  have hi := (List.getElem?_eq_some_iff.mp h).1
  have hlength : (l.take (i + 1)).length = i + 1 := by rw [List.length_take]; omega
  rw [frame, Nat.sub_zero, ← reverse_take_succ h, List.reverse_take, List.reverse_reverse,
    List.length_reverse, hlength, Nat.add_sub_add_right]

/-- **A frame that ends before the current row** is a prefix of the earlier rows. -/
theorem frame_prior_eq (h : l[i]? = some v) (n : ℕ) :
    frame n 1 l i = ((l.take i).reverse.take n).reverse := by
  rw [frame, Nat.add_sub_cancel, List.reverse_take, List.reverse_reverse, List.length_reverse,
    length_take_of_getElem? h]

end Positions

/-- **A lag at a row is an element of its history.** -/
theorem lag_rank (h : t.get? k = some v) (col : V → Option X) (j : ℕ) :
    lag col j t.values (t.rank k) = (t.history k)[j]?.bind col := by
  rw [lag_eq (getElem?_rank h), reverse_take_rank_earlier h, history_of_get? h]

section Recurrences

variable {l : List V} {i : ℕ}

/-- The state of a recurrence after a row, given the earlier ones. -/
def stateAfter (init : V → S) (step : S → V → S) : V → List V → S
  | v, [] => init v
  | v, w :: rest => step (stateAfter init step w rest) v

/-- **A recurrence is a recursion on the history.** -/
theorem stateAt_eq (init : V → S) (step : S → V → S) (h : l[i]? = some v) :
    stateAt init step l i = some (stateAfter init step v (l.take i).reverse) := by
  induction i generalizing v with
  | zero =>
    rw [stateAt, h]
    rfl
  | succ i ih =>
    obtain ⟨w, hw⟩ : ∃ w, l[i]? = some w :=
      ⟨_, List.getElem?_eq_getElem (by have := (List.getElem?_eq_some_iff.mp h).1; omega)⟩
    rw [stateAt, ih hw, h, reverse_take_succ hw]
    rfl

end Recurrences

/-! ## Windows over windows -/

/-- A function of a row and the earlier ones, along a history. -/
def alongHistory (g : V → List V → W) : List V → List W
  | [] => []
  | v :: rest => g v rest :: alongHistory g rest

/-- What a function of a row and the earlier ones has some rows earlier. -/
theorem getElem?_alongHistory_eq (g : V → List V → W) (l : List V) (j : ℕ) :
    (alongHistory g l)[j]? = l[j]?.map (fun v => g v (l.drop (j + 1))) := by
  induction l generalizing j with
  | nil => rfl
  | cons v rest ih =>
    cases j with
    | zero => rfl
    | succ j => exact ih j

/-- What a function of histories has some rows earlier. -/
theorem getElem?_alongHistory (g : List V → W) (l : List V) (j : ℕ) :
    (alongHistory (fun v rest => g (v :: rest)) l)[j]?
      = if j < l.length then some (g (l.drop j)) else none := by
  induction l generalizing j with
  | nil => rfl
  | cons v rest ih =>
    cases j with
    | zero => rfl
    | succ j =>
      rw [alongHistory, List.getElem?_cons_succ, ih, List.length_cons, List.drop_succ_cons]
      simp only [Nat.add_lt_add_iff_right]

/-- **A column some rows earlier** is the same function of a shorter history. -/
theorem bind_getElem?_alongHistory {g : V → List V → W} {col : W → Option X}
    {f : List V → Option X} (hcons : ∀ v rest, col (g v rest) = f (v :: rest)) (hnil : f [] = none)
    (l : List V) (j : ℕ) : (alongHistory g l)[j]?.bind col = f (l.drop j) := by
  rw [getElem?_alongHistory_eq]
  cases hv : l[j]? with
  | none =>
    rw [List.drop_of_length_le (List.getElem?_eq_none_iff.mp hv), hnil]
    rfl
  | some v =>
    obtain ⟨hj, rfl⟩ := List.getElem?_eq_some_iff.mp hv
    rw [List.drop_eq_getElem_cons hj]
    exact hcons _ _

/-- **A window function is a function of the current row and the earlier ones.** -/
def OfHistory (f : List V → ℕ → V → W) (g : V → List V → W) : Prop :=
  ∀ (l : List V) (i : ℕ) (v : V), l[i]? = some v → f l i v = g v (l.take i).reverse

/-- **The window of a function of the current row and the earlier ones.** -/
def along (t : KeyedTable K V) (g : V → List V → W) : KeyedTable K W :=
  t.window (fun rows i v => g v (rows.take i).reverse)

section Along

variable {f : List V → ℕ → V → W} {g : V → List V → W}

theorem get?_along (t : KeyedTable K V) (g : V → List V → W) (k : K) :
    (t.along g).get? k = (t.get? k).map (fun v => g v (t.earlier k)) := by
  rw [along, get?_window]
  cases hv : t.get? k with
  | none => rfl
  | some v => rw [Option.map_some, Option.map_some, reverse_take_rank_earlier hv]

/-- **A window is such a window** if it is a function of the current row and the
earlier ones. -/
theorem window_eq_along (hf : OfHistory f g) (t : KeyedTable K V) : t.window f = t.along g := by
  ext k : 1
  rw [get?_along, get?_window]
  cases hv : t.get? k with
  | none => rfl
  | some v =>
    rw [Option.map_some, Option.map_some, hf _ _ _ (getElem?_rank hv),
      reverse_take_rank_earlier hv]

/-- **A recurrence is such a window.** -/
theorem recursive_eq_along (init : V → S) (step : S → V → S) (t : KeyedTable K V) :
    t.recursive init step = t.along (stateAfter init step) := by
  have hstate : OfHistory (fun rows i (_ : V) => stateAt init step rows i)
      (fun v rest => some (stateAfter init step v rest)) := fun l i v hv => stateAt_eq init step hv
  ext k : 1
  rw [recursive, get?_filterMap, window_eq_along hstate, get?_along, get?_along]
  cases t.get? k <;> rfl

theorem map_eq_along (t : KeyedTable K V) (f : V → W) : t.map f = t.along (fun v _ => f v) := by
  ext k : 1
  rw [get?_map, get?_along]

theorem keys_along (t : KeyedTable K V) (g : V → List V → W) : (t.along g).keys = t.keys := by
  refine keys_congr (fun k => ?_)
  rw [get?_along, Option.isSome_map]

/-- **The history of a window** is the window along the history. -/
@[simp] theorem history_along (t : KeyedTable K V) (g : V → List V → W) (k : K) :
    (t.along g).history k = alongHistory g (t.history k) := by
  have hvalues : (t.along g).values
      = t.values.mapIdx (fun i v => g v (t.values.take i).reverse) := by
    refine List.ext_getElem? (fun i => ?_)
    rw [along, values, window, List.getElem?_map, List.getElem?_mapIdx, Option.map_map,
      List.getElem?_mapIdx, values, List.getElem?_map, Option.map_map]
    rfl
  have hrows : ∀ n ≤ t.values.length,
      ((t.along g).values.take n).reverse = alongHistory g (t.values.take n).reverse := by
    intro n hn
    induction n with
    | zero => rfl
    | succ n ih =>
      have hv : t.values[n]? = some t.values[n] := List.getElem?_eq_getElem hn
      have hmap : (t.along g).values[n]? = some (g t.values[n] (t.values.take n).reverse) := by
        rw [hvalues, List.getElem?_mapIdx, hv]
        rfl
      rw [reverse_take_succ hmap, reverse_take_succ hv, alongHistory, ih (by omega)]
  have hcount : (t.along g).rows.countP (fun r => decide (r.1 ≤ k))
      = t.rows.countP (fun r => decide (r.1 ≤ k)) := by
    have hkeys := congrArg (List.countP (fun j => decide (j ≤ k))) (keys_along t g)
    rwa [keys, List.countP_map, keys, List.countP_map] at hkeys
  rw [history_eq_reverse_take, history_eq_reverse_take, hcount, hrows]
  rw [values, List.length_map]
  exact List.countP_le_length

/-- The earlier rows of a window are the window along the earlier rows. -/
theorem earlier_along {t : KeyedTable K V} {k : K} {v : V} (h : t.get? k = some v)
    (g : V → List V → W) : (t.along g).earlier k = alongHistory g (t.earlier k) := by
  have hwindow := history_along t g k
  rw [history_of_get? (get?_along t g k |>.trans (congrArg _ h)), history_of_get? h,
    alongHistory] at hwindow
  exact (List.cons.inj hwindow).2

/-- **A window over a window is a window.** -/
theorem along_along (t : KeyedTable K V) (g : V → List V → W) (h : W → List W → X) :
    (t.along g).along h = t.along (fun v rest => h (g v rest) (alongHistory g rest)) := by
  ext k : 1
  rw [get?_along, get?_along, get?_along]
  cases hv : t.get? k with
  | none => rfl
  | some v => rw [Option.map_some, Option.map_some, Option.map_some, earlier_along hv]

theorem along_map (t : KeyedTable K V) (f : V → W) (g : W → List W → X) :
    (t.map f).along g = t.along (fun v rest => g (f v) (rest.map f)) := by
  ext k : 1
  rw [get?_along, get?_along, get?_map, earlier_map]
  cases t.get? k <;> rfl

/-- Joining two windows over the same table. -/
theorem along_leftJoin_along (t : KeyedTable K V) (g : V → List V → W) (h : V → List V → X) :
    (t.along g).leftJoin (t.along h) = t.along (fun v rest => (g v rest, some (h v rest))) := by
  ext k : 1
  rw [get?_leftJoin, get?_along, get?_along, get?_along]
  cases t.get? k <;> rfl

theorem along_innerJoin_along (t : KeyedTable K V) (g : V → List V → W) (h : V → List V → X) :
    (t.along g).innerJoin (t.along h) = t.along (fun v rest => (g v rest, h v rest)) := by
  ext k : 1
  rw [get?_innerJoin, get?_along, get?_along, get?_along]
  cases t.get? k <;> rfl

end Along

/-- The rows of a history are rows of the table. -/
theorem exists_of_mem_history {t : KeyedTable K V} {k : K} {v : V} (h : v ∈ t.history k) :
    ∃ j, t.get? j = some v := by
  rw [history, List.mem_reverse, List.mem_map] at h
  obtain ⟨row, hrow, rfl⟩ := h
  exact ⟨row.1, mem_rows_iff.mp (List.mem_of_mem_filter hrow)⟩

/-- **What holds at every row, given the earlier ones, holds all along a history.** -/
theorem forall_alongHistory {t : KeyedTable K V} {P : V → List V → Prop}
    (h : ∀ j v, t.get? j = some v → P v (t.earlier j)) (k : K) :
    ∀ p ∈ alongHistory P (t.history k), p := by
  intro p hp
  rw [← history_along] at hp
  obtain ⟨j, hj⟩ := exists_of_mem_history hp
  rw [get?_along] at hj
  obtain ⟨v, hv, rfl⟩ := Option.map_eq_some_iff.mp hj
  exact h j v hv

/-- The row that a lateral lookup finds is the newest of the earlier ones. -/
theorem lastBefore_eq (t : KeyedTable K V) (k : K) : t.lastBefore k = (t.earlier k).head? := by
  rw [lastBefore, earlier, List.head?_reverse, List.getLast?_map]

/-! ## What holds of every row -/

section Every

variable {P : V → Prop} {Q : W → Prop}

/-- **A property of every row.** -/
def Every (P : V → Prop) (t : KeyedTable K V) : Prop := ∀ k v, t.get? k = some v → P v

theorem Every.of_mem_values {t : KeyedTable K V} (h : t.Every P) {v : V} (hv : v ∈ t.values) :
    P v := by
  obtain ⟨row, hrow, rfl⟩ := List.mem_map.mp hv
  exact h row.1 row.2 (mem_rows_iff.mp hrow)

theorem Every.filterMap {t : KeyedTable K V} (h : t.Every P) {f : K → V → Option W}
    (hf : ∀ k v w, P v → f k v = some w → Q w) : (t.filterMap f).Every Q := by
  intro k w hw
  rw [get?_filterMap] at hw
  obtain ⟨v, hv, hw⟩ := Option.bind_eq_some_iff.mp hw
  exact hf k v w (h k v hv) hw

theorem Every.map {t : KeyedTable K V} (h : t.Every P) {f : V → W} (hf : ∀ v, P v → Q (f v)) :
    (t.map f).Every Q := by
  intro k w hw
  rw [get?_map] at hw
  obtain ⟨v, hv, rfl⟩ := Option.map_eq_some_iff.mp hw
  exact hf v (h k v hv)

/-- A window function computes from rows that all have the property. -/
theorem Every.window {t : KeyedTable K V} (h : t.Every P) {f : List V → ℕ → V → W}
    (hf : ∀ rows i v, (∀ r ∈ rows, P r) → P v → Q (f rows i v)) : (t.window f).Every Q := by
  intro k w hw
  rw [get?_window] at hw
  obtain ⟨v, hv, rfl⟩ := Option.map_eq_some_iff.mp hw
  exact hf _ _ v (fun _ hr => h.of_mem_values hr) (h k v hv)

/-- **An invariant of a recurrence** holds in the state of every row. -/
theorem Every.recursive {t : KeyedTable K V} (h : t.Every P) {init : V → W} {step : W → V → W}
    (hinit : ∀ v, P v → Q (init v)) (hstep : ∀ s v, Q s → P v → Q (step s v)) :
    (t.recursive init step).Every Q := by
  have hstate : ∀ i s, stateAt init step t.values i = some s → Q s := by
    intro i
    induction i with
    | zero =>
      intro s hs
      obtain ⟨v, hv, rfl⟩ := Option.map_eq_some_iff.mp hs
      exact hinit v (h.of_mem_values (List.mem_of_getElem? hv))
    | succ i ih =>
      intro s hs
      obtain ⟨previous, hprevious, hs⟩ := Option.bind_eq_some_iff.mp hs
      obtain ⟨v, hv, rfl⟩ := Option.map_eq_some_iff.mp hs
      exact hstep previous v (ih previous hprevious) (h.of_mem_values (List.mem_of_getElem? hv))
  intro k s hs
  rw [KeyedTable.recursive, get?_filterMap, get?_window] at hs
  obtain ⟨state, hstateAt, rfl⟩ := Option.bind_eq_some_iff.mp hs
  obtain ⟨v, -, hv⟩ := Option.map_eq_some_iff.mp hstateAt
  exact hstate _ _ hv

theorem Every.leftJoin {a : KeyedTable K V} {b : KeyedTable K W} (ha : a.Every P)
    (hb : b.Every Q) : (a.leftJoin b).Every (fun r => P r.1 ∧ ∀ w, r.2 = some w → Q w) := by
  intro k r hr
  rw [get?_leftJoin] at hr
  obtain ⟨v, hv, rfl⟩ := Option.map_eq_some_iff.mp hr
  exact ⟨ha k v hv, fun w hw => hb k w hw⟩

theorem Every.leftJoinFamily {ι : Type} {a : KeyedTable K V} {b : ι → KeyedTable K W}
    {Q : ι → W → Prop} (ha : a.Every P) (hb : ∀ i, (b i).Every (Q i)) :
    (a.leftJoinFamily b).Every (fun r => P r.1 ∧ ∀ i w, r.2 i = some w → Q i w) := by
  intro k r hr
  rw [get?_leftJoinFamily] at hr
  obtain ⟨v, hv, rfl⟩ := Option.map_eq_some_iff.mp hr
  exact ⟨ha k v hv, fun i w hw => hb i k w hw⟩

theorem Every.innerJoin {a : KeyedTable K V} {b : KeyedTable K W} (ha : a.Every P)
    (hb : b.Every Q) : (a.innerJoin b).Every (fun r => P r.1 ∧ Q r.2) := by
  intro k r hr
  rw [get?_innerJoin] at hr
  obtain ⟨v, hv, hr⟩ := Option.bind_eq_some_iff.mp hr
  obtain ⟨w, hw, rfl⟩ := Option.map_eq_some_iff.mp hr
  exact ⟨ha k v hv, hb k w hw⟩

theorem Every.lateralJoin {a : KeyedTable K V} {b : KeyedTable K W} (ha : a.Every P)
    (hb : b.Every Q) : (a.lateralJoin b).Every (fun r => P r.1 ∧ ∀ w, r.2 = some w → Q w) := by
  refine ha.filterMap (fun k v r hv hr => ?_)
  obtain rfl := Option.some.inj hr
  refine ⟨hv, fun w hw => ?_⟩
  rw [lastBefore_eq] at hw
  obtain ⟨row, hrow, rfl⟩ := List.mem_map.mp (List.mem_reverse.mp (List.mem_of_mem_head? hw))
  exact hb row.1 row.2 (mem_rows_iff.mp (List.mem_of_mem_filter hrow))

omit [LinearOrder K] in
/-- What a lag returns is in one of the rows. -/
theorem exists_of_lag {col : V → Option X} {k : ℕ} {rows : List V} {i : ℕ} {x : X}
    (h : lag col k rows i = some x) : ∃ r ∈ rows, col r = some x := by
  rw [lag] at h
  split_ifs at h with hk
  obtain ⟨r, hr, hx⟩ := Option.bind_eq_some_iff.mp h
  exact ⟨r, List.mem_of_getElem? hr, hx⟩

omit [LinearOrder K] in
theorem mem_of_mem_frame {start stop i : ℕ} {rows : List V} {r : V}
    (h : r ∈ frame start stop rows i) : r ∈ rows :=
  List.mem_of_mem_take (List.mem_of_mem_drop h)

end Every

end KeyedTable
