import MacroLoader.GoldFrameAssembly

/-!
# The outer join, point by point

A frame whose timestamps are distinct and not null is a partial function from
instants to rows, and a full join of two such frames is again one (`HoldsAt`). So
what the chain of joins computes can be said at one instant at a time: there is a
row if some series has one, and a cell is that of its own series
(`holdsAt_joinFrames`). Nothing in that depends on the order of the chain, and the
sort that follows it makes the frame itself independent of it.

A row without a date joins with nothing and stays in the join until it is refused,
which is why a null date is noticed although no series is asked for one.
-/

/-! ## Frames as partial functions -/

/-- **A frame that has a row at an instant exactly where a partial function is
defined**, and no other rows. -/
structure HoldsAt (frame : List FrameRow) (rowAt : Timestamp → Option (WideRow Float64)) :
    Prop where
  mem : ∀ row, row ∈ frame ↔ ∃ t, row.1 = some t ∧ rowAt t = some row.2
  nodup : (frame.map Prod.fst).Nodup

/-- What two joined frames have at an instant. -/
def joinRow : Option (WideRow Float64) → Option (WideRow Float64) → Option (WideRow Float64)
  | some left, some right => some (overlay left right)
  | some left, none => some left
  | none, right => right

section Join

variable {left right : List FrameRow} {leftAt rightAt : Timestamp → Option (WideRow Float64)}

theorem HoldsAt.mem_some (h : HoldsAt left leftAt) {t : Timestamp} {cells : WideRow Float64} :
    (some t, cells) ∈ left ↔ leftAt t = some cells := by
  rw [h.mem]
  exact ⟨fun ⟨t', ht, hrow⟩ => Option.some.inj ht ▸ hrow, fun hrow => ⟨t, rfl, hrow⟩⟩

/-- The rows that join with a row are the one at its instant. -/
theorem HoldsAt.filter_joins (h : HoldsAt right rightAt) (t : Timestamp)
    (cells : WideRow Float64) :
    right.filter (joins (some t, cells) ·) = ((rightAt t).map (fun row => (some t, row))).toList := by
  have hnodup : right.Nodup := List.Nodup.of_map _ h.nodup
  have hmem : ∀ row, row ∈ right.filter (joins (some t, cells) ·)
      ↔ row ∈ ((rightAt t).map (fun row => (some t, row))).toList := by
    rintro ⟨key, row⟩
    rw [List.mem_filter, Option.mem_toList, Option.map_eq_some_iff]
    constructor
    · rintro ⟨hrow, hjoins⟩
      have hkey : some t = key := by simpa [joins] using hjoins
      subst hkey
      exact ⟨row, h.mem_some.mp hrow, rfl⟩
    · rintro ⟨row', hrow', heq⟩
      cases heq
      exact ⟨h.mem_some.mpr hrow', by simp [joins]⟩
  have hperm := (List.perm_ext_iff_of_nodup (hnodup.filter _)
    (Option.toList_nodup _)).mpr hmem
  cases hrow : rightAt t with
  | none =>
    rw [hrow] at hperm
    exact hperm.eq_nil
  | some row =>
    rw [hrow] at hperm
    exact hperm.eq_singleton

/-- What a row of the left frame becomes in a full join. -/
def matchedRows (right : List FrameRow) (row : FrameRow) : List FrameRow :=
  match right.filter (joins row ·) with
  | [] => [row]
  | found => found.map (fun r => (row.1, overlay row.2 r.2))

theorem HoldsAt.exists_matchedRows (h : HoldsAt right rightAt) (t : Timestamp)
    (cells : WideRow Float64) :
    ∃ joined, joinRow (some cells) (rightAt t) = some joined
      ∧ matchedRows right (some t, cells) = [(some t, joined)] := by
  rw [matchedRows, h.filter_joins]
  cases rightAt t with
  | none => exact ⟨cells, rfl, rfl⟩
  | some row => exact ⟨overlay cells row, rfl, rfl⟩

/-- The instant of a row of the right frame is not on the left. -/
theorem HoldsAt.any_joins (h : HoldsAt left leftAt) (t : Timestamp) (cells : WideRow Float64) :
    left.any (joins · (some t, cells)) = (leftAt t).isSome := by
  rw [Bool.eq_iff_iff, List.any_eq_true, Option.isSome_iff_exists]
  constructor
  · rintro ⟨⟨key, row⟩, hrow, hjoins⟩
    simp only [joins, Bool.and_eq_true, beq_iff_eq] at hjoins
    obtain rfl : key = some t := hjoins.2
    exact ⟨row, h.mem_some.mp hrow⟩
  · rintro ⟨row, hrow⟩
    exact ⟨(some t, row), h.mem_some.mpr hrow, by simp [joins]⟩

/-- **A full join of two partial functions is one.** -/
theorem HoldsAt.join (hl : HoldsAt left leftAt) (hr : HoldsAt right rightAt) :
    HoldsAt (fullJoin left right) (fun t => joinRow (leftAt t) (rightAt t)) where
  mem row := by
    show row ∈ left.flatMap (matchedRows right)
      ++ right.filter (fun r => !left.any (joins · r)) ↔ _
    rw [List.mem_append, List.mem_flatMap, List.mem_filter]
    constructor
    · rintro (⟨⟨key, cells⟩, hcells, hrow⟩ | ⟨hrow, hunmatched⟩)
      · obtain ⟨t, rfl, hleft⟩ := (hl.mem _).mp hcells
        obtain ⟨joined, hjoined, hmatched⟩ := hr.exists_matchedRows t cells
        rw [hmatched, List.mem_singleton] at hrow
        subst hrow
        exact ⟨t, rfl, by rw [hleft]; exact hjoined⟩
      · obtain ⟨key, cells⟩ := row
        obtain ⟨t, rfl, hright⟩ := (hr.mem _).mp hrow
        rw [hl.any_joins, Bool.not_eq_true', Option.isSome_eq_false_iff,
          Option.isNone_iff_eq_none] at hunmatched
        exact ⟨t, rfl, by rw [hunmatched, hright]; rfl⟩
    · obtain ⟨key, cells⟩ := row
      rintro ⟨t, rfl, hrow⟩
      cases hleft : leftAt t with
      | none =>
        rw [hleft] at hrow
        refine .inr ⟨hr.mem_some.mpr hrow, ?_⟩
        rw [hl.any_joins, hleft]
        rfl
      | some left =>
        rw [hleft] at hrow
        obtain ⟨joined, hjoined, hmatched⟩ := hr.exists_matchedRows t left
        refine .inl ⟨(some t, left), hl.mem_some.mpr hleft, ?_⟩
        obtain rfl : joined = cells := Option.some.inj (hjoined.symm.trans hrow)
        rw [hmatched, List.mem_singleton]
  nodup := by
    show (left.flatMap (matchedRows right)
      ++ right.filter (fun r => !left.any (joins · r))).map Prod.fst |>.Nodup
    have hkeys : (left.flatMap (matchedRows right)).map Prod.fst = left.map Prod.fst := by
      rw [List.map_flatMap, List.map_eq_flatMap]
      refine List.flatMap_congr (fun row hrow => ?_)
      obtain ⟨key, cells⟩ := row
      obtain ⟨t, rfl, -⟩ := (hl.mem _).mp hrow
      obtain ⟨joined, -, hmatched⟩ := hr.exists_matchedRows t cells
      rw [hmatched]
      rfl
    rw [List.map_append, hkeys]
    refine List.Nodup.append hl.nodup (hr.nodup.sublist (List.filter_sublist.map Prod.fst)) ?_
    -- an instant of the left frame is not among the unmatched ones of the right
    intro key hkey hkey'
    obtain ⟨row, hrow, rfl⟩ := List.mem_map.mp hkey
    obtain ⟨⟨key', cells⟩, hrow', heq⟩ := List.mem_map.mp hkey'
    obtain ⟨t, ht, hleft⟩ := (hl.mem _).mp hrow
    rw [List.mem_filter] at hrow'
    obtain rfl : key' = some t := heq.trans ht
    rw [hl.any_joins, hleft] at hrow'
    cases hrow'.2

end Join

/-! ## The chain of joins -/

/-- The rows of one series, by instant, fill the columns of that series only. -/
def FillsOnly (s : Series) (rowAt : Timestamp → Option (WideRow Float64)) : Prop :=
  ∀ t cells, rowAt t = some cells → ∀ c, c.series ≠ s → cells c = none

/-- **What the outer join of some series has at an instant**: a row if one of them has
one, and in each column the cell of its own series. -/
def joinedRow (order : List Series)
    (rowAt : Series → Timestamp → Option (WideRow Float64)) (t : Timestamp) :
    Option (WideRow Float64) :=
  if ∃ s ∈ order, (rowAt s t).isSome then
    some (fun c => if c.series ∈ order then (rowAt c.series t).bind (· c) else none)
  else none

section Chain

variable {rowAt : Series → Timestamp → Option (WideRow Float64)}

/-- Joining in one more series. -/
theorem joinRow_joinedRow (hfills : ∀ s, FillsOnly s (rowAt s)) {done : List Series} {s : Series}
    (hs : s ∉ done) (t : Timestamp) :
    joinRow (joinedRow done rowAt t) (rowAt s t) = joinedRow (done ++ [s]) rowAt t := by
  have hmem : ∀ s', s' ∈ done ++ [s] ↔ s' ∈ done ∨ s' = s := fun s' => by
    rw [List.mem_append, List.mem_singleton]
  cases hrow : rowAt s t with
  | none =>
    have hexists : (∃ s' ∈ done ++ [s], (rowAt s' t).isSome)
        ↔ ∃ s' ∈ done, (rowAt s' t).isSome := by
      constructor
      · rintro ⟨s', hs', hsome⟩
        rcases (hmem s').mp hs' with hs' | rfl
        · exact ⟨s', hs', hsome⟩
        · rw [hrow] at hsome
          cases hsome
      · exact fun ⟨s', hs', hsome⟩ => ⟨s', (hmem s').mpr (.inl hs'), hsome⟩
    have hcells : ∀ c : GoldColumn,
        (if c.series ∈ done ++ [s] then (rowAt c.series t).bind (· c) else none)
          = if c.series ∈ done then (rowAt c.series t).bind (· c) else none := by
      intro c
      by_cases hc : c.series = s
      · rw [if_pos ((hmem _).mpr (.inr hc)), if_neg (hc ▸ hs), hc, hrow]
        rfl
      · simp only [hmem, hc, or_false]
    unfold joinedRow
    simp only [hexists, hcells]
    split_ifs <;> rfl
  | some cells =>
    have hexists : ∃ s' ∈ done ++ [s], (rowAt s' t).isSome :=
      ⟨s, (hmem s).mpr (.inr rfl), by rw [hrow]; rfl⟩
    have hcell : ∀ c : GoldColumn,
        (if c.series ∈ done ++ [s] then (rowAt c.series t).bind (· c) else none)
          = (cells c).or (if c.series ∈ done then (rowAt c.series t).bind (· c) else none) := by
      intro c
      by_cases hc : c.series = s
      · rw [if_pos ((hmem _).mpr (.inr hc)), if_neg (hc ▸ hs), hc, hrow, Option.or_none]
        rfl
      · rw [hfills s t cells hrow c hc, Option.none_or]
        simp only [hmem, hc, or_false]
    unfold joinedRow
    rw [if_pos hexists]
    split_ifs with hdone
    · exact congrArg some (funext (fun c => (hcell c).symm))
    · -- no series joined so far has a row at the instant
      refine congrArg some (funext (fun c => ?_))
      have hnone : (if c.series ∈ done then (rowAt c.series t).bind (· c) else none) = none := by
        split_ifs with hc
        · have habsent : rowAt c.series t = none := by
            simpa using fun h => hdone ⟨c.series, hc, h⟩
          rw [habsent]
          rfl
        · rfl
      rw [hcell c, hnone, Option.or_none]

/-- **The chain of joins is the outer join**, whatever the order of the chain. -/
theorem holdsAt_joinFrames (hfills : ∀ s, FillsOnly s (rowAt s)) {order : List Series}
    {frames : List (List FrameRow)} (hne : order ≠ []) (hnodup : order.Nodup)
    (hframes : List.Forall₂ (fun s frame => HoldsAt frame (rowAt s)) order frames) :
    HoldsAt (joinFrames frames) (joinedRow order rowAt) := by
  have hfold : ∀ (rest : List Series) (frames : List (List FrameRow)) (done : List Series)
      (acc : List FrameRow), (done ++ rest).Nodup →
      List.Forall₂ (fun s frame => HoldsAt frame (rowAt s)) rest frames →
      HoldsAt acc (joinedRow done rowAt) →
      HoldsAt (frames.foldl fullJoin acc) (joinedRow (done ++ rest) rowAt) := by
    intro rest frames done acc hnodup hframes hacc
    induction hframes generalizing done acc with
    | nil => rwa [List.append_nil]
    | @cons s frame rest frames hframe _ ih =>
      rw [List.append_cons] at hnodup ⊢
      refine ih _ _ hnodup ?_
      have hs : s ∉ done := fun hmem => by
        have hdisjoint := (List.nodup_append.mp (List.Nodup.of_append_left hnodup)).2.2
        exact hdisjoint s hmem s (List.mem_singleton_self s) rfl
      have hjoined := hacc.join hframe
      rwa [funext (joinRow_joinedRow hfills hs)] at hjoined
  cases hframes with
  | nil => exact absurd rfl hne
  | @cons s frame rest frames hframe hrest =>
    refine hfold rest frames [s] frame hnodup hrest ?_
    have hsingle : joinedRow [s] rowAt = rowAt s := by
      funext t
      have hjoin := joinRow_joinedRow hfills (List.not_mem_nil (a := s)) t
      rw [List.nil_append] at hjoin
      rw [← hjoin, joinedRow, if_neg (by simp)]
      rfl
    rwa [hsingle]

end Chain

/-! ## The sort -/

theorem dateLE_total (a b : Option Date) : dateLE a b = true ∨ dateLE b a = true := by
  cases a <;> cases b <;> simp [dateLE, Int.le_total]

theorem dateLE_trans {a b c : Option Date} (h : dateLE a b = true) (h' : dateLE b c = true) :
    dateLE a c = true := by
  cases a <;> cases b <;> cases c <;> simp_all [dateLE]
  exact h.trans h'

/-- A row that comes before another in timestamp order. -/
def Before {X : Type} (row row' : Option Timestamp × X) : Prop :=
  ∃ t ∈ row.1, ∃ t' ∈ row'.1, t < t'

theorem Before.asymm {X : Type} {a b : Option Timestamp × X} (h : Before a b) : ¬ Before b a := by
  obtain ⟨t, ht, t', ht', hlt⟩ := h
  rintro ⟨s, hs, s', hs', hlt'⟩
  obtain rfl : t' = s := Option.some.inj (ht'.symm.trans hs)
  obtain rfl : t = s' := Option.some.inj (ht.symm.trans hs')
  exact absurd (hlt.trans hlt') (lt_irrefl _)

/-- **Rows in timestamp order are determined by which they are.** -/
theorem eq_of_pairwise_before {X : Type} {l l' : List (Option Timestamp × X)}
    (hl : l.Pairwise Before) (hl' : l'.Pairwise Before) (h : ∀ row, row ∈ l ↔ row ∈ l') :
    l = l' := by
  have hnodup : ∀ {m : List (Option Timestamp × X)}, m.Pairwise Before → m.Nodup := by
    intro m hm
    refine List.Pairwise.imp (fun {a b} hab heq => ?_) hm
    subst heq
    exact hab.asymm hab
  refine ((List.perm_ext_iff_of_nodup (hnodup hl) (hnodup hl')).mpr h).eq_of_pairwise
    (fun a b _ _ hab hba => absurd hba hab.asymm) hl hl'

section InOrder

variable {frame frame' : List FrameRow} {rowAt : Timestamp → Option (WideRow Float64)}

theorem HoldsAt.of_perm (h : HoldsAt frame rowAt) (hperm : frame'.Perm frame) :
    HoldsAt frame' rowAt where
  mem row := by rw [hperm.mem_iff, h.mem]
  nodup := (hperm.map Prod.fst).nodup_iff.mpr h.nodup

theorem HoldsAt.sort (h : HoldsAt frame rowAt) : HoldsAt (sortJoined frame) rowAt :=
  h.of_perm (List.perm_insertionSort _ _)

/-- **The sorted frame is in timestamp order.** -/
theorem HoldsAt.pairwise_sort (h : HoldsAt frame rowAt) :
    (sortJoined frame).Pairwise Before := by
  have : Std.Total (fun a b : FrameRow => dateLE a.1 b.1 = true) := ⟨fun a b => dateLE_total _ _⟩
  have : IsTrans FrameRow (fun a b : FrameRow => dateLE a.1 b.1 = true) :=
    ⟨fun _ _ _ => dateLE_trans⟩
  have hle : (sortJoined frame).Pairwise (fun a b => dateLE a.1 b.1 = true) :=
    List.pairwise_insertionSort _ _
  have hne : (sortJoined frame).Pairwise (fun a b => a.1 ≠ b.1) :=
    List.pairwise_map.mp h.sort.nodup
  refine (hle.and hne).imp_of_mem (fun {a b} ha hb hab => ?_)
  obtain ⟨t, ht, -⟩ := (h.sort.mem a).mp ha
  obtain ⟨t', ht', -⟩ := (h.sort.mem b).mp hb
  refine ⟨t, ht, t', ht', lt_of_le_of_ne ?_ (fun heq => hab.2 (by rw [ht, ht', heq]))⟩
  have hdate := hab.1
  rw [ht, ht'] at hdate
  exact of_decide_eq_true hdate

theorem HoldsAt.eq_of_pairwise (h : HoldsAt frame rowAt) (h' : HoldsAt frame' rowAt)
    (hsorted : frame.Pairwise Before) (hsorted' : frame'.Pairwise Before) : frame = frame' :=
  eq_of_pairwise_before hsorted hsorted' (fun row => by rw [h.mem, h'.mem])

end InOrder

/-! ## What a valid series fills in -/

/-- **A frame that can be joined as that of a series.** -/
structure IsJoinable (s : Series) (frame : SilverFrame) : Prop where
  schema : frame.hasSilverSchema = true
  identity : ∀ r ∈ frame.rows, r.seriesId = some s.id
  value : ∀ r ∈ frame.rows, ∃ x, r.value = some x ∧ x.isFinite = true
  /-- Every date is one, and one that Python can hold. -/
  date : ∀ r ∈ frame.rows, ∃ d, r.observationDate = some d ∧ dateMin ≤ d ∧ d ≤ dateMax
  unique : (frame.rows.map (·.observationDate)).Nodup

/-- **A Silver frame of a series**, as Gold is to be given one. -/
structure IsSilverOf (s : Series) (frame : SilverFrame) : Prop extends IsJoinable s frame where
  /-- A field of a bar is not infinite. -/
  bar : s.nativeShape = .ohlc → ∀ r ∈ frame.rows, ∀ f, ∀ x ∈ r.bar f,
    x.isFinite = true ∨ x.isNaN = true

/-- The row of a series at an instant. -/
def silverRowAt (frame : SilverFrame) (t : Timestamp) : Option SilverRow :=
  frame.rows.find? (fun r => r.observationDate.map instantOfDate == some t)

/-- The cells that a series has at an instant. -/
def silverCellsAt (silver : Series → SilverFrame) (s : Series) (t : Timestamp) :
    Option (WideRow Float64) := (silverRowAt (silver s) t).map (seriesCells s)

theorem fillsOnly_silverCellsAt (silver : Series → SilverFrame) (s : Series) :
    FillsOnly s (silverCellsAt silver s) := by
  intro t cells hcells c hc
  obtain ⟨r, -, rfl⟩ := Option.map_eq_some_iff.mp hcells
  exact if_neg hc

theorem instantOfDate_injective : Function.Injective instantOfDate := by
  intro a b h
  have hne : dayMicroseconds ≠ 0 := by decide
  exact mul_right_cancel₀ hne h

section Valid

variable {s : Series} {frame : SilverFrame}

/-- **A frame that can be joined passes validation.** -/
theorem IsJoinable.validateSilver_eq (h : IsJoinable s frame) :
    validateSilver s.id frame = .ok frame.sorted := by
  have hvalue : ∀ r ∈ frame.rows, r.value.isSome = true ∧ r.value.all (·.isFinite) = true := by
    intro r hr
    obtain ⟨x, hx, hfinite⟩ := h.value r hr
    rw [hx]
    exact ⟨rfl, hfinite⟩
  refine bind_eq_ok.mpr ⟨(), check_eq_ok.mpr h.schema, bind_eq_ok.mpr
    ⟨(), check_eq_ok.mpr h.identity, bind_eq_ok.mpr
      ⟨(), check_eq_ok.mpr (fun r hr => (hvalue r hr).1), bind_eq_ok.mpr
        ⟨(), check_eq_ok.mpr (fun r hr => (hvalue r hr).2), bind_eq_ok.mpr
          ⟨(), check_eq_ok.mpr h.unique, rfl⟩⟩⟩⟩⟩

theorem IsJoinable.silverRowAt_eq_some (h : IsJoinable s frame) {t : Timestamp} {r : SilverRow} :
    silverRowAt frame t = some r
      ↔ r ∈ frame.rows ∧ r.observationDate.map instantOfDate = some t := by
  constructor
  · intro hr
    exact ⟨List.mem_of_find?_eq_some hr, by simpa using List.find?_some hr⟩
  · rintro ⟨hr, hdate⟩
    cases hfound : silverRowAt frame t with
    | none => exact absurd hdate (by simpa using List.find?_eq_none.mp hfound r hr)
    | some r' =>
      have hdate' : r'.observationDate.map instantOfDate = some t := by
        simpa using List.find?_some hfound
      have heq : r'.observationDate = r.observationDate :=
        Option.map_injective instantOfDate_injective (hdate'.trans hdate.symm)
      rw [List.inj_on_of_nodup_map h.unique (List.mem_of_find?_eq_some hfound) hr heq]

theorem mem_sorted {r : SilverRow} : r ∈ frame.sorted ↔ r ∈ frame.rows :=
  (List.perm_insertionSort _ frame.rows).mem_iff

theorem IsJoinable.nodup_sorted (h : IsJoinable s frame) :
    (frame.sorted.map (·.observationDate)).Nodup :=
  ((List.perm_insertionSort _ frame.rows).map _).nodup_iff.mpr h.unique

/-- **The frame of a valid series is the partial function of its rows.** -/
theorem IsJoinable.exists_seriesFrame {silver : Series → SilverFrame}
    (h : IsJoinable s (silver s)) :
    ∃ rows, seriesFrame (fun s => some (silver s)) s = .ok rows
      ∧ HoldsAt rows (silverCellsAt silver s) := by
  refine ⟨_, bind_eq_ok.mpr ⟨_, h.validateSilver_eq, rfl⟩, ⟨fun row => ?_, ?_⟩⟩
  · rw [List.mem_map]
    constructor
    · rintro ⟨r, hr, rfl⟩
      obtain ⟨d, hd, -⟩ := h.date r (mem_sorted.mp hr)
      refine ⟨instantOfDate d, by rw [hd]; rfl, ?_⟩
      rw [silverCellsAt, h.silverRowAt_eq_some.mpr ⟨mem_sorted.mp hr, by rw [hd]; rfl⟩]
      rfl
    · rintro ⟨t, ht, hcells⟩
      obtain ⟨r, hr, hrow⟩ := Option.map_eq_some_iff.mp hcells
      obtain ⟨hmem, hdate⟩ := h.silverRowAt_eq_some.mp hr
      exact ⟨r, mem_sorted.mpr hmem, Prod.ext (hdate.trans ht.symm) hrow⟩
  · rw [List.map_map]
    show (List.map (Option.map instantOfDate ∘ fun r : SilverRow => r.observationDate) _).Nodup
    rw [← List.map_map]
    exact List.Nodup.map (Option.map_injective instantOfDate_injective) h.nodup_sorted

end Valid

/-! ## The assembled rows -/

/-- The rows that assembly makes of some series, joined in a given order. -/
def assembleRows (order : List Series) (silverBySeries : Series → Option SilverFrame) :
    Except PyError (List FrameRow) := do
  let frames ← order.mapM (seriesFrame silverBySeries)
  return (sortJoined (joinFrames frames)).map (fun row => (row.1, fillNan row.2))

/-- **The pointwise outer join of some series.** -/
structure IsOuterJoin (silver : Series → SilverFrame) (order : List Series)
    (rows : List FrameRow) : Prop where
  /-- One row for each date of a series, in increasing order. -/
  increasing : rows.Pairwise Before
  dates : ∀ key, key ∈ rows.map Prod.fst ↔ ∃ s ∈ order, ∃ r ∈ (silver s).rows,
    r.observationDate.isSome = true ∧ r.observationDate.map instantOfDate = key
  /-- Where a series has a row, its columns have the values of that row; a field that is
  no number reads as null. -/
  present : ∀ row ∈ rows, ∀ s ∈ order, ∀ r ∈ (silver s).rows,
    r.observationDate.map instantOfDate = row.1 →
      row.2 (.level s) = r.value
        ∧ ∀ hshape f, row.2 (.bar s hshape f) = (r.bar f).filter (fun x => !x.isNaN)
  /-- Where it has none, they are null. -/
  absent : ∀ row ∈ rows, ∀ s ∈ order,
    (∀ r ∈ (silver s).rows, r.observationDate.map instantOfDate ≠ row.1) →
      ∀ c : GoldColumn, c.series = s → row.2 c = none
  /-- The level column without its nulls is the series. -/
  level : ∀ s ∈ order, rows.filterMap (fun row => (row.2 (.level s)).map (fun x => (row.1, x)))
    = (silver s).sorted.filterMap
      (fun r => r.value.map (fun x => (r.observationDate.map instantOfDate, x)))

section Assembled

variable {silver : Series → SilverFrame} {order : List Series} {rows : List FrameRow}

/-- What assembly has at an instant. -/
def assembledAt (silver : Series → SilverFrame) (order : List Series) (t : Timestamp) :
    Option (WideRow Float64) := (joinedRow order (silverCellsAt silver) t).map fillNan

theorem HoldsAt.map_fillNan {frame : List FrameRow} {rowAt : Timestamp → Option (WideRow Float64)}
    (h : HoldsAt frame rowAt) :
    HoldsAt (frame.map (fun row => (row.1, fillNan row.2))) (fun t => (rowAt t).map fillNan) where
  mem row := by
    rw [List.mem_map]
    constructor
    · rintro ⟨row, hrow, rfl⟩
      obtain ⟨t, ht, hcells⟩ := (h.mem row).mp hrow
      exact ⟨t, ht, by rw [hcells]; rfl⟩
    · rintro ⟨t, ht, hcells⟩
      obtain ⟨cells, hcells, heq⟩ := Option.map_eq_some_iff.mp hcells
      exact ⟨(some t, cells), h.mem_some.mpr hcells, Prod.ext ht.symm heq⟩
  nodup := by rw [List.map_map]; exact h.nodup

/-- **Valid series are assembled**, in any order, into what they have at each
instant. -/
theorem exists_assembleRows (hvalid : ∀ s ∈ order, IsJoinable s (silver s)) (hne : order ≠ [])
    (hnodup : order.Nodup) :
    ∃ rows, assembleRows order (fun s => some (silver s)) = .ok rows
      ∧ HoldsAt rows (assembledAt silver order) ∧ rows.Pairwise Before := by
  obtain ⟨frames, hframes, hholds⟩ := exists_mapM_eq_ok
    (fun s hs => (hvalid s hs).exists_seriesFrame)
  have hjoined := holdsAt_joinFrames (fillsOnly_silverCellsAt silver) hne hnodup hholds
  refine ⟨_, bind_eq_ok.mpr ⟨frames, hframes, rfl⟩, hjoined.sort.map_fillNan, ?_⟩
  exact List.pairwise_map.mpr hjoined.pairwise_sort

/-- The order in which series are joined does not matter to what they have. -/
theorem assembledAt_perm {order' : List Series} (hperm : order'.Perm order) :
    assembledAt silver order' = assembledAt silver order := by
  funext t
  simp only [assembledAt, joinedRow, hperm.mem_iff]

end Assembled

section Pointwise

variable {silver : Series → SilverFrame} {order : List Series} {rows : List FrameRow}

/-- **A cell of the assembled rows** is that of its series at the instant of the row. -/
theorem cell_of_holdsAt (h : HoldsAt rows (assembledAt silver order)) {row : FrameRow}
    (hrow : row ∈ rows) {t : Timestamp} (ht : row.1 = some t) {c : GoldColumn}
    (hc : c.series ∈ order) :
    row.2 c = ((silverRowAt (silver c.series) t).bind (fun r => seriesCells c.series r c)).filter
      (fun x => !x.isNaN) := by
  obtain ⟨t', ht', hcells⟩ := (h.mem row).mp hrow
  obtain rfl : t = t' := Option.some.inj (ht.symm.trans ht')
  obtain ⟨cells, hjoined, hfill⟩ := Option.map_eq_some_iff.mp hcells
  unfold joinedRow at hjoined
  split_ifs at hjoined
  rw [← hfill, fillNan, ← Option.some.inj hjoined]
  dsimp only
  rw [if_pos hc, silverCellsAt, Option.bind_map]
  rfl

theorem isSome_assembledAt_iff (t : Timestamp) :
    (assembledAt silver order t).isSome ↔ ∃ s ∈ order, (silverRowAt (silver s) t).isSome := by
  rw [assembledAt, Option.isSome_map, joinedRow]
  simp only [silverCellsAt, Option.isSome_map]
  split_ifs with h <;> simp [h]

/-- The level of a row of a series is not lost with the values that are no numbers. -/
theorem IsJoinable.filter_value {s : Series} {frame : SilverFrame} (h : IsJoinable s frame)
    {r : SilverRow} (hr : r ∈ frame.rows) :
    (seriesCells s r (.level s)).filter (fun x => !x.isNaN) = r.value := by
  obtain ⟨x, hx, hfinite⟩ := h.value r hr
  have hcell : seriesCells s r (.level s) = r.value := if_pos rfl
  rw [hcell, hx, Option.filter_some, Float64.not_isNaN_of_isFinite hfinite]
  rfl

theorem IsJoinable.pairwise_sorted {s : Series} {frame : SilverFrame} (h : IsJoinable s frame) :
    frame.sorted.Pairwise (fun a b => ∃ d ∈ a.observationDate, ∃ d' ∈ b.observationDate, d < d') := by
  have : Std.Total (fun a b : SilverRow => dateLE a.observationDate b.observationDate = true) :=
    ⟨fun a b => dateLE_total _ _⟩
  have : IsTrans SilverRow
      (fun a b : SilverRow => dateLE a.observationDate b.observationDate = true) :=
    ⟨fun _ _ _ => dateLE_trans⟩
  have hle : frame.sorted.Pairwise
      (fun a b => dateLE a.observationDate b.observationDate = true) :=
    List.pairwise_insertionSort _ _
  have hne : frame.sorted.Pairwise (fun a b => a.observationDate ≠ b.observationDate) :=
    List.pairwise_map.mp h.nodup_sorted
  refine (hle.and hne).imp_of_mem (fun {a b} ha hb hab => ?_)
  obtain ⟨d, hd, -⟩ := h.date a (mem_sorted.mp ha)
  obtain ⟨d', hd', -⟩ := h.date b (mem_sorted.mp hb)
  refine ⟨d, hd, d', hd', lt_of_le_of_ne ?_ (fun heq => hab.2 (by rw [hd, hd', heq]))⟩
  have hdate := hab.1
  rw [hd, hd'] at hdate
  exact of_decide_eq_true hdate

theorem instantOfDate_lt {d d' : Date} (h : d < d') : instantOfDate d < instantOfDate d' :=
  mul_lt_mul_of_pos_right h (by decide)

/-- **The assembled rows are the pointwise outer join.** -/
theorem isOuterJoin_of_holdsAt (hvalid : ∀ s ∈ order, IsJoinable s (silver s))
    (h : HoldsAt rows (assembledAt silver order)) (hsorted : rows.Pairwise Before) :
    IsOuterJoin silver order rows where
  increasing := hsorted
  dates key := by
    rw [List.mem_map]
    constructor
    · rintro ⟨row, hrow, rfl⟩
      obtain ⟨t, ht, hcells⟩ := (h.mem row).mp hrow
      obtain ⟨s, hs, hsome⟩ := (isSome_assembledAt_iff t).mp (by rw [hcells]; rfl)
      obtain ⟨r, hr⟩ := Option.isSome_iff_exists.mp hsome
      obtain ⟨hmem, hdate⟩ := (hvalid s hs).silverRowAt_eq_some.mp hr
      refine ⟨s, hs, r, hmem, ?_, hdate.trans ht.symm⟩
      rw [← Option.isSome_map (f := instantOfDate), hdate]
      rfl
    · rintro ⟨s, hs, r, hr, hsome, rfl⟩
      obtain ⟨d, hd⟩ := Option.isSome_iff_exists.mp hsome
      have hrowAt : silverRowAt (silver s) (instantOfDate d) = some r :=
        (hvalid s hs).silverRowAt_eq_some.mpr ⟨hr, by rw [hd]; rfl⟩
      obtain ⟨cells, hcells⟩ := Option.isSome_iff_exists.mp
        ((@isSome_assembledAt_iff silver order (instantOfDate d)).mpr
          ⟨s, hs, by rw [hrowAt]; rfl⟩)
      exact ⟨(some (instantOfDate d), cells), h.mem_some.mpr hcells, by rw [hd]; rfl⟩
  present row hrow s hs r hr hdate := by
    obtain ⟨t, ht, -⟩ := (h.mem row).mp hrow
    have hrowAt := (hvalid s hs).silverRowAt_eq_some.mpr ⟨hr, hdate.trans ht⟩
    refine ⟨?_, fun hshape f => ?_⟩
    · rw [cell_of_holdsAt h hrow ht (c := .level s) hs]
      show ((silverRowAt (silver s) t).bind (fun r => seriesCells s r (.level s))).filter _ = _
      rw [hrowAt]
      exact (hvalid s hs).filter_value hr
    · rw [cell_of_holdsAt h hrow ht (c := .bar s hshape f) hs]
      show ((silverRowAt (silver s) t).bind
        (fun r => seriesCells s r (.bar s hshape f))).filter _ = _
      rw [hrowAt, Option.bind_some]
      exact congrArg _ (if_pos rfl)
  absent row hrow s hs hnone c hc := by
    subst hc
    obtain ⟨t, ht, -⟩ := (h.mem row).mp hrow
    rw [cell_of_holdsAt h hrow ht hs]
    cases hrowAt : silverRowAt (silver c.series) t with
    | none => rfl
    | some r =>
      obtain ⟨hr, hdate⟩ := (hvalid _ hs).silverRowAt_eq_some.mp hrowAt
      exact absurd (hdate.trans ht.symm) (hnone r hr)
  level s hs := by
    refine eq_of_pairwise_before ?_ ?_ (fun p => ?_)
    · refine hsorted.filterMap _ (fun a b hab p hp q hq => ?_)
      obtain ⟨_, -, rfl⟩ := Option.map_eq_some_iff.mp hp
      obtain ⟨_, -, rfl⟩ := Option.map_eq_some_iff.mp hq
      exact hab
    · refine (hvalid s hs).pairwise_sorted.filterMap _ (fun a b hab p hp q hq => ?_)
      obtain ⟨_, -, rfl⟩ := Option.map_eq_some_iff.mp hp
      obtain ⟨_, -, rfl⟩ := Option.map_eq_some_iff.mp hq
      obtain ⟨d, hd, d', hd', hlt⟩ := hab
      exact ⟨instantOfDate d, by rw [Option.mem_def.mp hd]; rfl,
        instantOfDate d', by rw [Option.mem_def.mp hd']; rfl, instantOfDate_lt hlt⟩
    · rw [List.mem_filterMap, List.mem_filterMap]
      constructor
      · rintro ⟨row, hrow, hp⟩
        obtain ⟨x, hx, rfl⟩ := Option.map_eq_some_iff.mp hp
        obtain ⟨t, ht, -⟩ := (h.mem row).mp hrow
        rw [cell_of_holdsAt h hrow ht (c := .level s) hs] at hx
        change ((silverRowAt (silver s) t).bind
          (fun r => seriesCells s r (.level s))).filter _ = _ at hx
        cases hrowAt : silverRowAt (silver s) t with
        | none => rw [hrowAt] at hx; cases hx
        | some r =>
          obtain ⟨hr, hdate⟩ := (hvalid s hs).silverRowAt_eq_some.mp hrowAt
          rw [hrowAt, Option.bind_some, (hvalid s hs).filter_value hr] at hx
          exact ⟨r, mem_sorted.mpr hr, by rw [hx, hdate, ht]; rfl⟩
      · rintro ⟨r, hr, hp⟩
        obtain ⟨x, hx, rfl⟩ := Option.map_eq_some_iff.mp hp
        rw [mem_sorted] at hr
        obtain ⟨d, hd, -⟩ := (hvalid s hs).date r hr
        have hrowAt : silverRowAt (silver s) (instantOfDate d) = some r :=
          (hvalid s hs).silverRowAt_eq_some.mpr ⟨hr, by rw [hd]; rfl⟩
        obtain ⟨cells, hcells⟩ := Option.isSome_iff_exists.mp
          ((@isSome_assembledAt_iff silver order (instantOfDate d)).mpr
            ⟨s, hs, by rw [hrowAt]; rfl⟩)
        have hrow := h.mem_some.mpr hcells
        refine ⟨(some (instantOfDate d), cells), hrow, ?_⟩
        rw [cell_of_holdsAt h hrow rfl (c := .level s) hs]
        show Option.map _ (((silverRowAt (silver s) (instantOfDate d)).bind
          (fun r => seriesCells s r (.level s))).filter _) = _
        rw [hrowAt, Option.bind_some, (hvalid s hs).filter_value hr, hx, hd]
        rfl

end Pointwise

/-! ## When assembly raises -/

/-- A row without an instant stays in a join. -/
theorem mem_fullJoin_of_null {left right : List FrameRow} {row : FrameRow} (hnull : row.1 = none)
    (h : row ∈ left ∨ row ∈ right) : row ∈ fullJoin left right := by
  show row ∈ left.flatMap (matchedRows right) ++ right.filter (fun r => !left.any (joins · r))
  rw [List.mem_append]
  rcases h with hrow | hrow
  · refine .inl (List.mem_flatMap.mpr ⟨row, hrow, ?_⟩)
    have hnone : right.filter (joins row ·) = [] := List.filter_eq_nil_iff.mpr (fun r _ => by
      simp [joins, hnull])
    rw [matchedRows, hnone]
    exact List.mem_singleton_self row
  · refine .inr (List.mem_filter.mpr ⟨hrow, ?_⟩)
    have hnone : left.any (joins · row) = false := List.any_eq_false.mpr (fun r _ => by
      cases hr : r.1 <;> simp [joins, hnull, hr])
    rw [hnone]
    rfl

theorem mem_joinFrames_of_null {frames : List (List FrameRow)} {frame : List FrameRow}
    {row : FrameRow} (hnull : row.1 = none) (hframe : frame ∈ frames) (hrow : row ∈ frame) :
    row ∈ joinFrames frames := by
  have hfold : ∀ (rest : List (List FrameRow)) (acc : List FrameRow),
      (row ∈ acc ∨ ∃ frame ∈ rest, row ∈ frame) → row ∈ rest.foldl fullJoin acc := by
    intro rest
    induction rest with
    | nil =>
      rintro acc (hacc | ⟨_, hmem, _⟩)
      · exact hacc
      · cases hmem
    | cons first rest ih =>
      intro acc hacc
      refine ih _ ?_
      rcases hacc with hacc | ⟨frame, hmem, hrow⟩
      · exact .inl (mem_fullJoin_of_null hnull (.inl hacc))
      · rcases List.mem_cons.mp hmem with rfl | hmem
        · exact .inl (mem_fullJoin_of_null hnull (.inr hrow))
        · exact .inr ⟨frame, hmem, hrow⟩
  cases frames with
  | nil => cases hframe
  | cons first rest =>
    refine hfold rest first ?_
    rcases List.mem_cons.mp hframe with rfl | hmem
    · exact .inl hrow
    · exact .inr ⟨frame, hmem, hrow⟩

section Raises

variable {sha256 : Bytes → Sha256Hex} {writeCsv : List SilverRow → Bytes}
  {silverBySeries : Series → Option SilverFrame} {silver : Series → SilverFrame}
  {build : GoldFrameBuild}

/-- **What it takes to assemble a build.** -/
theorem assembleGoldFrame_eq_ok :
    assembleGoldFrame sha256 writeCsv silverBySeries = .ok build
      ↔ ∃ rows inputs, assembleRows goldSourceSeries silverBySeries = .ok rows
        ∧ (∀ c, ∀ row ∈ rows, ∀ x ∈ row.2 c, x.isFinite = true)
        ∧ (∀ row ∈ rows, row.1.isSome = true) ∧ (rows.map Prod.fst).Nodup
        ∧ inputSignatures sha256 writeCsv silverBySeries = .ok inputs
        ∧ build = ⟨⟨rows⟩, goldSchemaVersion, goldFeatureVersion, inputs⟩ := by
  unfold assembleGoldFrame assembleRows
  simp only [bind_eq_ok, check_eq_ok, forM_eq_ok, exists_const]
  constructor
  · rintro ⟨frames, hframes, hfinite, hsome, hnodup, inputs, hinputs, h⟩
    cases h
    exact ⟨_, inputs, ⟨frames, hframes, rfl⟩,
      fun c row hrow => hfinite c (mem_rawFeatureColumns c) row hrow, hsome, hnodup, hinputs, rfl⟩
  · rintro ⟨rows, inputs, ⟨frames, hframes, hrows⟩, hfinite, hsome, hnodup, hinputs, rfl⟩
    cases hrows
    exact ⟨frames, hframes, fun c _ row hrow => hfinite c row hrow, hsome, hnodup, inputs,
      hinputs, rfl⟩

/-- The bounds of the dates of a series can be read when every date can. -/
theorem IsJoinable.silverSignature_isOk {s : Series} {frame : SilverFrame}
    (h : IsJoinable s frame) :
    ∃ signature, silverSignature sha256 writeCsv s.id frame = .ok signature := by
  have hrange : ∀ d ∈ frame.sorted.filterMap (·.observationDate), dateMin ≤ d ∧ d ≤ dateMax := by
    intro d hd
    obtain ⟨r, hr, hdate⟩ := List.mem_filterMap.mp hd
    obtain ⟨d', hd', hrange⟩ := h.date r (mem_sorted.mp hr)
    rw [hd'] at hdate
    exact Option.some.inj hdate ▸ hrange
  unfold silverSignature
  refine ⟨_, bind_eq_ok.mpr ⟨(), check_eq_ok.mpr h.schema, bind_eq_ok.mpr
    ⟨(), check_eq_ok.mpr h.identity, bind_eq_ok.mpr
      ⟨_, loadDate?_of_range (fun d hd => hrange d (List.min?_mem hd)), bind_eq_ok.mpr
        ⟨_, loadDate?_of_range (fun d hd => hrange d (List.max?_mem hd)), rfl⟩⟩⟩⟩⟩

theorem inputSignatures_isOk (hvalid : ∀ s, IsJoinable s (silver s)) :
    ∃ inputs, inputSignatures sha256 writeCsv (fun s => some (silver s)) = .ok inputs := by
  have hmissing : missingSeries (fun s => some (silver s)) = [] :=
    List.filter_eq_nil_iff.mpr (fun _ _ => Bool.false_ne_true)
  obtain ⟨inputs, hinputs, -⟩ := exists_mapM_eq_ok (l := goldSourceSeries)
    (f := fun s => silverSignature sha256 writeCsv s.id (silver s)) (R := fun _ _ => True)
    (fun s _ => (hvalid s).silverSignature_isOk.imp (fun _ h => ⟨h, trivial⟩))
  exact ⟨inputs, bind_eq_ok.mpr ⟨(), check_eq_ok.mpr hmissing, hinputs⟩⟩

/-- **A series that has been assembled could be joined.** -/
theorem isJoinable_of_ok (h : assembleGoldFrame sha256 writeCsv silverBySeries = .ok build)
    (s : Series) : ∃ frame, silverBySeries s = some frame ∧ IsJoinable s frame := by
  obtain ⟨rows, inputs, hrows, -, hsome, -, hinputs, -⟩ := assembleGoldFrame_eq_ok.mp h
  obtain ⟨frames, hframes, hrows⟩ := bind_eq_ok.mp hrows
  cases hrows
  obtain ⟨seriesRows, hmem, hseries⟩ :=
    forall₂_exists_right (forall₂_of_mapM_eq_ok hframes) (mem_goldSourceSeries s)
  unfold inputSignatures at hinputs
  obtain ⟨-, -, hinputs⟩ := bind_eq_ok.mp hinputs
  obtain ⟨signature, -, hsignature⟩ :=
    forall₂_exists_right (forall₂_of_mapM_eq_ok hinputs) (mem_goldSourceSeries s)
  unfold seriesFrame at hseries
  cases hsilver : silverBySeries s with
  | none =>
    rw [hsilver] at hseries
    cases hseries
  | some frame =>
    rw [hsilver] at hseries hsignature
    obtain ⟨sorted, hvalidate, hseries⟩ := bind_eq_ok.mp hseries
    cases hseries
    simp only [validateSilver, bind_eq_ok, check_eq_ok, exists_const] at hvalidate
    obtain ⟨hschema, hidentity, hvalue, hfinite, hunique, hsorted⟩ := hvalidate
    cases hsorted
    simp only [silverSignature, bind_eq_ok, check_eq_ok, exists_const] at hsignature
    obtain ⟨-, -, minimum, hmin, maximum, hmax, -⟩ := hsignature
    refine ⟨frame, rfl, hschema, hidentity, fun r hr => ?_, fun r hr => ?_, hunique⟩
    · obtain ⟨x, hx⟩ := Option.isSome_iff_exists.mp (hvalue r hr)
      have hx' := hfinite r hr
      rw [hx] at hx'
      exact ⟨x, hx, hx'⟩
    · cases hdate : r.observationDate with
      | none =>
        -- a row without a date is still there when the timestamps are checked
        have hrow : (none, seriesCells s r) ∈ joinFrames frames := by
          refine mem_joinFrames_of_null rfl hmem (List.mem_map.mpr ⟨r, mem_sorted.mpr hr, ?_⟩)
          rw [hdate]
          rfl
        have hnull := hsome _ (List.mem_map.mpr
          ⟨_, (List.perm_insertionSort _ _).mem_iff.mpr hrow, rfl⟩)
        cases hnull
      | some d =>
        have hd : d ∈ frame.sorted.filterMap (·.observationDate) :=
          List.mem_filterMap.mpr ⟨r, mem_sorted.mpr hr, hdate⟩
        obtain ⟨a, ha⟩ := Option.isSome_iff_exists.mp
          (List.isSome_min?_iff.mpr (List.ne_nil_of_mem hd))
        obtain ⟨b, hb⟩ := Option.isSome_iff_exists.mp
          (List.isSome_max?_iff.mpr (List.ne_nil_of_mem hd))
        have hlow := (loadDate?_eq_ok hmin).2 a ha
        have hhigh := (loadDate?_eq_ok hmax).2 b hb
        exact ⟨d, rfl, hlow.1.trans ((List.min?_eq_some_iff.mp ha).2 d hd),
          ((List.max?_eq_some_iff.mp hb).2 d hd).trans hhigh.2⟩

end Raises

theorem goldSourceSeries_nodup : goldSourceSeries.Nodup :=
  List.Nodup.of_map _ goldSourceSeries_ids_nodup

theorem goldSourceSeries_ne_nil : goldSourceSeries ≠ [] :=
  List.ne_nil_of_mem (mem_goldSourceSeries .vix)

/-- **The rows of an assembled build** are what the series have at each instant. -/
theorem holdsAt_of_ok {sha256 : Bytes → Sha256Hex} {writeCsv : List SilverRow → Bytes}
    {silver : Series → SilverFrame} {build : GoldFrameBuild}
    (h : assembleGoldFrame sha256 writeCsv (fun s => some (silver s)) = .ok build) :
    (∀ s, IsJoinable s (silver s)) ∧ HoldsAt build.frame.rows (assembledAt silver goldSourceSeries)
      ∧ build.frame.rows.Pairwise Before := by
  have hjoinable : ∀ s, IsJoinable s (silver s) := fun s => by
    obtain ⟨frame, hframe, hjoinable⟩ := isJoinable_of_ok h s
    exact Option.some.inj hframe ▸ hjoinable
  obtain ⟨rows, inputs, hrows, -, -, -, -, rfl⟩ := assembleGoldFrame_eq_ok.mp h
  obtain ⟨rows', hrows', hholds, hsorted⟩ := exists_assembleRows (fun s _ => hjoinable s)
    goldSourceSeries_ne_nil goldSourceSeries_nodup
  obtain rfl : rows = rows' := Except.ok.inj (hrows.symm.trans hrows')
  exact ⟨hjoinable, hholds, hsorted⟩

/-- The bar of a series that has been assembled is not infinite. -/
theorem isSilverOf_of_ok {sha256 : Bytes → Sha256Hex} {writeCsv : List SilverRow → Bytes}
    {silver : Series → SilverFrame} {build : GoldFrameBuild}
    (h : assembleGoldFrame sha256 writeCsv (fun s => some (silver s)) = .ok build) (s : Series) :
    IsSilverOf s (silver s) := by
  obtain ⟨hjoinable, hholds, hsorted⟩ := holdsAt_of_ok h
  obtain ⟨rows, inputs, -, hfinite, -, -, -, rfl⟩ := assembleGoldFrame_eq_ok.mp h
  have houter := isOuterJoin_of_holdsAt (fun s _ => hjoinable s) hholds hsorted
  refine ⟨hjoinable s, fun hshape r hr f x hx => ?_⟩
  obtain ⟨d, hd, -⟩ := (hjoinable s).date r hr
  obtain ⟨row, hrow, hkey⟩ := List.mem_map.mp ((houter.dates (some (instantOfDate d))).mpr
    ⟨s, mem_goldSourceSeries s, r, hr, by rw [hd]; rfl, by rw [hd]; rfl⟩)
  have hcell := (houter.present row hrow s (mem_goldSourceSeries s) r hr
    (by rw [hd, hkey]; rfl)).2 hshape f
  by_cases hnan : x.isNaN = true
  · exact .inr hnan
  · refine .inl (hfinite (.bar s hshape f) row hrow x ?_)
    rw [hcell, Option.mem_def.mp hx, Option.filter_some, if_pos (by simpa using hnan)]
    rfl

/-- **Valid series are assembled into a build.** -/
theorem exists_goldFrameBuild (sha256 : Bytes → Sha256Hex) (writeCsv : List SilverRow → Bytes)
    {silver : Series → SilverFrame} (hvalid : ∀ s, IsSilverOf s (silver s)) :
    ∃ build, assembleGoldFrame sha256 writeCsv (fun s => some (silver s)) = .ok build := by
  obtain ⟨rows, hrows, hholds, hsorted⟩ := exists_assembleRows
    (fun s (_ : s ∈ goldSourceSeries) => (hvalid s).toIsJoinable) goldSourceSeries_ne_nil
    goldSourceSeries_nodup
  obtain ⟨inputs, hinputs⟩ : ∃ inputs,
      inputSignatures sha256 writeCsv (fun s => some (silver s)) = .ok inputs :=
    inputSignatures_isOk (fun s => (hvalid s).toIsJoinable)
  refine ⟨_, assembleGoldFrame_eq_ok.mpr ⟨rows, inputs, hrows, fun c row hrow x hx => ?_,
    fun row hrow => ?_, hholds.nodup, hinputs, rfl⟩⟩
  · obtain ⟨t, ht, -⟩ := (hholds.mem row).mp hrow
    rw [cell_of_holdsAt hholds hrow ht (mem_goldSourceSeries _), Option.mem_def,
      Option.filter_eq_some_iff] at hx
    obtain ⟨hx, hnan⟩ := hx
    obtain ⟨r, hr, hcell⟩ := Option.bind_eq_some_iff.mp hx
    have hmem := ((hvalid c.series).silverRowAt_eq_some.mp hr).1
    cases c with
    | level s =>
      have hvalue : r.value = some x := (if_pos rfl).symm.trans hcell
      obtain ⟨y, hy, hfinite⟩ := (hvalid s).value r hmem
      obtain rfl : y = x := Option.some.inj (hy.symm.trans hvalue)
      exact hfinite
    | bar s hshape f =>
      have hfield : r.bar f = some x := (if_pos rfl).symm.trans hcell
      refine ((hvalid s).bar hshape r hmem f x hfield).resolve_right (fun h => ?_)
      rw [h] at hnan
      cases hnan
  · obtain ⟨t, ht, -⟩ := (hholds.mem row).mp hrow
    rw [ht]
    rfl

/-- **Gold assembly is the pointwise outer join.** Assembly succeeds exactly where
there is a Silver frame of every series that is valid for it; the rows of its build
are then the pointwise outer join of the series, and the same in whatever order the
series are joined; and so are the rows of any number of valid series, in any order. -/
theorem assembleGoldFrame_outerJoin (sha256 : Bytes → Sha256Hex)
    (writeCsv : List SilverRow → Bytes) :
    (∀ silverBySeries : Series → Option SilverFrame,
      (∃ build, assembleGoldFrame sha256 writeCsv silverBySeries = .ok build)
        ↔ ∀ s, ∃ frame, silverBySeries s = some frame ∧ IsSilverOf s frame)
      ∧ (∀ (silver : Series → SilverFrame) (build : GoldFrameBuild),
        assembleGoldFrame sha256 writeCsv (fun s => some (silver s)) = .ok build →
          IsOuterJoin silver goldSourceSeries build.frame.rows
            ∧ ∀ order, order.Perm goldSourceSeries →
              assembleRows order (fun s => some (silver s)) = .ok build.frame.rows)
      ∧ ∀ (silver : Series → SilverFrame) (order : List Series),
        (∀ s ∈ order, IsSilverOf s (silver s)) → order ≠ [] → order.Nodup →
          ∃ rows, assembleRows order (fun s => some (silver s)) = .ok rows
            ∧ IsOuterJoin silver order rows
            ∧ ∀ order', order'.Perm order →
              assembleRows order' (fun s => some (silver s)) = .ok rows := by
  -- any two orders of the same valid series give the same rows
  have hperm : ∀ (silver : Series → SilverFrame) (order order' : List Series)
      (rows : List FrameRow), (∀ s ∈ order, IsJoinable s (silver s)) → order ≠ [] → order.Nodup →
      order'.Perm order → HoldsAt rows (assembledAt silver order) → rows.Pairwise Before →
      assembleRows order' (fun s => some (silver s)) = .ok rows := by
    intro silver order order' rows hvalid hne hnodup hperm hholds hsorted
    obtain ⟨rows', hrows', hholds', hsorted'⟩ := exists_assembleRows
      (fun s (hs : s ∈ order') => hvalid s (hperm.mem_iff.mp hs))
      (fun hnil => hne (by rw [hnil] at hperm; exact hperm.nil_eq.symm))
      (hperm.nodup_iff.mpr hnodup)
    rw [assembledAt_perm hperm] at hholds'
    rw [hrows', hholds'.eq_of_pairwise hholds hsorted' hsorted]
  refine ⟨fun silverBySeries => ⟨fun ⟨build, h⟩ => ?_, fun hall => ?_⟩,
    fun silver build h => ?_, fun silver order hvalid hne hnodup => ?_⟩
  · choose silver hsilver using fun s => (isJoinable_of_ok h s).imp (fun _ h => h.1)
    obtain rfl : silverBySeries = fun s => some (silver s) := funext hsilver
    exact fun s => ⟨silver s, rfl, isSilverOf_of_ok h s⟩
  · choose silver hsilver hvalid using hall
    obtain rfl : silverBySeries = fun s => some (silver s) := funext hsilver
    exact exists_goldFrameBuild sha256 writeCsv hvalid
  · obtain ⟨hjoinable, hholds, hsorted⟩ := holdsAt_of_ok h
    exact ⟨isOuterJoin_of_holdsAt (fun s _ => hjoinable s) hholds hsorted, fun order horder =>
      hperm silver goldSourceSeries order _ (fun s _ => hjoinable s) goldSourceSeries_ne_nil
        goldSourceSeries_nodup horder hholds hsorted⟩
  · have hjoinable : ∀ s ∈ order, IsJoinable s (silver s) :=
      fun s hs => (hvalid s hs).toIsJoinable
    obtain ⟨rows, hrows, hholds, hsorted⟩ := exists_assembleRows hjoinable hne hnodup
    exact ⟨rows, hrows, isOuterJoin_of_holdsAt hjoinable hholds hsorted, fun order' horder' =>
      hperm silver order order' rows hjoinable hne hnodup horder' hholds hsorted⟩

/-- A row of each series, on the day of the epoch, for an example. -/
def epochSilver (s : Series) : SilverFrame :=
  ⟨true, [⟨some 0, some s.id, some .one, fun _ => some .one, none, none, none, none⟩]⟩

theorem assembleGoldFrame_outerJoin_epoch :
    (∃ build, assembleGoldFrame (fun _ => ⟨String.ofList (List.replicate 64 '0'), by decide⟩)
        (fun _ => []) (fun s => some (epochSilver s)) = .ok build)
      ∧ ∃ rows, assembleRows [.ciss, .vix] (fun s => some (epochSilver s)) = .ok rows
        ∧ IsOuterJoin epochSilver [.ciss, .vix] rows := by
  obtain ⟨hok, -, hany⟩ := assembleGoldFrame_outerJoin
    (fun _ => ⟨String.ofList (List.replicate 64 '0'), by decide⟩) (fun _ => [])
  have hvalid : ∀ s, IsSilverOf s (epochSilver s) := fun s =>
    { schema := rfl
      identity := by simp [epochSilver]
      value := by simpa [epochSilver] using (by decide : Float64.one.isFinite = true)
      date := by simpa [epochSilver] using (by decide : dateMin ≤ 0 ∧ (0 : Date) ≤ dateMax)
      unique := by simp [epochSilver]
      bar := fun _ r hr f x hx => by
        rw [List.mem_singleton.mp hr] at hx
        cases hx
        exact .inl (by decide) }
  refine ⟨(hok _).mpr (fun s => ⟨_, rfl, hvalid s⟩), ?_⟩
  obtain ⟨rows, hrows, houter, -⟩ := hany epochSilver [.ciss, .vix] (fun s _ => hvalid s)
    (by simp) (by decide)
  exact ⟨rows, hrows, houter⟩
