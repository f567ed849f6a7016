import MacroLoader.ReplicaWrites

/-!
# A row and what is read back of it

A wide row is scattered over the raw tables and reassembled by the projection,
which derives the level of a bar series from its close again. What comes back is
the row with that one change (`derivedRow`), and a row whose levels are its
closes is not changed by it, as Python compares cells: the change is at most
between the two zeros.

The same comparison is the one the digest makes. The bytes that are hashed are
the same for two rows exactly where their cells compare equal
(`rowFraming_faithful`), so the digest of a source row is the digest of whatever
reads back as equal to it.
-/

open Transaction Program

/-- **A row Gold can hold**: every cell is null or finite. -/
def IsFiniteRow (row : WideRow Float64) : Prop := ∀ c, ∀ x ∈ row c, x.isFinite = true

/-- `a == b` on rows, cell by cell. -/
def SameRow (row row' : WideRow Float64) : Prop := ∀ c, nullableEq (row c) (row' c) = true

/-! ## Cells that compare equal -/

theorem canonicalCell_of_finite {v : Option Float64} (h : ∀ x ∈ v, x.isFinite = true) :
    canonicalCell v = .ok (v.map (fun x => if x.isZero then Float64.zero else x)) := by
  cases v with
  | none => rfl
  | some x => rw [canonicalCell, canonicalFloat, if_pos (h x rfl)]; rfl

/-- **Cells compare equal when they have one canonical form.** -/
theorem nullableEq_iff_canonicalCell {a b : Option Float64} (ha : ∀ x ∈ a, x.isFinite = true)
    (hb : ∀ x ∈ b, x.isFinite = true) :
    nullableEq a b = true ↔ canonicalCell a = canonicalCell b := by
  rw [canonicalCell_of_finite ha, canonicalCell_of_finite hb, Except.ok.injEq]
  cases a with
  | none => cases b <;> simp [nullableEq]
  | some x =>
    cases b with
    | none => simp [nullableEq]
    | some y =>
      have hx := Float64.not_isNaN_of_isFinite (ha x rfl)
      have hy := Float64.not_isNaN_of_isFinite (hb y rfl)
      have hzero : Float64.zero.isZero = true := by decide
      simp only [nullableEq, Float64.numEq, hx, hy, Bool.not_false, Bool.true_and, Bool.or_eq_true,
        Bool.and_eq_true, beq_iff_eq, Option.map_some, Option.some.injEq]
      -- a double that is no zero is its own canonical form, and no zero is
      split_ifs with hzx hzy hzy
      · exact ⟨fun _ => rfl, fun _ => .inr ⟨hzx, hzy⟩⟩
      · exact ⟨fun h => absurd (h.elim (fun heq => heq ▸ hzx) And.right) hzy,
          fun h => absurd (h ▸ hzero) hzy⟩
      · exact ⟨fun h => absurd (h.elim (fun heq => heq ▸ hzy) And.left) hzx,
          fun h => absurd (h ▸ hzero) hzx⟩
      · exact ⟨fun h => h.elim id (fun hz => absurd hz.1 hzx), .inl⟩

theorem nullableEq_refl {v : Option Float64} (h : ∀ x ∈ v, x.isFinite = true) :
    nullableEq v v = true := (nullableEq_iff_canonicalCell h h).mpr rfl

/-- A cell that compares equal to a finite one is finite. -/
theorem isFinite_of_nullableEq {a b : Option Float64} (ha : ∀ x ∈ a, x.isFinite = true)
    (h : nullableEq a b = true) : ∀ y ∈ b, y.isFinite = true := by
  rintro y rfl
  cases a with
  | none => cases h
  | some x =>
    simp only [nullableEq, Float64.numEq, Bool.and_eq_true, Bool.or_eq_true, beq_iff_eq] at h
    rcases h.2 with rfl | ⟨-, hy⟩
    · exact ha x rfl
    · exact Float64.isFinite_of_isZero hy

/-! ## The framing of rows that compare equal -/

/-- The frame of a cell is made of its canonical form. -/
theorem frameCell_congr {column : GoldColumn} {v v' : Option Float64}
    (h : canonicalCell v = canonicalCell v') : frameCell column v = frameCell column v' := by
  cases v with
  | none =>
    cases v' with
    | none => rfl
    | some y => cases hy : canonicalFloat y <;> simp [canonicalCell, hy, Except.map] at h
  | some x =>
    cases v' with
    | none => cases hx : canonicalFloat x <;> simp [canonicalCell, hx, Except.map] at h
    | some y =>
      cases hx : canonicalFloat x <;> cases hy : canonicalFloat y <;>
        simp [canonicalCell, hx, hy, Except.map] at h <;> simp [frameCell, hx, hy, h]

theorem frameCells_congr {row row' : WideRow Float64}
    (h : ∀ c, canonicalCell (row c) = canonicalCell (row' c)) (columns : List GoldColumn) :
    frameCells row columns = frameCells row' columns := by
  induction columns with
  | nil => rfl
  | cons column rest ih => rw [frameCells, frameCells, frameCell_congr (h column), ih]

theorem rowFraming_congr {t : Timestamp} {row row' : WideRow Float64}
    (h : ∀ c, canonicalCell (row c) = canonicalCell (row' c)) :
    rowFraming t row = rowFraming t row' := by
  rw [rowFraming, rowFraming, frameCells_congr h]

/-- **A finite row at a date-time is framed**: its timestamp fits the field. -/
theorem rowFraming_isOk {t : Timestamp} {row : WideRow Float64} (ht : loadDatetime t = .ok t)
    (hrow : IsFiniteRow row) : ∃ b, rowFraming t row = .ok b := by
  obtain ⟨time, htime⟩ := packInt64_isOk ht
  obtain ⟨cells, hcells⟩ := frameCells_isOk
    (fun c => ⟨_, canonicalCell_of_finite (hrow c)⟩) rawFeatureColumns
  exact ⟨_, by rw [rowFraming, htime, hcells]⟩

theorem goldRowSha256_congr (sha256 : Bytes → Sha256Hex) {t : Timestamp}
    {row row' : WideRow Float64} (h : ∀ c, canonicalCell (row c) = canonicalCell (row' c)) :
    goldRowSha256 sha256 t row = goldRowSha256 sha256 t row' := by
  rw [goldRowSha256, goldRowSha256, rowFraming_congr h]

/-- A row and its canonical form have one digest. -/
theorem canonicalCell_canonicalRow {row row' : WideRow Float64} (h : canonicalRow row = .ok row')
    (c : GoldColumn) : canonicalCell (row c) = canonicalCell (row' c) := by
  rw [canonicalRow_eq_ok_iff.mp h c, canonicalRow_eq_ok_iff.mp (canonicalRow_idem h) c]

theorem canonicalRow_isOk {row : WideRow Float64} (h : IsFiniteRow row) :
    ∃ row', canonicalRow row = .ok row' :=
  ⟨_, canonicalRow_eq_ok_iff.mpr (fun c => canonicalCell_of_finite (h c))⟩

/-- **The digest framing is injective, and one on both sides of the replication.**
Rows of null or finite cells at date-times Python can hold are framed, by the
same bytes exactly where their instants are the same and their cells compare
equal; and the digest that the source computes of a row is the one computed of
any row that reads back as equal to it. -/
theorem rowFraming_faithful (sha256 : Bytes → Sha256Hex) (t t' : Timestamp)
    (row row' : WideRow Float64) (ht : datetimeMin ≤ t ∧ t ≤ datetimeMax)
    (ht' : datetimeMin ≤ t' ∧ t' ≤ datetimeMax) (hrow : IsFiniteRow row)
    (hrow' : IsFiniteRow row') :
    (∃ time, packInt64 t = .ok time)
      ∧ (∃ b b', rowFraming t row = .ok b ∧ rowFraming t' row' = .ok b'
        ∧ (b = b' ↔ t = t' ∧ SameRow row row'))
      ∧ (∃ values digest, sourceRow sha256 t row = .ok (values, digest)
        ∧ ∀ (D : RawTables Float64) (stored : WideRow Float64),
          (consumerRows D).get? t = some stored → SameRow row stored →
            consumerDigest sha256 t stored = .ok digest) := by
  have hload : loadDatetime t = .ok t := if_pos ht
  have hload' : loadDatetime t' = .ok t' := if_pos ht'
  obtain ⟨b, hb⟩ := rowFraming_isOk hload hrow
  obtain ⟨b', hb'⟩ := rowFraming_isOk hload' hrow'
  refine ⟨packInt64_isOk hload, ⟨b, b', hb, hb', ?_⟩, ?_⟩
  · constructor
    · rintro rfl
      obtain ⟨htime, hcells⟩ := rowFraming_injective hb hb'
      exact ⟨htime, fun c => (nullableEq_iff_canonicalCell (hrow c) (hrow' c)).mpr (hcells c)⟩
    · rintro ⟨rfl, hsame⟩
      have hframing := rowFraming_congr (t := t)
        (fun c => (nullableEq_iff_canonicalCell (hrow c) (hrow' c)).mp (hsame c))
      exact Except.ok.inj (hb.symm.trans (hframing.trans hb'))
  · obtain ⟨values, hvalues⟩ := canonicalRow_isOk hrow
    obtain ⟨digest, hdigest⟩ := goldRowSha256_isOk sha256 hload
      (fun c => ⟨_, canonicalRow_eq_ok_iff.mp (canonicalRow_idem hvalues) c⟩)
    refine ⟨values, digest, ?_, fun D stored _ hsame => ?_⟩
    · exact bind_eq_ok.mpr ⟨t, hload, bind_eq_ok.mpr ⟨values, hvalues,
        bind_eq_ok.mpr ⟨digest, hdigest, rfl⟩⟩⟩
    · have hcells : ∀ c, canonicalCell (stored c) = canonicalCell (values c) := fun c =>
        ((nullableEq_iff_canonicalCell (hrow c) (isFinite_of_nullableEq (hrow c) (hsame c))).mp
          (hsame c)).symm.trans (canonicalCell_canonicalRow hvalues c)
      rw [consumerDigest, hload]
      exact (goldRowSha256_congr sha256 hcells).trans hdigest

theorem rowFraming_faithful_zeros :
    ∃ b b', rowFraming 0 (fun _ => some .zero) = .ok b
      ∧ rowFraming 0 (fun _ => some .negZero) = .ok b'
      ∧ (b = b' ↔ (0 : Timestamp) = 0
        ∧ SameRow (fun _ => some Float64.zero) (fun _ => some Float64.negZero)) :=
  (rowFraming_faithful (fun _ => ⟨String.ofList (List.replicate 64 '0'), by decide⟩) 0 0
    (fun _ => some .zero) (fun _ => some .negZero) (by decide) (by decide)
    (by rintro c x ⟨⟩; decide) (by rintro c x ⟨⟩; decide)).2.1

/-! ## Splitting a row and joining it again -/

/-- The row that the projection rederives: the level of a bar series is its close. -/
def derivedRow (row : WideRow Float64) : WideRow Float64
  | .level s => if h : s.nativeShape = .ohlc then row (.bar s h .close) else row (.level s)
  | .bar s h f => row (.bar s h f)

/-- **The stored rows of a wide row join to the derived row.** -/
theorem toWide_storedRow_eq_derivedRow (row : WideRow Float64) :
    JoinedRow.toWide (fun s => storedRow s row) = derivedRow row := by
  funext c
  cases c with
  | level s =>
    refine (level_storedRow s row).trans ?_
    rw [seriesRow, RawRow.level_ofCells, derivedRow]
    by_cases hshape : s.nativeShape = .ohlc
    · rw [if_pos hshape, dif_pos hshape, barCell, dif_pos hshape]
    · rw [if_neg hshape, dif_neg hshape]
  | bar s hshape f => exact (field_storedRow s row f).trans (field_seriesRow hshape f)

theorem derivedRow_of_not_level {row : WideRow Float64} {c : GoldColumn}
    (h : ∀ s, s.nativeShape = .ohlc → c ≠ .level s) : derivedRow row c = row c := by
  cases c with
  | level s => rw [derivedRow, dif_neg (fun hshape => h s hshape rfl)]
  | bar s hshape f => rfl

/-- **Rederiving the levels of a row whose levels are its closes changes no cell.** -/
theorem sameRow_derivedRow {row : WideRow Float64} (hrow : IsFiniteRow row)
    (hlevel : ∀ s, levelIsClose s row = true) : SameRow row (derivedRow row) := by
  intro c
  by_cases hc : ∃ s, s.nativeShape = .ohlc ∧ c = .level s
  · obtain ⟨s, hshape, rfl⟩ := hc
    have h := hlevel s
    rw [levelIsClose, hshape, bne_self_eq_false, Bool.false_or, barCell, dif_pos hshape] at h
    rwa [derivedRow, dif_pos hshape]
  · rw [derivedRow_of_not_level (fun s hshape heq => hc ⟨s, hshape, heq⟩)]
    exact nullableEq_refl (hrow c)

theorem visible_congr {row row' : WideRow Float64} (h : SameRow row row') :
    visible row' = visible row := by
  have hcell : ∀ c, (row' c).isSome = (row c).isSome := fun c => by
    have hc := h c
    cases hrow : row c <;> cases hrow' : row' c <;> simp [hrow, hrow', nullableEq] at hc ⊢
  rw [visible, visible]
  exact List.any_congr rfl (fun c => hcell c)

/-- The projection at a timestamp reads the rows at that timestamp only. -/
theorem get?_projection_congr {D D' : RawTables Float64} {t : Timestamp}
    (h : ∀ s, (D' s).get? t = (D s).get? t) :
    (rawFeatureProjection goldSourceSeries D').get? t
      = (rawFeatureProjection goldSourceSeries D).get? t := by
  simp only [get?_rawFeatureProjection, joinedAt, h]

/-- **The projection of stored rows**: the derived row, if there is anything to
store. -/
theorem get?_projection_of_storedRow {D : RawTables Float64} {t : Timestamp}
    {row : WideRow Float64} (h : ∀ s, (D s).get? t = storedRow s row)
    (hvisible : visible (derivedRow row) = true) :
    (rawFeatureProjection goldSourceSeries D).get? t = some (derivedRow row) := by
  have hcell : D.cell t = derivedRow row := by
    rw [← toWide_storedRow_eq_derivedRow, RawTables.cell, funext h]
  -- a row of the consumer is a row of the projection
  have hconsumer := get?_consumerRows D t
  rw [hcell, if_pos hvisible, consumerRows, KeyedTable.get?_filter] at hconsumer
  exact (Option.filter_eq_some_iff.mp hconsumer).1

/-- The contents of a replica with the rows of one timestamp replaced. -/
def rowsReplaced (db : Replica) (t : Timestamp)
    (rows : (s : Series) → Option (RawRow Float64 s.nativeShape)) : FinalContents where
  row s t' := if t' = t then rows s else (db.raw s).get? t'
  digest t' := (db.rowHashes postgresDatasetId).get? t'

theorem written_rowsReplaced (s : Session) (t : Timestamp)
    (rows : (s : Series) → Option (RawRow Float64 s.nativeShape)) :
    Written (rowsReplaced s.replica t rows) s.replica (fun _ => True) { p | p.2 = t } ∅ s where
  rows _ _ hp := (if_neg hp).symm
  index _ _ := rfl
  state := rfl
  log _ _ := trivial

/-- What the tables hold once the rows of a timestamp have been replaced. -/
theorem Written.get?_rowsReplaced {db base : Replica} {allowed : Statement → Prop} {t : Timestamp}
    {rows : (s : Series) → Option (RawRow Float64 s.nativeShape)} {J : Set Timestamp} {s : Session}
    (h : Written (rowsReplaced db t rows) base allowed ∅ J s) (series : Series) (t' : Timestamp) :
    (s.replica.raw series).get? t' = if t' = t then rows series else (db.raw series).get? t' :=
  h.rows series t' (Set.notMem_empty _)

/-- **Applying a row replaces the rows of its timestamp.** -/
theorem succeeds_applyFeatureRow_replaces (s : Session) (row : GoldRowPayload)
    (hlevel : ∀ series, levelIsClose series row.2 = true) :
    Succeeds (applyFeatureRow row) s (fun _ s' => ∀ series t, (s'.replica.raw series).get? t
      = if t = row.1 then storedRow series row.2 else (s.replica.raw series).get? t) := by
  have happly : Succeeds (applyFeatureRow row) s (fun _ s' =>
      Written (rowsReplaced s.replica row.1 (fun series => storedRow series row.2)) s.replica
        (fun _ => True) ∅ ∅ s') :=
    succeeds_applyFeatureRow (written_rowsReplaced s row.1 _) hlevel (fun series => if_pos rfl)
      (fun _ _ => trivial) (fun p hp => .inl hp)
  exact happly.mono (fun _ s' h series t => h.get?_rowsReplaced series t)

theorem succeeds_deleteFeatureTimestamp_replaces (s : Session) (t : Timestamp) :
    Succeeds (deleteFeatureTimestamp t) s (fun _ s' => ∀ series t', (s'.replica.raw series).get? t'
      = if t' = t then none else (s.replica.raw series).get? t') := by
  have hdelete : Succeeds (deleteFeatureTimestamp t) s (fun _ s' =>
      Written (rowsReplaced s.replica t (fun _ => none)) s.replica (fun _ => True) ∅ ∅ s') :=
    succeeds_deleteFeatureTimestamp (written_rowsReplaced s t _) (fun series => if_pos rfl)
      (fun _ _ => trivial) (fun p hp => .inl hp)
  exact hdelete.mono (fun _ s' h series t => h.get?_rowsReplaced series t)

/-- **A level that is not its close is refused**, when no statement fails. -/
theorem applyFeatureRow_raises {row : GoldRowPayload} {series : Series}
    (h : levelIsClose series row.2 = false) (s : Session) :
    ∃ e s', applyFeatureRow row s [] = (.raised e, s', []) := by
  suffices hloop : ∀ (l : List Series) (s : Session), series ∈ l →
      ∃ e s', forEach l (applySeriesRow row) s [] = (.raised e, s', []) from
    hloop goldSourceSeries s (mem_goldSourceSeries series)
  intro l
  induction l with
  | nil => exact fun _ hmem => absurd hmem List.not_mem_nil
  | cons first rest ih =>
    intro s hmem
    show ∃ e s', andThen (applySeriesRow row first) (fun _ => forEach rest (applySeriesRow row)) s []
      = (.raised e, s', [])
    by_cases hfirst : levelIsClose first row.2 = true
    · have hstep : Succeeds (applySeriesRow row first) s (fun _ _ => True) := by
        refine succeeds_bind (succeeds_require hfirst ?_)
        split_ifs <;> exact succeeds_write trivial
      obtain ⟨_, s', hrun, -⟩ := hstep
      have hne : series ≠ first := by
        rintro rfl
        rw [h] at hfirst
        cases hfirst
      rw [andThen, hrun]
      exact ih s' ((List.mem_cons.mp hmem).resolve_left hne)
    · refine ⟨.valueError ("PostgreSQL OHLC source level must equal " ++ first.id ++ "_close"), s, ?_⟩
      have hrun : applySeriesRow row first s []
          = (.raised (.valueError ("PostgreSQL OHLC source level must equal " ++ first.id
            ++ "_close")), s, []) := by
        show andThen (require _ _) _ s [] = _
        rw [andThen, require, if_neg hfirst]
        rfl
      rw [andThen, hrun]

/-- **Split and reconstruct.** When no statement fails: applying a Gold row, finite,
with a value, and with every level its close, makes the projection show exactly
that row at its timestamp, whatever the tables held there, and leaves it alone
everywhere else; deleting a timestamp removes that one row of the projection; and
applying a row raises exactly where some level is not its close. -/
theorem featureRow_roundTrip (s : Session) (t : Timestamp) (row : WideRow Float64) :
    (IsFiniteRow row → visible row = true → (∀ series, levelIsClose series row = true) →
      Succeeds (applyFeatureRow (t, row)) s (fun _ s' =>
        (∃ projected, (rawFeatureProjection goldSourceSeries s'.replica.raw).get? t = some projected
          ∧ (consumerRows s'.replica.raw).get? t = some projected
          ∧ SameRow row projected
          ∧ ∀ c, (∀ series, series.nativeShape = .ohlc → c ≠ .level series) → projected c = row c)
        ∧ ∀ t' ≠ t, (rawFeatureProjection goldSourceSeries s'.replica.raw).get? t'
          = (rawFeatureProjection goldSourceSeries s.replica.raw).get? t'))
      ∧ Succeeds (deleteFeatureTimestamp t) s (fun _ s' =>
        (rawFeatureProjection goldSourceSeries s'.replica.raw).get? t = none
        ∧ ∀ t' ≠ t, (rawFeatureProjection goldSourceSeries s'.replica.raw).get? t'
          = (rawFeatureProjection goldSourceSeries s.replica.raw).get? t')
      ∧ ((∃ e s', applyFeatureRow (t, row) s [] = (.raised e, s', []))
        ↔ ∃ series, levelIsClose series row = false) := by
  refine ⟨fun hrow hvisible hlevel => ?_, ?_, ?_⟩
  · refine (succeeds_applyFeatureRow_replaces s (t, row) hlevel).mono (fun _ s' hs' => ⟨?_, ?_⟩)
    · have hsame := sameRow_derivedRow hrow hlevel
      have hderived : visible (derivedRow row) = true := (visible_congr hsame).trans hvisible
      have hprojected := get?_projection_of_storedRow
        (fun series => (hs' series t).trans (if_pos rfl)) hderived
      refine ⟨derivedRow row, hprojected, ?_, hsame, fun c hc => derivedRow_of_not_level hc⟩
      rw [consumerRows, KeyedTable.get?_filter, hprojected, Option.filter_some, if_pos hderived]
    · exact fun t' ht' => get?_projection_congr (fun series => (hs' series t').trans (if_neg ht'))
  · refine (succeeds_deleteFeatureTimestamp_replaces s t).mono (fun _ s' hs' => ⟨?_, ?_⟩)
    · have hnone : ¬ ∃ series ∈ goldSourceSeries, ((s'.replica.raw series).get? t).isSome := by
        rintro ⟨series, -, hsome⟩
        rw [hs' series t, if_pos rfl] at hsome
        cases hsome
      rw [get?_rawFeatureProjection, joinedAt, if_neg hnone]
      rfl
    · exact fun t' ht' => get?_projection_congr (fun series => (hs' series t').trans (if_neg ht'))
  · constructor
    · rintro ⟨e, s', hrun⟩
      by_contra hall
      have hlevel : ∀ series, levelIsClose series row = true := fun series => by
        cases hseries : levelIsClose series row with
        | true => rfl
        | false => exact absurd ⟨series, hseries⟩ hall
      obtain ⟨_, _, hreturned, -⟩ := succeeds_applyFeatureRow_replaces s (t, row) hlevel
      rw [hrun] at hreturned
      cases (Prod.mk.inj hreturned).1
    · rintro ⟨series, hseries⟩
      exact applyFeatureRow_raises hseries s

theorem featureRow_roundTrip_ones :
    Succeeds (applyFeatureRow (0, fun _ => some Float64.one))
      ⟨⟨fun _ => .empty, fun _ => .empty, fun _ => none⟩, []⟩ (fun _ s' =>
        ∃ projected, (rawFeatureProjection goldSourceSeries s'.replica.raw).get? 0 = some projected
          ∧ SameRow (fun _ => some Float64.one) projected) :=
  ((featureRow_roundTrip ⟨⟨fun _ => .empty, fun _ => .empty, fun _ => none⟩, []⟩ 0
      (fun _ => some Float64.one)).1 (by rintro c x ⟨⟩; decide) (by decide)
      (fun series => by cases series <;> decide)).mono
    (fun _ _ ⟨⟨projected, hprojected, _, hsame, _⟩, _⟩ => ⟨projected, hprojected, hsame⟩)
