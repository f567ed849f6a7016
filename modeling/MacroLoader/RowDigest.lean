import MacroLoader.PythonValues
import MacroLoader.RawTables

/-!
# Row digests

A wide row is hashed as a byte string that frames every cell: the name of its
column, whether it is null, and the eight bytes of its double. What the digest
can tell apart is therefore what the framing can, which is everything but the
two zeros (`rowFraming_injective`): a cell is framed by a prefix-free code, so
the cells of two rows can be peeled off one by one.

The hash itself is a parameter. No function into the 64-digit strings is
injective, so what its users assume of it is that it does not collide on the
framings at hand.
-/

/-- The text of a SHA-256 digest: 64 lowercase hexadecimal digits. -/
def isSha256Hex (text : String) : Bool :=
  text.length == 64 && text.toList.all (fun c => c ∈ "0123456789abcdef".toList)

/-- **A SHA-256 digest.** -/
abbrev Sha256Hex := { text : String // isSha256Hex text = true }

/-! ## Framing -/

/-- `_DIGEST_PREFIX`. -/
def digestPrefix : Bytes := utf8 "macro-loader:gold-row:v1" ++ [0]

/-- The frame of a cell under the name of its column: `N` for null, `F` and the
canonical double otherwise. -/
def frameCell (column : GoldColumn) (value : Option Float64) : Except PyError Bytes :=
  match value with
  | none => .ok (utf8 column.name ++ [0] ++ [0x4E])
  | some x =>
    match canonicalFloat x with
    | .error e => .error e
    | .ok x' => .ok (utf8 column.name ++ [0] ++ (0x46 :: bigEndian x'.bits))

/-- The frames of the cells of a row, in column order. -/
def frameCells (row : WideRow Float64) : List GoldColumn → Except PyError Bytes
  | [] => .ok []
  | column :: rest =>
    match frameCell column (row column), frameCells row rest with
    | .ok bytes, .ok bytes' => .ok (bytes ++ bytes')
    | .error e, _ => .error e
    | _, .error e => .error e

/-- The bytes of a row that are hashed. -/
def rowFraming (t : Timestamp) (row : WideRow Float64) : Except PyError Bytes :=
  match packInt64 t, frameCells row rawFeatureColumns with
  | .ok time, .ok cells =>
    .ok (digestPrefix ++ utf8 "timestamp_m1" ++ [0, 0x54] ++ (time ++ cells))
  | .error e, _ => .error e
  | _, .error e => .error e

/-- A cell with its double in canonical form. -/
def canonicalCell : Option Float64 → Except PyError (Option Float64)
  | none => .ok none
  | some x => (canonicalFloat x).map some

/-- **The frame of a cell is a prefix-free code** of the canonical cell. -/
theorem frameCell_prefixFree {column : GoldColumn} {v v' : Option Float64} {b b' x y : Bytes}
    (hb : frameCell column v = .ok b) (hb' : frameCell column v' = .ok b')
    (h : b ++ x = b' ++ y) : canonicalCell v = canonicalCell v' ∧ x = y := by
  cases v with
  | none =>
    cases v' with
    | none =>
      cases hb
      cases hb'
      exact ⟨rfl, List.append_cancel_left h⟩
    | some z' =>
      cases hc' : canonicalFloat z' with
      | error e => simp [frameCell, hc'] at hb'
      | ok c' =>
        simp only [frameCell, hc', Except.ok.injEq] at hb hb'
        subst hb hb'
        simp at h
  | some z =>
    cases hc : canonicalFloat z with
    | error e => simp [frameCell, hc] at hb
    | ok c =>
      simp only [frameCell, hc, Except.ok.injEq] at hb
      cases v' with
      | none =>
        simp only [frameCell, Except.ok.injEq] at hb'
        subst hb hb'
        simp at h
      | some z' =>
        cases hc' : canonicalFloat z' with
        | error e => simp [frameCell, hc'] at hb'
        | ok c' =>
          simp only [frameCell, hc', Except.ok.injEq] at hb'
          subst hb hb'
          simp only [List.append_assoc, List.append_cancel_left_eq, List.cons_append,
            List.nil_append, List.cons.injEq, true_and] at h
          obtain ⟨hbytes, hxy⟩ := List.append_inj h (by simp)
          have hcc : c = c' := by
            have := bigEndian_injective hbytes
            cases c
            cases c'
            simpa using this
          exact ⟨by simp [canonicalCell, hc, hc', hcc], hxy⟩

theorem frameCells_ok_cons {row : WideRow Float64} {column : GoldColumn}
    {rest : List GoldColumn} {b : Bytes} (h : frameCells row (column :: rest) = .ok b) :
    ∃ b₁ b₂, frameCell column (row column) = .ok b₁ ∧ frameCells row rest = .ok b₂
      ∧ b = b₁ ++ b₂ := by
  rw [frameCells] at h
  cases h₁ : frameCell column (row column) with
  | error e => rw [h₁] at h; cases h
  | ok b₁ =>
    cases h₂ : frameCells row rest with
    | error e => rw [h₁, h₂] at h; cases h
    | ok b₂ =>
      rw [h₁, h₂] at h
      exact ⟨b₁, b₂, rfl, rfl, (Except.ok.inj h).symm⟩

theorem frameCells_injective {row row' : WideRow Float64} {columns : List GoldColumn}
    {b : Bytes} (hb : frameCells row columns = .ok b) (hb' : frameCells row' columns = .ok b) :
    ∀ c ∈ columns, canonicalCell (row c) = canonicalCell (row' c) := by
  induction columns generalizing b with
  | nil => simp
  | cons column rest ih =>
    obtain ⟨b₁, b₂, h₁, h₂, rfl⟩ := frameCells_ok_cons hb
    obtain ⟨b₁', b₂', h₁', h₂', heq⟩ := frameCells_ok_cons hb'
    obtain ⟨hcell, rfl⟩ := frameCell_prefixFree h₁ h₁' heq
    intro c hc
    rcases List.mem_cons.mp hc with rfl | hc
    · exact hcell
    · exact ih h₂ h₂' c hc

theorem rowFraming_ok {t : Timestamp} {row : WideRow Float64} {b : Bytes}
    (h : rowFraming t row = .ok b) :
    ∃ time cells, packInt64 t = .ok time ∧ frameCells row rawFeatureColumns = .ok cells
      ∧ b = digestPrefix ++ utf8 "timestamp_m1" ++ [0, 0x54] ++ (time ++ cells) := by
  rw [rowFraming] at h
  cases ht : packInt64 t with
  | error e => rw [ht] at h; cases h
  | ok time =>
    cases hc : frameCells row rawFeatureColumns with
    | error e => rw [ht, hc] at h; cases h
    | ok cells =>
      rw [ht, hc] at h
      exact ⟨time, cells, rfl, rfl, (Except.ok.inj h).symm⟩

theorem packInt64_length {t : ℤ} {bytes : Bytes} (h : packInt64 t = .ok bytes) :
    bytes.length = 8 := by
  unfold packInt64 at h
  split_ifs at h
  rw [← Except.ok.inj h, bigEndian_length]

/-- **The framing determines the row** up to the sign of its zeros. -/
theorem rowFraming_injective {t t' : Timestamp} {row row' : WideRow Float64} {b : Bytes}
    (h : rowFraming t row = .ok b) (h' : rowFraming t' row' = .ok b) :
    t = t' ∧ ∀ c, canonicalCell (row c) = canonicalCell (row' c) := by
  obtain ⟨time, cells, ht, hc, rfl⟩ := rowFraming_ok h
  obtain ⟨time', cells', ht', hc', heq⟩ := rowFraming_ok h'
  obtain ⟨rfl, rfl⟩ := List.append_inj (List.append_cancel_left heq)
    (by rw [packInt64_length ht, packInt64_length ht'])
  exact ⟨packInt64_injective ht ht',
    fun c => frameCells_injective hc hc' c (mem_rawFeatureColumns c)⟩

/-! ## Digests -/

section Digests

variable (sha256 : Bytes → Sha256Hex)

/-- `gold_row_sha256`. -/
def goldRowSha256 (t : Timestamp) (row : WideRow Float64) : Except PyError Sha256Hex :=
  (rowFraming t row).map sha256

/-- Whether a wide row has a value at all. -/
def visible (row : WideRow Float64) : Bool := rawFeatureColumns.any (fun c => (row c).isSome)

/-- `_CONSUMER_ROWS_SQL`: the rows of the projection that have a value. -/
def consumerRows (D : RawTables Float64) : KeyedTable Timestamp (WideRow Float64) :=
  (rawFeatureProjection goldSourceSeries D).filter visible

theorem visible_eq_false_iff {row : WideRow Float64} : visible row = false ↔ row = fun _ => none := by
  rw [visible, List.any_eq_false]
  constructor
  · intro h
    funext c
    simpa using h c (mem_rawFeatureColumns c)
  · rintro rfl c -
    exact Bool.false_ne_true

/-- **The consumer row at a timestamp** is made of the cells of the tables. -/
theorem get?_consumerRows (D : RawTables Float64) (t : Timestamp) :
    (consumerRows D).get? t = if visible (D.cell t) then some (D.cell t) else none := by
  rw [consumerRows, KeyedTable.get?_filter, get?_rawFeatureProjection, joinedAt]
  split_ifs with hrow hvisible hvisible
  · have hall : (fun s => if s ∈ goldSourceSeries then (D s).get? t else none)
        = fun s => (D s).get? t := funext (fun s => if_pos (mem_goldSourceSeries s))
    rw [hall, Option.map_some, Option.filter_some, ← RawTables.cell, if_pos hvisible]
  · have hall : (fun s => if s ∈ goldSourceSeries then (D s).get? t else none)
        = fun s => (D s).get? t := funext (fun s => if_pos (mem_goldSourceSeries s))
    rw [hall, Option.map_some, Option.filter_some, ← RawTables.cell, if_neg hvisible]
  · have hnone : ∀ s, (D s).get? t = none := fun s => by
      simpa using fun h => hrow ⟨s, mem_goldSourceSeries s, h⟩
    have hcells : D.cell t = fun _ => none := by
      funext c
      cases c <;> simp [RawTables.cell, JoinedRow.toWide, hnone]
    rw [hcells] at hvisible
    exact absurd hvisible Bool.false_ne_true
  · rfl

/-- The digest of a row as it is read back. -/
def consumerDigest (t : Timestamp) (row : WideRow Float64) : Except PyError Sha256Hex :=
  match loadDatetime t with
  | .error e => .error e
  | .ok t' => goldRowSha256 sha256 t' row

/-- `read_consumer_digests`: the digests of the rows that have a value. -/
def consumerDigests (D : RawTables Float64) : Except PyError (KeyedTable Timestamp Sha256Hex) :=
  (consumerRows D).traverse (consumerDigest sha256)

theorem consumerDigest_eq_ok {t : Timestamp} {row : WideRow Float64} {d : Sha256Hex}
    (h : consumerDigest sha256 t row = .ok d) : goldRowSha256 sha256 t row = .ok d := by
  unfold consumerDigest at h
  cases ht : loadDatetime t with
  | error e => rw [ht] at h; cases h
  | ok t' =>
    rw [ht, loadDatetime_eq_ok ht] at h
    exact h

theorem frameCells_isOk {row : WideRow Float64}
    (h : ∀ c, ∃ v, canonicalCell (row c) = .ok v) (columns : List GoldColumn) :
    ∃ b, frameCells row columns = .ok b := by
  have hcell : ∀ c, ∃ b, frameCell c (row c) = .ok b := fun c => by
    obtain ⟨v, hv⟩ := h c
    cases hx : row c with
    | none => exact ⟨_, rfl⟩
    | some x =>
      rw [hx, canonicalCell] at hv
      cases hcanonical : canonicalFloat x with
      | error e => rw [hcanonical] at hv; cases hv
      | ok y => exact ⟨_, by rw [frameCell, hcanonical]⟩
  induction columns with
  | nil => exact ⟨[], rfl⟩
  | cons c rest ih =>
    obtain ⟨b, hb⟩ := hcell c
    obtain ⟨b', hb'⟩ := ih
    exact ⟨b ++ b', by rw [frameCells, hb, hb']⟩

/-- A date-time fits the 64 bits of its frame. -/
theorem packInt64_isOk {t : ℤ} (ht : loadDatetime t = .ok t) :
    ∃ b, packInt64 t = .ok b := by
  unfold loadDatetime at ht
  split_ifs at ht with hrange
  have hbounds : -62135596800000000 ≤ t ∧ t ≤ 253402300799999999 := hrange
  exact ⟨_, if_pos (by omega)⟩

/-- **A row of finite values at a date-time has a digest.** -/
theorem goldRowSha256_isOk {t : Timestamp} {row : WideRow Float64} (ht : loadDatetime t = .ok t)
    (h : ∀ c, ∃ v, canonicalCell (row c) = .ok v) : ∃ d, goldRowSha256 sha256 t row = .ok d := by
  obtain ⟨time, htime⟩ := packInt64_isOk ht
  obtain ⟨cells, hcells⟩ := frameCells_isOk h rawFeatureColumns
  exact ⟨_, by rw [goldRowSha256, rowFraming, htime, hcells]; rfl⟩

/-! ## What equal digests say of the rows -/

/-- The byte strings hashed for the rows of a table. -/
def framings (rows : KeyedTable Timestamp (WideRow Float64)) : Set Bytes :=
  { b | ∃ t row, rows.get? t = some row ∧ rowFraming t row = .ok b }

variable {sha256}

/-- **Rows with one digest are one row**, up to the sign of their zeros, where the
hash does not collide. -/
theorem canonicalCell_eq_of_digest {rows rows' : KeyedTable Timestamp (WideRow Float64)}
    (hsha : Set.InjOn sha256 (framings rows ∪ framings rows')) {t : Timestamp}
    {row row' : WideRow Float64} (hrow : rows.get? t = some row) (hrow' : rows'.get? t = some row')
    {d : Sha256Hex} (hd : goldRowSha256 sha256 t row = .ok d)
    (hd' : goldRowSha256 sha256 t row' = .ok d) (c : GoldColumn) :
    canonicalCell (row c) = canonicalCell (row' c) := by
  unfold goldRowSha256 at hd hd'
  cases hb : rowFraming t row with
  | error e => rw [hb] at hd; cases hd
  | ok b =>
    cases hb' : rowFraming t row' with
    | error e => rw [hb'] at hd'; cases hd'
    | ok b' =>
      rw [hb] at hd
      rw [hb'] at hd'
      have hbb : b = b' := hsha (.inl ⟨t, row, hrow, hb⟩) (.inr ⟨t, row', hrow', hb'⟩)
        ((Except.ok.inj hd).trans (Except.ok.inj hd').symm)
      exact (rowFraming_injective hb (hbb ▸ hb')).2 c

/-- A row with a digest has finite cells. -/
theorem canonicalCell_isOk_of_digest {t : Timestamp} {row : WideRow Float64} {d : Sha256Hex}
    (h : goldRowSha256 sha256 t row = .ok d) (c : GoldColumn) :
    ∃ v, canonicalCell (row c) = .ok v := by
  have hcells : ∀ (columns : List GoldColumn) (b : Bytes), frameCells row columns = .ok b →
      ∀ c ∈ columns, ∃ v, canonicalCell (row c) = .ok v := by
    intro columns
    induction columns with
    | nil => exact fun _ _ c hc => absurd hc (List.not_mem_nil)
    | cons column rest ih =>
      intro b hb c hc
      obtain ⟨b₁, b₂, h₁, h₂, -⟩ := frameCells_ok_cons hb
      rcases List.mem_cons.mp hc with rfl | hc
      · cases hx : row c with
        | none => exact ⟨none, rfl⟩
        | some x =>
          cases hy : canonicalFloat x with
          | error e => rw [hx, frameCell, hy] at h₁; cases h₁
          | ok y => exact ⟨some y, by rw [canonicalCell, hy]; rfl⟩
      · exact ih b₂ h₂ c hc
  unfold goldRowSha256 at h
  cases hb : rowFraming t row with
  | error e => rw [hb] at h; cases h
  | ok b =>
    obtain ⟨_, cells, -, hframe, -⟩ := rowFraming_ok hb
    exact hcells rawFeatureColumns cells hframe c (mem_rawFeatureColumns c)

end Digests
