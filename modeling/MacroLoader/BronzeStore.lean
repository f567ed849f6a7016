import MacroLoader.BronzeUnitOfWork

/-!
# The Bronze store

A commit writes the months that it believes changed, out of a frame that was
merged in memory. The store stays in order because three things agree: the rows
that a merge changes, the months they are in, and the rows of all other months,
which are the rows that are there (`IsPrepared`). So a store that held a frame
month by month holds the merged frame afterwards (`BronzeHolds.commit`), and
reading all months back gives it (`BronzeHolds.readBronze_eq`).

The merge itself is an upsert in which a row that says nothing new – all of its
columns but the time of its fetch are what they were – leaves the old row alone.
-/

open Program

/-! ## What is prepared -/

/-- The columns of a Bronze frame, by the shape of its series. -/
def bronzeSchema (shape : NativeShape) : List (String × String) :=
  [("series_id", "String"), ("provider", "String"), ("observation_date", "Date"),
    ("fetched_at_utc", "Datetime(us, UTC)"), ("source_id", "String"), ("source_url", "String")]
    ++ match shape with
      | .ohlc => ohlcFields.map (fun f => (f.name, "Float64"))
      | .scalar => [("value", "Float64")]

theorem mem_bronzeColumns {frame : BronzeFrame} {shape : NativeShape}
    (h : frame.schema = bronzeSchema shape) :
    "fetched_at_utc" ∈ frame.columns
      ∧ ∀ column ∈ bronzeLayout.keyColumns, column ∈ frame.columns := by
  rw [Frame.columns, h]
  cases shape <;> decide

section Prepare

variable {existing incoming normalized : BronzeFrame} {prepared : PreparedBronze}
  {contract : SeriesContract}

/-- The incoming row after the join with the row of its key. -/
def stableRow (existing : BronzeFrame) (row : BronzeRow) : BronzeRow :=
  match oldRow bronzeLayout existing row with
  | none => row
  | some old => keepFetchTime row old

@[simp] theorem keepFetchTime_key (row old : BronzeRow) : (keepFetchTime row old).key = row.key := by
  unfold keepFetchTime
  split_ifs <;> rfl

@[simp] theorem stableRow_key (existing : BronzeFrame) (row : BronzeRow) :
    (stableRow existing row).key = row.key := by
  unfold stableRow
  split
  · rfl
  · exact keepFetchTime_key _ _

/-- A row that keeps its fetch time counts as the old one, and any other does not. -/
theorem samePayload_keepFetchTime (row old : BronzeRow) :
    (keepFetchTime row old).samePayload old = row.sameMeaning old := by
  unfold keepFetchTime
  split_ifs with h
  · rw [h]
    show (old.fetchedAtUtc == old.fetchedAtUtc && row.sameMeaning old) = true
    rw [h, beq_self_eq_true, Bool.and_self]
  · rw [BronzeRow.samePayload, Bool.eq_false_iff.mpr h, Bool.and_false]

/-- Where keys are distinct, a row joins with one row at most. -/
theorem stableRows_eq (h : (existing.rows.map BronzeRow.key).Nodup) (row : BronzeRow) :
    stableRows existing row = [stableRow existing row] := by
  unfold stableRows stableRow
  cases hold : oldRow bronzeLayout existing row with
  | none =>
    have hnone : existing.rows.filter (fun old => decide (old.key = row.key)) = [] := by
      refine List.filter_eq_nil_iff.mpr (fun old hmem hkey => ?_)
      have hfound : oldRow bronzeLayout existing row = some old := (oldRow_eq_some h).mpr
        ⟨hmem, (of_decide_eq_true hkey : old.key = row.key)⟩
      rw [hold] at hfound
      cases hfound
    rw [hnone]
  | some old =>
    obtain ⟨hmem, hkey⟩ : old ∈ existing.rows ∧ bronzeLayout.keyOf old = bronzeLayout.keyOf row :=
      (oldRow_eq_some h).mp hold
    have hone : existing.rows.filter (fun old => decide (old.key = row.key)) = [old] := by
      have hkey : old.key = row.key := hkey
      rw [← hkey]
      exact KeyedRows.filter_keyOf_eq h hmem
    rw [hone]
    rfl

/-- **The incoming rows keep their order and their keys**; some get an old fetch time. -/
theorem stableIncoming_spec (hnodup : (existing.rows.map BronzeRow.key).Nodup)
    (hcolumn : existing.rows = [] ∨ incoming.rows = [] ∨ "fetched_at_utc" ∈ incoming.columns)
    (h : stableIncoming existing incoming = .ok normalized) :
    normalized = ⟨incoming.schema, incoming.rows.map (stableRow existing)⟩ := by
  have hid : existing.rows = [] ∨ incoming.rows = [] →
      (⟨incoming.schema, incoming.rows.map (stableRow existing)⟩ : BronzeFrame) = incoming := by
    rintro (hrows | hrows)
    · have hrow : stableRow existing = id := by
        funext row
        rw [stableRow, oldRow, hrows]
        rfl
      rw [hrow, List.map_id]
    · rw [hrows, List.map_nil, ← hrows]
  unfold stableIncoming at h
  split_ifs at h with hshort
  · obtain rfl := Except.ok.inj h
    rw [Bool.or_eq_true, Bool.or_eq_true, Frame.isEmpty_iff, Frame.isEmpty_iff,
      decide_eq_true_iff] at hshort
    refine (hid ?_).symm
    tauto
  · simp only [bind_eq_ok, check_eq_ok, exists_const] at h
    obtain rfl := Except.ok.inj h.2
    have hflat : incoming.rows.flatMap (stableRows existing)
        = incoming.rows.map (stableRow existing) := by
      rw [funext (stableRows_eq hnodup), List.map_eq_flatMap]
    rw [hflat]

/-- **What has been prepared** of the rows that are there and of incoming ones. -/
structure IsPrepared (frame incoming : BronzeFrame) (contract : SeriesContract)
    (prepared : PreparedBronze) : Prop where
  contract_eq : prepared.contract = contract
  incoming_nodup : (incoming.rows.map BronzeRow.key).Nodup
  /-- The merge is the upsert of the incoming rows that say something new. -/
  table : KeyedRows.table BronzeRow.key prepared.merged.rows
    = (KeyedRows.table BronzeRow.key frame.rows).upsert BronzeRow.sameMeaning
      (KeyedRows.table BronzeRow.key incoming.rows)
  sorted : KeyedRows.Sorted BronzeRow.key prepared.merged.rows
  schema : prepared.merged.schema = frame.schema
  /-- The months that are written are those of the changed rows. -/
  months : ∃ months, changedMonths prepared.diff.changed = .ok months
    ∧ prepared.writtenPartitions = months.length
    ∧ ∀ month, month ∈ months
      ↔ ∃ r ∈ prepared.diff.changed.rows, monthKey r.observationDate = month
  /-- The changed rows are the incoming ones that say something new. -/
  mem_changed : ∀ r, r ∈ prepared.diff.changed.rows ↔ r ∈ incoming.rows
    ∧ ∀ old ∈ frame.rows, old.key = r.key → r.sameMeaning old = false
  mem_merged : ∀ r, r ∈ prepared.merged.rows ↔ r ∈ prepared.diff.changed.rows
    ∨ r ∈ frame.rows ∧ r.key ∉ prepared.diff.changed.rows.map BronzeRow.key
  bounds : prepared.postBounds = ⟨(prepared.merged.rows.map (·.observationDate)).min?,
    (prepared.merged.rows.map (·.observationDate)).max?⟩
  changed_dates : ∀ r ∈ prepared.diff.changed.rows,
    dateMin ≤ r.observationDate ∧ r.observationDate ≤ dateMax

theorem prepareFrame_contract (h : prepareFrame contract existing incoming = .ok prepared) :
    prepared.contract = contract := by
  obtain ⟨normalized, -, h⟩ := bind_eq_ok.mp h
  obtain ⟨⟨merged, diff⟩, -, h⟩ := bind_eq_ok.mp h
  obtain ⟨months, -, h⟩ := bind_eq_ok.mp h
  obtain ⟨bounds, -, h⟩ := bind_eq_ok.mp h
  exact Except.ok.inj h ▸ rfl

theorem changedMonths_eq_ok {frame : BronzeFrame} {months : List Month}
    (h : changedMonths frame = .ok months) :
    (∀ r ∈ frame.rows, dateMin ≤ r.observationDate ∧ r.observationDate ≤ dateMax)
      ∧ ∀ month, month ∈ months ↔ ∃ r ∈ frame.rows, monthKey r.observationDate = month := by
  obtain ⟨dates, hdates, h⟩ := bind_eq_ok.mp h
  obtain rfl := Except.ok.inj h
  have hall := forall₂_of_mapM_eq_ok hdates
  have heq : dates = frame.rows.map (·.observationDate) := by
    have hsame := hall.imp (fun d d' hd => (loadDate_eq_ok hd).1.symm)
    exact (List.forall₂_eq_eq_eq ▸ hsame : frame.rows.map (·.observationDate) = dates).symm
  refine ⟨fun r hr => ?_, fun month => ?_⟩
  · obtain ⟨d, -, hd⟩ := forall₂_exists_right hall (List.mem_map_of_mem hr)
    exact (loadDate_eq_ok hd).2
  · rw [List.mem_insertionSort, List.mem_dedup, heq, List.map_map, List.mem_map]
    rfl

theorem postBounds_eq_ok {frame : BronzeFrame} {bounds : ObservationBounds}
    (h : postBounds frame = .ok bounds) :
    bounds = ⟨(frame.rows.map (·.observationDate)).min?,
      (frame.rows.map (·.observationDate)).max?⟩ := by
  obtain ⟨minimum, hmin, h⟩ := bind_eq_ok.mp h
  obtain ⟨maximum, hmax, h⟩ := bind_eq_ok.mp h
  obtain rfl := Except.ok.inj h
  rw [(loadDate?_eq_ok hmin).1, (loadDate?_eq_ok hmax).1]

/-- What a stable row is, by the row that is there. -/
theorem stableRow_of_mem (hnodup : (existing.rows.map BronzeRow.key).Nodup) {row old : BronzeRow}
    (hold : old ∈ existing.rows) (hkey : old.key = row.key) :
    stableRow existing row = keepFetchTime row old := by
  have hfound : oldRow bronzeLayout existing row = some old := (oldRow_eq_some hnodup).mpr
    ⟨hold, (hkey : bronzeLayout.keyOf old = bronzeLayout.keyOf row)⟩
  rw [stableRow, hfound]

theorem stableRow_of_not_mem {row : BronzeRow} (h : ∀ old ∈ existing.rows, old.key ≠ row.key) :
    stableRow existing row = row := by
  have hnone : oldRow bronzeLayout existing row = none :=
    List.find?_eq_none.mpr (fun old hold hkey => h old hold (of_decide_eq_true hkey))
  rw [stableRow, hnone]

/-- **Upserting the stable rows is upserting the rows that say something new.** -/
theorem upsert_stable (hnodup : (existing.rows.map BronzeRow.key).Nodup)
    (hincoming : (incoming.rows.map BronzeRow.key).Nodup) :
    (KeyedRows.table BronzeRow.key existing.rows).upsert BronzeRow.samePayload
        (KeyedRows.table BronzeRow.key (incoming.rows.map (stableRow existing)))
      = (KeyedRows.table BronzeRow.key existing.rows).upsert BronzeRow.sameMeaning
        (KeyedRows.table BronzeRow.key incoming.rows) := by
  have hstable : ((incoming.rows.map (stableRow existing)).map BronzeRow.key).Nodup := by
    rw [List.map_map]
    exact (List.map_congr_left (fun row _ => stableRow_key existing row)).symm ▸ hincoming
  have hget : ∀ k, (KeyedRows.table BronzeRow.key (incoming.rows.map (stableRow existing))).get? k
      = ((KeyedRows.table BronzeRow.key incoming.rows).get? k).map (stableRow existing) := by
    intro k
    cases hrow : (KeyedRows.table BronzeRow.key incoming.rows).get? k with
    | none =>
      have hno := (KeyedRows.get?_table_eq_none hincoming).mp hrow
      refine (KeyedRows.get?_table_eq_none hstable).mpr (fun r hr => ?_)
      obtain ⟨row, hmem, rfl⟩ := List.mem_map.mp hr
      rw [stableRow_key]
      exact hno row hmem
    | some row =>
      obtain ⟨hmem, hkey⟩ := (KeyedRows.mem_table hincoming).mp hrow
      exact (KeyedRows.mem_table hstable).mpr
        ⟨List.mem_map_of_mem hmem, (stableRow_key existing row).trans hkey⟩
  ext k : 1
  rw [KeyedTable.get?_upsert, KeyedTable.get?_upsert, hget]
  cases hnew : (KeyedRows.table BronzeRow.key incoming.rows).get? k with
  | none => rfl
  | some row =>
    obtain ⟨-, hkey⟩ := (KeyedRows.mem_table hincoming).mp hnew
    cases hold : (KeyedRows.table BronzeRow.key existing.rows).get? k with
    | none =>
      have hno := (KeyedRows.get?_table_eq_none hnodup).mp hold
      rw [Option.map_some, stableRow_of_not_mem (fun old hmem => hkey ▸ hno old hmem)]
      rfl
    | some old =>
      obtain ⟨hmem, hkey'⟩ := (KeyedRows.mem_table hnodup).mp hold
      rw [Option.map_some, stableRow_of_mem hnodup hmem (hkey'.trans hkey.symm)]
      simp only [KeyedTable.upsertRow, samePayload_keepFetchTime]
      by_cases hsame : row.sameMeaning old = true
      · rw [if_pos hsame, if_pos hsame]
      · rw [if_neg hsame, if_neg hsame, keepFetchTime, if_neg hsame]

theorem stableIncoming_schema (h : stableIncoming existing incoming = .ok normalized) :
    normalized.schema = incoming.schema
      ∧ ("fetched_at_utc" ∉ incoming.columns → normalized = incoming) := by
  unfold stableIncoming at h
  split_ifs at h with hshort
  · obtain rfl := Except.ok.inj h
    exact ⟨rfl, fun _ => rfl⟩
  · simp only [bind_eq_ok, check_eq_ok, exists_const] at h
    obtain rfl := Except.ok.inj h.2
    refine ⟨rfl, fun hcolumn => absurd ?_ hshort⟩
    rw [decide_eq_true hcolumn, Bool.or_true]

/-- The rows that a merge changes, before and after the join with the rows that are
there. -/
theorem mem_changed_stable {frame : BronzeFrame} {diff : FrameDiff BronzeRow}
    (hdiff : IsDiff bronzeLayout frame
      ⟨incoming.schema, incoming.rows.map (stableRow frame)⟩ diff) (r : BronzeRow) :
    r ∈ diff.changed.rows ↔ r ∈ incoming.rows
      ∧ ∀ old ∈ frame.rows, old.key = r.key → r.sameMeaning old = false := by
  have hnodup : (frame.rows.map BronzeRow.key).Nodup := hdiff.existing_nodup
  have hchanged : r ∈ diff.changed.rows ↔ r ∈ incoming.rows.map (stableRow frame)
      ∧ ∀ old ∈ frame.rows, old.key = r.key → r.samePayload old = false := hdiff.mem_changed
  have hunmoved : ∀ row : BronzeRow,
      (∀ old ∈ frame.rows, old.key = row.key → row.sameMeaning old = false) →
      stableRow frame row = row := by
    intro row hrow
    by_cases hex : ∃ old ∈ frame.rows, old.key = row.key
    · obtain ⟨old, hold, hkey⟩ := hex
      rw [stableRow_of_mem hnodup hold hkey, keepFetchTime, hrow old hold hkey,
        if_neg Bool.false_ne_true]
    · exact stableRow_of_not_mem (fun old hold hkey => hex ⟨old, hold, hkey⟩)
  rw [hchanged, List.mem_map]
  constructor
  · rintro ⟨⟨row, hrow, rfl⟩, hall⟩
    have hmeaning : ∀ old ∈ frame.rows, old.key = row.key → row.sameMeaning old = false := by
      intro old hold hkey
      have hpayload := hall old hold (hkey.trans (stableRow_key frame row).symm)
      rwa [stableRow_of_mem hnodup hold hkey, samePayload_keepFetchTime] at hpayload
    rw [hunmoved row hmeaning]
    exact ⟨hrow, hmeaning⟩
  · rintro ⟨hrow, hall⟩
    refine ⟨⟨r, hrow, hunmoved r hall⟩, fun old hold hkey => ?_⟩
    rw [BronzeRow.samePayload, hall old hold hkey, Bool.and_false]

/-- **Preparing is merging.** -/
theorem isPrepared_of_ok {frame : BronzeFrame} {shape : NativeShape}
    (hsorted : KeyedRows.Sorted BronzeRow.key frame.rows)
    (hschema : frame.schema = bronzeSchema shape)
    (hincoming : frame.rows ≠ [] ∨ incoming.schema = bronzeSchema shape)
    (hexisting : existing = frame ∨ existing = Frame.noColumns ∧ frame.rows = [])
    (h : prepareFrame contract existing incoming = .ok prepared) :
    IsPrepared frame incoming contract prepared := by
  obtain ⟨hfetched, hcolumns⟩ := mem_bronzeColumns hschema
  have hbase : (if existing.columns = [] then incoming.head0 else existing) = frame := by
    rcases hexisting with rfl | ⟨rfl, hrows⟩
    · exact if_neg (List.ne_nil_of_mem hfetched)
    · have hnil : (Frame.noColumns : BronzeFrame).columns = [] := rfl
      rw [if_pos hnil, Frame.head0, hincoming.resolve_left (fun hne => hne hrows), ← hschema,
        ← hrows]
  unfold prepareFrame at h
  rw [hbase] at h
  obtain ⟨normalized, hstable, h⟩ := bind_eq_ok.mp h
  obtain ⟨⟨merged, diff⟩, hmerge, h⟩ := bind_eq_ok.mp h
  obtain ⟨months, hmonths, h⟩ := bind_eq_ok.mp h
  obtain ⟨bounds, hbounds, h⟩ := bind_eq_ok.mp h
  obtain rfl := Except.ok.inj h
  obtain ⟨diff', hdiff, hmerged⟩ := bind_eq_ok.mp hmerge
  cases Except.ok.inj hmerged
  have hdiff := isDiff_of_ok hdiff
  -- the shortcut for a frame without fetch times is taken where there is nothing to compare
  have hcolumn : frame.rows = [] ∨ incoming.rows = [] ∨ "fetched_at_utc" ∈ incoming.columns := by
    by_contra hno
    push Not at hno
    obtain ⟨hrows, hrows', hcol⟩ := hno
    obtain rfl := (stableIncoming_schema hstable).2 hcol
    have hsame := (hdiff.compatible.resolve_left hrows).resolve_left hrows'
    rw [Frame.columns, ← hsame] at hcol
    exact hcol hfetched
  obtain rfl := stableIncoming_spec hdiff.existing_nodup hcolumn hstable
  have hnodup : (incoming.rows.map BronzeRow.key).Nodup := by
    have := hdiff.incoming_nodup
    rw [List.map_map] at this
    exact (List.map_congr_left (fun row _ => stableRow_key frame row)) ▸ this
  obtain ⟨hdates, hmem⟩ := changedMonths_eq_ok hmonths
  refine ⟨rfl, hnodup, ?_, hdiff.sorted_mergedFrame hsorted, ?_, ⟨months, hmonths, rfl, hmem⟩,
    mem_changed_stable hdiff, fun r => hdiff.mem_mergedFrame, postBounds_eq_ok hbounds, hdates⟩
  · exact hdiff.table_mergedFrame.trans (upsert_stable hdiff.existing_nodup hnodup)
  · unfold mergedFrame
    split_ifs with hchanges hempty
    · rfl
    · rw [hincoming.resolve_left (fun hne => hne (Frame.isEmpty_iff.mp hempty)), hschema]
    · rfl

/-- Dates of Python have bounds. -/
theorem postBounds_isOk {frame : BronzeFrame}
    (h : ∀ r ∈ frame.rows, dateMin ≤ r.observationDate ∧ r.observationDate ≤ dateMax) :
    ∃ bounds, postBounds frame = .ok bounds := by
  have hrange : ∀ d ∈ frame.rows.map (·.observationDate), dateMin ≤ d ∧ d ≤ dateMax := by
    intro d hd
    obtain ⟨r, hr, rfl⟩ := List.mem_map.mp hd
    exact h r hr
  exact ⟨_, bind_eq_ok.mpr ⟨_, loadDate?_of_range (fun d hd =>
    hrange d (List.min?_eq_some_iff.mp hd).1), bind_eq_ok.mpr ⟨_, loadDate?_of_range (fun d hd =>
    hrange d (List.max?_eq_some_iff.mp hd).1), rfl⟩⟩⟩

/-- Dates of Python have months. -/
theorem changedMonths_isOk {frame : BronzeFrame}
    (h : ∀ r ∈ frame.rows, dateMin ≤ r.observationDate ∧ r.observationDate ≤ dateMax) :
    ∃ months, changedMonths frame = .ok months := by
  obtain ⟨dates, hdates, -⟩ := exists_mapM_eq_ok (f := loadDate)
    (R := fun _ _ => True) (l := frame.rows.map (·.observationDate)) (fun d hd => by
      obtain ⟨r, hr, rfl⟩ := List.mem_map.mp hd
      exact ⟨r.observationDate, loadDate_of_range (h r hr), trivial⟩)
  exact ⟨_, bind_eq_ok.mpr ⟨dates, hdates, rfl⟩⟩

/-- **Rows of the series can be prepared.** -/
theorem prepareFrame_isOk {frame : BronzeFrame} {shape : NativeShape}
    (hsorted : KeyedRows.Sorted BronzeRow.key frame.rows)
    (hschema : frame.schema = bronzeSchema shape) (hincoming : incoming.schema = bronzeSchema shape)
    (hdates : ∀ r ∈ frame.rows, dateMin ≤ r.observationDate ∧ r.observationDate ≤ dateMax)
    (hnodup : (incoming.rows.map BronzeRow.key).Nodup)
    (hdates' : ∀ r ∈ incoming.rows, dateMin ≤ r.observationDate ∧ r.observationDate ≤ dateMax)
    (hexisting : existing = frame ∨ existing = Frame.noColumns ∧ frame.rows = []) :
    ∃ prepared, prepareFrame contract existing incoming = .ok prepared := by
  obtain ⟨hfetched, hcolumns⟩ := mem_bronzeColumns hincoming
  have hbase : (if existing.columns = [] then incoming.head0 else existing) = frame := by
    rcases hexisting with rfl | ⟨rfl, hrows⟩
    · exact if_neg (List.ne_nil_of_mem (mem_bronzeColumns hschema).1)
    · have hnil : (Frame.noColumns : BronzeFrame).columns = [] := rfl
      rw [if_pos hnil, Frame.head0, hincoming, ← hschema, ← hrows]
  have hstable : ∃ normalized, stableIncoming frame incoming = .ok normalized := by
    unfold stableIncoming
    split_ifs
    · exact ⟨_, rfl⟩
    · refine ⟨_, bind_eq_ok.mpr ⟨(), check_eq_ok.mpr (fun column hcolumn => ?_), rfl⟩⟩
      rwa [Frame.columns, hschema, ← hincoming]
  obtain ⟨normalized, hstable⟩ := hstable
  have hnormal := stableIncoming_spec hsorted.nodup (.inr (.inr hfetched)) hstable
  have hnodup' : (normalized.rows.map bronzeLayout.keyOf).Nodup := by
    rw [hnormal, List.map_map]
    exact (List.map_congr_left (fun row _ => stableRow_key frame row)).symm ▸ hnodup
  obtain ⟨diff, hdiff⟩ : ∃ diff, diffFrames bronzeLayout frame normalized = .ok diff :=
    diffFrames_isOk (by decide) (by rw [hnormal]; exact hcolumns)
      (by rw [hnormal, hschema, hincoming]) hsorted.nodup hnodup'
  have hisDiff := isDiff_of_ok hdiff
  have hchanged : ∀ r ∈ diff.changed.rows,
      dateMin ≤ r.observationDate ∧ r.observationDate ≤ dateMax := by
    intro r hr
    rw [hnormal] at hisDiff
    exact hdates' r ((mem_changed_stable hisDiff r).mp hr).1
  have hmerged : ∀ r ∈ (mergedFrame bronzeLayout frame normalized diff).rows,
      dateMin ≤ r.observationDate ∧ r.observationDate ≤ dateMax := by
    intro r hr
    rcases hisDiff.mem_mergedFrame.mp hr with hr | hr
    · exact hchanged r hr
    · exact hdates r hr.1
  obtain ⟨months, hmonths⟩ := changedMonths_isOk hchanged
  obtain ⟨bounds, hbounds⟩ := postBounds_isOk hmerged
  unfold prepareFrame
  rw [hbase]
  exact ⟨_, bind_eq_ok.mpr ⟨normalized, hstable, bind_eq_ok.mpr ⟨(_, diff),
    bind_eq_ok.mpr ⟨diff, hdiff, rfl⟩, bind_eq_ok.mpr ⟨months, hmonths,
    bind_eq_ok.mpr ⟨bounds, hbounds, rfl⟩⟩⟩⟩⟩

/-- **The months that are not written have not changed**: a row outside of them has not
changed, and has not the key of one that has. -/
theorem IsPrepared.mem_outside {frame : BronzeFrame} (h : IsPrepared frame incoming contract prepared)
    {months : List Month} (hmonths : ∀ month, month ∈ months
      ↔ ∃ r ∈ prepared.diff.changed.rows, monthKey r.observationDate = month)
    {r : BronzeRow} (hr : monthKey r.observationDate ∉ months) :
    r ∈ prepared.merged.rows ↔ r ∈ frame.rows := by
  have hout : ∀ row ∈ prepared.diff.changed.rows,
      monthKey row.observationDate ≠ monthKey r.observationDate :=
    fun row hrow heq => hr ((hmonths _).mpr ⟨row, hrow, heq⟩)
  rw [h.mem_merged]
  constructor
  · rintro (hchanged | ⟨hold, -⟩)
    · exact absurd rfl (hout r hchanged)
    · exact hold
  · intro hold
    refine .inr ⟨hold, fun hkey => ?_⟩
    obtain ⟨row, hrow, hkey⟩ := List.mem_map.mp hkey
    exact hout row hrow (congrArg monthKey (BronzeRow.date_eq_of_key_eq hkey))

end Prepare

/-! ## What the store holds -/

section Holds

variable {uow : BronzeUnitOfWork} {contract : SeriesContract} {lake s : BronzeLake}
  {frame incoming : BronzeFrame} {prepared : PreparedBronze}

/-- **The Bronze of a series holds a frame**: month by month, in the columns of the series
and with dates that Python has. -/
structure BronzeHolds (uow : BronzeUnitOfWork) (contract : SeriesContract) (lake : BronzeLake)
    (frame : BronzeFrame) : Prop where
  months : MonthsHold uow.frameFormat.decode bronzeLayout
    (fun r => monthKey r.observationDate) (lake.months contract.key) frame
  schema : frame.schema = bronzeSchema contract.nativeShape
  dates : ∀ r ∈ frame.rows, dateMin ≤ r.observationDate ∧ r.observationDate ≤ dateMax

/-- A series without files holds no rows. -/
theorem bronzeHolds_empty (h : lake.months contract.key = KeyedTable.empty) :
    BronzeHolds uow contract lake ⟨bronzeSchema contract.nativeShape, []⟩ where
  months := h ▸ monthsHold_empty _
  schema := rfl
  dates _ h := by cases h

theorem BronzeHolds.congr (h : BronzeHolds uow contract lake frame)
    (hmonths : s.months contract.key = lake.months contract.key) :
    BronzeHolds uow contract s frame :=
  ⟨hmonths ▸ h.months, h.schema, h.dates⟩

theorem BronzeHolds.sorted (h : BronzeHolds uow contract lake frame) :
    KeyedRows.Sorted BronzeRow.key frame.rows := h.months.sorted

/-- **The store is read back** as the frame that it holds; where there is no file, as a
frame without columns. -/
theorem BronzeHolds.readBronze_eq (h : BronzeHolds uow contract lake frame) :
    uow.readBronze lake contract.key
      = .ok (if (lake.months contract.key).rows = [] then Frame.noColumns else frame) :=
  h.months.readMonthly_eq

/-- Where there are rows, all of the frame is read back. -/
theorem BronzeHolds.readBronze_of_ne_nil (h : BronzeHolds uow contract lake frame)
    (hrows : frame.rows ≠ []) : uow.readBronze lake contract.key = .ok frame := by
  rw [h.readBronze_eq, if_neg (fun hfiles => hrows (h.months.rows_eq_nil hfiles))]

theorem BronzeHolds.observationBounds_eq (h : BronzeHolds uow contract lake frame)
    (pathOf : Month → String) :
    observationBounds uow.frameFormat.decode (·.observationDate) pathOf (lake.months contract.key)
      = .ok ⟨(frame.rows.map (·.observationDate)).min?,
          (frame.rows.map (·.observationDate)).max?⟩ :=
  h.months.observationBounds_eq (by decide) h.dates

/-- The frame that a store holds is determined by the store, where there are rows. -/
theorem BronzeHolds.unique {frame' : BronzeFrame} (h : BronzeHolds uow contract lake frame)
    (h' : BronzeHolds uow contract lake frame') : frame = frame' := by
  by_cases hfiles : (lake.months contract.key).rows = []
  · have hrows := h.months.rows_eq_nil hfiles
    have hrows' := h'.months.rows_eq_nil hfiles
    have hschema := h.schema.trans h'.schema.symm
    cases frame
    cases frame'
    simp_all
  · have hread := h.readBronze_eq
    rw [h'.readBronze_eq, if_neg hfiles, if_neg hfiles] at hread
    exact (Except.ok.inj hread).symm

/-- **Preparing a commit on a store**: the merge of what it holds with what comes in. -/
theorem BronzeHolds.isPrepared (h : BronzeHolds uow contract lake frame)
    (hincoming : frame.rows ≠ [] ∨ incoming.schema = bronzeSchema contract.nativeShape)
    (hprepared : (uow.readBronze lake contract.key >>= fun existing =>
      prepareFrame contract existing incoming) = .ok prepared) :
    IsPrepared frame incoming contract prepared := by
  obtain ⟨existing, hread, hprepared⟩ := bind_eq_ok.mp hprepared
  rw [h.readBronze_eq] at hread
  refine isPrepared_of_ok h.sorted h.schema hincoming ?_ hprepared
  obtain rfl := Except.ok.inj hread
  split_ifs with hfiles
  · exact .inr ⟨rfl, h.months.rows_eq_nil hfiles⟩
  · exact .inl rfl

/-- Rows of the series can be merged into what the store holds. -/
theorem BronzeHolds.exists_prepared (h : BronzeHolds uow contract lake frame)
    (hschema : incoming.schema = bronzeSchema contract.nativeShape)
    (hnodup : (incoming.rows.map BronzeRow.key).Nodup)
    (hdates : ∀ r ∈ incoming.rows, dateMin ≤ r.observationDate ∧ r.observationDate ≤ dateMax) :
    ∃ prepared, (uow.readBronze lake contract.key >>= fun existing =>
      prepareFrame contract existing incoming) = .ok prepared := by
  rw [h.readBronze_eq]
  refine prepareFrame_isOk h.sorted h.schema hschema h.dates hnodup hdates ?_
  split_ifs with hfiles
  · exact .inr ⟨rfl, h.months.rows_eq_nil hfiles⟩
  · exact .inl rfl

/-- The dates of a merge are dates of Python. -/
theorem IsPrepared.dates (h : IsPrepared frame incoming contract prepared)
    (hdates : ∀ r ∈ frame.rows, dateMin ≤ r.observationDate ∧ r.observationDate ≤ dateMax) :
    ∀ r ∈ prepared.merged.rows, dateMin ≤ r.observationDate ∧ r.observationDate ≤ dateMax := by
  intro r hr
  rcases (h.mem_merged r).mp hr with hchanged | ⟨hold, -⟩
  · exact h.changed_dates r hchanged
  · exact hdates r hold

/-- **A commit leaves the merged frame**, although it writes the changed months only. -/
theorem BronzeHolds.commit {months : List Month} (h : BronzeHolds uow contract lake frame)
    (hprepared : IsPrepared frame incoming contract prepared)
    (hmonths : changedMonths prepared.diff.changed = .ok months)
    (hwrites : WritesMonths uow prepared months lake s) :
    BronzeHolds uow contract s prepared.merged := by
  have hschema := hprepared.schema.trans h.schema
  have hkey : prepared.contract.key = contract.key := by rw [hprepared.contract_eq]
  have hsame : ∀ r : BronzeRow, monthKey r.observationDate ∉ months →
      (r ∈ prepared.merged.rows ↔ r ∈ frame.rows) := fun r hr =>
    hprepared.mem_outside (changedMonths_eq_ok hmonths).2 hr
  refine ⟨h.months.rewrite uow.frameFormat.readBack hprepared.sorted (fun _ => hprepared.schema)
    (mem_bronzeColumns hschema).2 hsame ?_, hschema, hprepared.dates h.dates⟩
  intro month
  have hmonth := hwrites.month month
  rw [hkey] at hmonth
  exact hmonth

end Holds
