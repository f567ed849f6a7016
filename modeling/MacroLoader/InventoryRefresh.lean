import MacroLoader.Medallion

/-!
# The inventory

The inventory says, for every canonical series, what Bronze holds of it: how many rows, from
when to when, how many of them share their key, in how many files. It is computed from the
files alone, all of which are read again each time, and it replaces the one that was there.

A store in which every commit has kept the keys distinct has no duplicates to report, so what
the inventory says of such a store is what the store holds (`StoreInvariant.inventoryRecord`).
-/

open Program

/-! ## Records -/

/-- Observed authoritative Bronze coverage for one canonical series. -/
structure InventoryRecord where
  seriesId : String
  provider : Provider
  minObservationDate : Option Date
  maxObservationDate : Option Date
  rowCount : ℕ
  duplicateKeyCount : ℕ
  fileCount : ℕ
  deriving DecidableEq

instance : Countable InventoryRecord :=
  Function.Injective.countable (f := fun r : InventoryRecord =>
    ((r.seriesId, r.provider, r.minObservationDate, r.maxObservationDate),
      (r.rowCount, r.duplicateKeyCount, r.fileCount))) (by
    rintro ⟨⟩ ⟨⟩ h
    simp_all only [Prod.mk.injEq])

/-- The rows whose key another row has too. -/
def duplicateKeys {κ : Type} [DecidableEq κ] (keys : List κ) : List κ :=
  keys.filter (fun key => decide (1 < keys.count key))

theorem duplicateKeys_eq_nil {κ : Type} [DecidableEq κ] {keys : List κ} (h : keys.Nodup) :
    duplicateKeys keys = [] :=
  List.filter_eq_nil_iff.mpr (fun key _ => by
    have := List.nodup_iff_count_le_one.mp h key
    simpa using this)

theorem nodup_of_duplicateKeys {κ : Type} [DecidableEq κ] {keys : List κ}
    (h : duplicateKeys keys = []) : keys.Nodup := by
  refine List.nodup_iff_count_le_one.mpr (fun key => ?_)
  by_cases hmem : key ∈ keys
  · have := List.filter_eq_nil_iff.mp h key hmem
    simpa using this
  · rw [List.count_eq_zero.mpr hmem]
    exact zero_le_one

/-- The registry of the series, by their ids. -/
structure SeriesRegistry where
  contracts : List SeriesContract
  nodup : (contracts.map (·.seriesId)).Nodup

namespace SeriesRegistry

/-- The ids, in the order of the registry. -/
def ids (registry : SeriesRegistry) : List String := registry.contracts.map (·.seriesId)

/-- The contract of an id. -/
def find? (registry : SeriesRegistry) (seriesId : String) : Option SeriesContract :=
  registry.contracts.find? (fun contract => contract.seriesId == seriesId)

theorem find?_eq_some {registry : SeriesRegistry} {seriesId : String} {contract : SeriesContract} :
    registry.find? seriesId = some contract
      ↔ contract ∈ registry.contracts ∧ contract.seriesId = seriesId := by
  constructor
  · intro h
    exact ⟨List.mem_of_find?_eq_some h, by simpa using List.find?_some h⟩
  · rintro ⟨hmem, rfl⟩
    cases hfound : registry.find? contract.seriesId with
    | none =>
      have := List.find?_eq_none.mp hfound contract hmem
      simp at this
    | some found =>
      have hid : found.seriesId = contract.seriesId := by simpa using List.find?_some hfound
      rw [List.inj_on_of_nodup_map registry.nodup (List.mem_of_find?_eq_some hfound) hmem hid]

/-- `SERIES_REGISTRY`. -/
def canonical : SeriesRegistry where
  contracts := goldSourceSeries.map Series.contract
  nodup := by
    rw [List.map_map]
    exact goldSourceSeries_ids_nodup

theorem mem_canonical (s : Series) : s.contract ∈ canonical.contracts :=
  List.mem_map.mpr ⟨s, mem_goldSourceSeries s, rfl⟩

end SeriesRegistry

/-! ## The refresh -/

/-- `InventoryRefreshService`: the registry, and the formats of the files. -/
structure InventoryRefreshService where
  registry : SeriesRegistry
  frameFormat : FileFormat BronzeFrame
  inventoryFormat : FileFormat (List InventoryRecord)

namespace InventoryRefreshService

variable (service : InventoryRefreshService)

/-- `_record`, of the month files of a series. -/
def record (contract : SeriesContract) (files : MonthFiles) : Except PyError InventoryRecord :=
  if files.rows = [] then
    .ok
      { seriesId := contract.seriesId
        provider := contract.provider
        minObservationDate := none
        maxObservationDate := none
        rowCount := 0
        duplicateKeyCount := 0
        fileCount := 0 }
  else do
    let frame ← readMonths service.frameFormat.decode files
    let missing := ["observation_date", "provider", "series_id"].filter
      (fun column => decide (column ∉ frame.columns))
    check (missing = [])
      (.valueError ("Bronze inventory frame missing columns: " ++ pyNames missing))
    check (frame.typeOf "observation_date" = some "Date")
      (.typeError "Bronze inventory observation_date must be Date")
    check ((frame.rows.map (·.provider)).dedup = [contract.provider.value]
        ∧ (frame.rows.map (·.seriesId)).dedup = [contract.seriesId])
      (.valueError "Bronze inventory identity mismatch")
    let minimum ← loadDate? (frame.rows.map (·.observationDate)).min?
    let maximum ← loadDate? (frame.rows.map (·.observationDate)).max?
    return {
      seriesId := contract.seriesId
      provider := contract.provider
      minObservationDate := minimum
      maxObservationDate := maximum
      rowCount := frame.rows.length
      duplicateKeyCount :=
        (duplicateKeys (frame.rows.map (fun r => (r.seriesId, r.observationDate)))).length
      fileCount := files.rows.length }

/-- `_inventory_frame`: the rows of the snapshot, in the order of their ids. -/
def inventoryFrame (records : List InventoryRecord) : Except PyError (List InventoryRecord) := do
  check (records.map (·.seriesId)).Nodup (.valueError "duplicate inventory series_id")
  return KeyedRows.sortRows (·.seriesId) records

/-- `write_inventory`. -/
def writeInventory (records : List InventoryRecord) : LakeProgram Unit := do
  let rows ← ofExcept (inventoryFrame records)
  write (fun lake => { lake with inventory := some (service.inventoryFormat.encode rows) })

/-- `read_inventory`. -/
def readInventory (file : Option Bytes) : Except PyError (List InventoryRecord) :=
  match file with
  | none => .ok []
  | some bytes => service.inventoryFormat.decode bytes

/-- **`refresh`.** -/
def refresh : LakeProgram (List InventoryRecord) := do
  let records ← collect service.registry.contracts (fun contract =>
    query (fun lake => service.record contract (lake.bronze.months contract.key)))
  service.writeInventory records
  return records

end InventoryRefreshService

/-! ## What the inventory says of a store -/

/-- Dates have the same bounds in any order. -/
theorem bounds_of_perm {dates dates' : List Date} (h : dates.Perm dates') :
    dates.min? = dates'.min? ∧ dates.max? = dates'.max? := by
  have hmem : ∀ d, d ∈ dates' ↔ ∃ part ∈ [dates], d ∈ part := fun d => by
    simp only [List.mem_singleton, exists_eq_left, h.mem_iff]
  have hmin : ([dates].filterMap List.min?).min? = dates.min? := by
    cases hdate : dates.min? <;> simp [hdate]
  have hmax : ([dates].filterMap List.max?).max? = dates.max? := by
    cases hdate : dates.max? <;> simp [hdate]
  exact ⟨hmin.symm.trans (min?_of_forall hmem), hmax.symm.trans (max?_of_forall hmem)⟩

/-- A column has one value if there are rows and all have this value. -/
theorem dedup_eq_singleton {α : Type} [DecidableEq α] {l : List α} {a : α} :
    l.dedup = [a] ↔ l ≠ [] ∧ ∀ b ∈ l, b = a := by
  constructor
  · intro h
    refine ⟨fun hnil => ?_, fun b hb => ?_⟩
    · rw [hnil] at h
      cases h
    · exact List.mem_singleton.mp (h ▸ List.mem_dedup.mpr hb)
  · rintro ⟨hne, hall⟩
    refine List.perm_singleton.mp ((List.perm_ext_iff_of_nodup (List.nodup_dedup l)
      (List.nodup_singleton a)).mpr (fun b => ?_))
    rw [List.mem_dedup, List.mem_singleton]
    refine ⟨hall b, ?_⟩
    rintro rfl
    obtain ⟨c, hc⟩ := List.exists_mem_of_ne_nil l hne
    exact hall c hc ▸ hc

/-- What the inventory should say of the rows of a series. -/
def coverage (contract : SeriesContract) (frame : BronzeFrame) (fileCount : ℕ) :
    InventoryRecord where
  seriesId := contract.seriesId
  provider := contract.provider
  minObservationDate := (frame.rows.map (·.observationDate)).min?
  maxObservationDate := (frame.rows.map (·.observationDate)).max?
  rowCount := frame.rows.length
  duplicateKeyCount := 0
  fileCount := fileCount

/-- All rows are of the series. -/
def IsOfSeries (contract : SeriesContract) (frame : BronzeFrame) : Prop :=
  ∀ r ∈ frame.rows, r.provider = contract.provider.value ∧ r.seriesId = contract.seriesId

section Record

variable {orchestrator : BronzeOrchestrator} {contract : SeriesContract} {lake : BronzeLake}
  {frame : BronzeFrame} {registry : SeriesRegistry}
  {inventoryFormat : FileFormat (List InventoryRecord)}

theorem mem_inventoryColumns {shape : NativeShape} (h : frame.schema = bronzeSchema shape) :
    ["observation_date", "provider", "series_id"].filter
        (fun column => decide (column ∉ frame.columns)) = []
      ∧ frame.typeOf "observation_date" = some "Date" := by
  rw [Frame.columns, Frame.typeOf, h]
  cases shape <;> decide

/-- **The inventory says what the store holds**, and refuses rows of another series. -/
theorem StoreInvariant.inventoryRecord (h : StoreInvariant orchestrator contract lake frame)
    {record : InventoryRecord} :
    InventoryRefreshService.record ⟨registry, orchestrator.uow.frameFormat, inventoryFormat⟩ contract
        (lake.months contract.key) = .ok record
      ↔ IsOfSeries contract frame
        ∧ record = coverage contract frame (lake.months contract.key).rows.length := by
  unfold InventoryRefreshService.record
  by_cases hfiles : (lake.months contract.key).rows = []
  · have hrows := h.holds.months.rows_eq_nil hfiles
    rw [if_pos hfiles, hfiles, coverage, hrows, IsOfSeries, hrows]
    simp only [List.not_mem_nil, false_imp_iff, implies_true, true_and, Except.ok.injEq,
      List.map_nil, List.min?_nil, List.max?_nil, List.length_nil]
    exact eq_comm
  · obtain ⟨rows, hread, hperm⟩ := h.holds.months.readMonths_eq hfiles
    have hne : frame.rows ≠ [] := fun hnil => hfiles (h.files hnil)
    obtain ⟨hmissing, htype⟩ := @mem_inventoryColumns ⟨frame.schema, rows⟩ _ h.holds.schema
    have hdates := hperm.map (fun r : BronzeRow => r.observationDate)
    obtain ⟨hmin, hmax⟩ := bounds_of_perm hdates
    have hrange : ∀ d ∈ frame.rows.map (fun r : BronzeRow => r.observationDate),
        dateMin ≤ d ∧ d ≤ dateMax := by
      intro d hd
      obtain ⟨r, hr, rfl⟩ := List.mem_map.mp hd
      exact h.holds.dates r hr
    have hloadMin := loadDate?_of_range (fun d hd => hrange d (List.min?_eq_some_iff.mp hd).1)
    have hloadMax := loadDate?_of_range (fun d hd => hrange d (List.max?_eq_some_iff.mp hd).1)
    -- the rows are those of the series if each column has one value
    have hidentity : ((rows.map (·.provider)).dedup = [contract.provider.value]
        ∧ (rows.map (·.seriesId)).dedup = [contract.seriesId]) ↔ IsOfSeries contract frame := by
      have hrows : rows ≠ [] := fun hnil => hne (by simpa [hnil] using hperm.symm)
      rw [dedup_eq_singleton, dedup_eq_singleton]
      simp only [ne_eq, List.map_eq_nil_iff, hrows, not_false_eq_true, true_and, List.forall_mem_map]
      rw [IsOfSeries, ← forall₂_and]
      exact forall_congr' (fun r => by rw [hperm.mem_iff])
    rw [if_neg hfiles]
    simp only [bind_eq_ok, check_eq_ok, exists_const, hread, Except.ok.injEq, exists_eq_left',
      hmissing, htype, true_and, hidentity, hmin, hmax, hloadMin, hloadMax]
    refine and_congr_right (fun hof => ?_)
    have hnodup : (rows.map BronzeRow.key).Nodup :=
      (hperm.map BronzeRow.key).nodup_iff.mpr h.holds.sorted.nodup
    have hkeys : (rows.map (fun r => (r.seriesId, r.observationDate))).Nodup := by
      refine (List.nodup_map_iff_inj_on (List.Nodup.of_map _ hnodup)).mpr (fun r hr r' hr' heq => ?_)
      obtain ⟨hseries, hdate⟩ := Prod.mk.inj heq
      refine List.inj_on_of_nodup_map hnodup hr hr' ?_
      rw [BronzeRow.key, BronzeRow.key, hseries, hdate, (hof r (hperm.mem_iff.mp hr)).1,
        (hof r' (hperm.mem_iff.mp hr')).1]
    rw [duplicateKeys_eq_nil hkeys, hperm.length_eq]
    exact ⟨fun heq => (Except.ok.inj heq).symm, fun heq => heq ▸ rfl⟩

end Record

/-! ## What a refresh leaves -/

/-- At most the inventory has changed. -/
def OnlyInventory (s s' : MedallionLake) : Prop := s' = { s with inventory := s'.inventory }

instance : Std.Refl OnlyInventory := ⟨fun _ => rfl⟩

namespace InventoryRefreshService

variable {service : InventoryRefreshService} {s : MedallionLake}

theorem onlyInventory (file : Option Bytes) : OnlyInventory s { s with inventory := file } := rfl

/-- What a refresh has read of the series, all of it at once. -/
def Reads (service : InventoryRefreshService) (s : MedallionLake)
    (records : List InventoryRecord) : Prop :=
  List.Forall₂ (fun contract record =>
    service.record contract (s.bronze.months contract.key) = .ok record)
    service.registry.contracts records

/-- **A refresh** writes the inventory of what it has read, and nothing else. -/
theorem wp_refresh (service : InventoryRefreshService) (s : MedallionLake) :
    wp service.refresh ⟨fun records s' => OnlyInventory s s' ∧ service.Reads s records
        ∧ service.readInventory s'.inventory = .ok (KeyedRows.sortRows (·.seriesId) records),
      fun _ s' => OnlyInventory s s', OnlyInventory s⟩ s := by
  unfold refresh writeInventory inventoryFrame
  have hstay : OnlyInventory s s := Std.Refl.refl s
  refine wp_bind (wp_mono (wp_collect_keeping (I := (· = s)) (P := fun contract record =>
    service.record contract (s.bronze.months contract.key) = .ok record) rfl ?_) ?_ ?_ ?_)
  · rintro contract - s' rfl
    exact wp_query_keeping rfl (fun record hrecord => hrecord)
  · rintro records s' ⟨rfl, hrecords⟩
    refine wp_bind (wp_bind (wp_ofExcept (fun rows hrows => ?_) (fun _ _ => hstay)))
    have hrows : rows = KeyedRows.sortRows (·.seriesId) records :=
      (Except.ok.inj (bind_eq_ok.mp hrows).choose_spec.2).symm
    refine wp_write ?_ (fun _ => ⟨hstay, onlyInventory _⟩) ⟨hstay, onlyInventory _⟩
    refine wp_pure ⟨onlyInventory _, hrecords, ?_⟩
    rw [← hrows]
    exact service.inventoryFormat.readBack rows
  · rintro _ s' rfl
    exact hstay
  · rintro s' rfl
    exact hstay

/-- **A refresh goes through** when nothing fails, if the files of every series can be
read. -/
theorem succeeds_refresh {records : List InventoryRecord} (h : service.Reads s records)
    (hids : ∀ contract record, service.record contract (s.bronze.months contract.key) = .ok record →
      record.seriesId = contract.seriesId) :
    Succeeds service.refresh s (fun _ _ => True) := by
  unfold refresh writeInventory inventoryFrame
  have hread : ∀ contract ∈ service.registry.contracts, ∃ record,
      service.record contract (s.bronze.months contract.key) = .ok record := fun contract hmem => by
    obtain ⟨record, -, hrecord⟩ := forall₂_exists_right h hmem
    exact ⟨record, hrecord⟩
  refine succeeds_bind ((succeeds_collect (I := (· = s)) (P := fun contract record =>
    service.record contract (s.bronze.months contract.key) = .ok record) rfl ?_).mono ?_)
  · rintro contract hmem s' rfl
    obtain ⟨record, hrecord⟩ := hread contract hmem
    exact succeeds_query hrecord ⟨rfl, hrecord⟩
  · rintro found s' ⟨rfl, hfound⟩
    -- the records have the ids of the registry
    have hmap : found.map (·.seriesId) = service.registry.ids := by
      have hsame : List.Forall₂ (· = ·) (found.map (·.seriesId)) service.registry.ids := by
        rw [SeriesRegistry.ids, List.forall₂_map_left_iff, List.forall₂_map_right_iff]
        exact hfound.flip.imp (fun record contract hrecord => hids contract record hrecord)
      rwa [List.forall₂_eq_eq_eq] at hsame
    have hnodup : (found.map (·.seriesId)).Nodup := hmap ▸ service.registry.nodup
    refine succeeds_bind (succeeds_bind (succeeds_ofExcept (bind_eq_ok.mpr
      ⟨(), check_eq_ok.mpr hnodup, rfl⟩) (succeeds_write ?_)))
    exact succeeds_pure trivial

end InventoryRefreshService
