import MacroLoader.GoldCatalog

/-!
# What the catalog file accepts

Every catalog that is written, and every catalog that is read, goes through
`_frame`: each record is checked on its own, no two records have the same build
id, and at most one is current. `WellFormedCatalog` is what those checks amount
to, and `catalogFrame_eq_ok` says so; after it, no proof looks at the checks
again. The order of the rows is the only thing that the file changes about a
list of records, so that everything said of a catalog is said up to the order.
-/

namespace GoldCatalogRecord

/-- The date-times of a record, by the name of their field. -/
def datetimes (r : GoldCatalogRecord) : List (String × Option PyDatetime) :=
  [("started_at_utc", some r.startedAtUtc), ("completed_at_utc", r.completedAtUtc),
    ("min_timestamp", r.minTimestamp), ("max_timestamp", r.maxTimestamp),
    ("pruned_at_utc", r.prunedAtUtc)]

/-- The paths of a record. -/
def paths (r : GoldCatalogRecord) : List (Option String) :=
  [r.dataPath, r.buildManifestPath, r.plotPath]

/-- `_validate_record`. -/
def validate (r : GoldCatalogRecord) : Except PyError Unit := do
  r.datetimes.forM (fun field =>
    check (field.2.all (·.isAware) = true) (.valueError (field.1 ++ " must be timezone-aware")))
  check (∀ n ∈ r.rowCount, 0 ≤ n) (.valueError "row_count cannot be negative")
  check (∀ t ∈ r.completedAtUtc, r.startedAtUtc.instant ≤ t.instant)
    (.valueError "completed_at_utc cannot precede started_at_utc")
  check (∀ a ∈ r.minTimestamp, ∀ b ∈ r.maxTimestamp, a.instant ≤ b.instant)
    (.valueError "max_timestamp cannot precede min_timestamp")
  check (r.paths.any Option.isSome = true → r.paths.all Option.isSome = true)
    (.valueError "Gold artifact paths must be all present or all null")
  check (r.current = true → r.status = .complete)
    (.valueError "only a complete Gold build may be current")
  check (r.current = true → r.prunedAtUtc = none)
    (.valueError "a pruned Gold build cannot be current")
  check (r.status = .complete → r.prunedAtUtc = none →
      r.completedAtUtc.isSome = true ∧ r.rowCount.isSome = true ∧ r.artifactPathsComplete = true)
    (.valueError
      "unpruned complete Gold build requires completion metadata and all artifact paths")

/-- **A record that the catalog accepts.** -/
structure WellFormed (r : GoldCatalogRecord) : Prop where
  aware : ∀ field ∈ r.datetimes, field.2.all (·.isAware) = true
  rowCount_nonneg : ∀ n ∈ r.rowCount, 0 ≤ n
  completed_after : ∀ t ∈ r.completedAtUtc, r.startedAtUtc.instant ≤ t.instant
  bounds_ordered : ∀ a ∈ r.minTimestamp, ∀ b ∈ r.maxTimestamp, a.instant ≤ b.instant
  paths_together : r.paths.any Option.isSome = true → r.paths.all Option.isSome = true
  complete_of_current : r.current = true → r.status = .complete
  unpruned_of_current : r.current = true → r.prunedAtUtc = none
  complete_artifacts : r.status = .complete → r.prunedAtUtc = none →
    r.completedAtUtc.isSome = true ∧ r.rowCount.isSome = true ∧ r.artifactPathsComplete = true

theorem validate_eq_ok {r : GoldCatalogRecord} {u : Unit} : r.validate = .ok u ↔ r.WellFormed := by
  unfold validate
  simp only [bind_eq_ok, forM_eq_ok, check_eq_ok, exists_const]
  constructor
  · rintro ⟨h₁, h₂, h₃, h₄, h₅, h₆, h₇, h₈⟩
    exact ⟨h₁, h₂, h₃, h₄, h₅, h₆, h₇, h₈⟩
  · rintro ⟨h₁, h₂, h₃, h₄, h₅, h₆, h₇, h₈⟩
    exact ⟨h₁, h₂, h₃, h₄, h₅, h₆, h₇, h₈⟩

/-- The current record is a build that consumers can select. -/
theorem WellFormed.selectable_of_current {r : GoldCatalogRecord} (h : r.WellFormed)
    (hcurrent : r.current = true) : r.selectableComplete = true := by
  have hstatus := h.complete_of_current hcurrent
  have hpruned := h.unpruned_of_current hcurrent
  obtain ⟨hcompleted, -, hpaths⟩ := h.complete_artifacts hstatus hpruned
  simp [selectableComplete, hstatus, hpruned, hcompleted, hpaths]

/-- The order of the rows of the file: by start, then by build id. -/
def rowLE (a b : GoldCatalogRecord) : Bool :=
  decide (a.startedAtUtc.instant < b.startedAtUtc.instant)
    || (a.startedAtUtc.instant == b.startedAtUtc.instant && decide (a.buildId ≤ b.buildId))

end GoldCatalogRecord

/-- `_frame`: the rows of the file for some records. -/
def catalogFrame (records : List GoldCatalogRecord) : Except PyError (List GoldCatalogRecord) := do
  records.forM GoldCatalogRecord.validate
  check ((records.map (·.buildId)).Nodup) (.valueError "duplicate Gold build_id in catalog")
  check ((records.filter (·.current)).length ≤ 1)
    (.valueError "Gold catalog contains multiple current rows")
  return records.insertionSort (fun a b => GoldCatalogRecord.rowLE a b)

/-- `GoldCatalogRepository.read`, of a file that may be absent. -/
def readCatalog (file : Option (List GoldCatalogRecord)) :
    Except PyError (List GoldCatalogRecord) :=
  match file with
  | none => .ok []
  | some rows => do
    let _ ← catalogFrame rows
    return rows

/-- **A catalog that the checks accept.** -/
structure WellFormedCatalog (records : List GoldCatalogRecord) : Prop where
  records_wellFormed : ∀ r ∈ records, r.WellFormed
  nodup_ids : (records.map (·.buildId)).Nodup
  current_le_one : (records.filter (·.current)).length ≤ 1

/-- **The checks of the catalog, at once.** -/
theorem catalogFrame_eq_ok {records rows : List GoldCatalogRecord} :
    catalogFrame records = .ok rows ↔
      WellFormedCatalog records ∧ rows = records.insertionSort (fun a b => GoldCatalogRecord.rowLE a b) := by
  unfold catalogFrame
  simp only [bind_eq_ok, forM_eq_ok, GoldCatalogRecord.validate_eq_ok, check_eq_ok, exists_const,
    pure, Except.pure, Except.ok.injEq]
  constructor
  · rintro ⟨hrecords, hids, hcurrent, rfl⟩
    exact ⟨⟨hrecords, hids, hcurrent⟩, rfl⟩
  · rintro ⟨⟨hrecords, hids, hcurrent⟩, rfl⟩
    exact ⟨hrecords, hids, hcurrent, rfl⟩

theorem catalogFrame_perm {records rows : List GoldCatalogRecord}
    (h : catalogFrame records = .ok rows) : rows.Perm records := by
  rw [(catalogFrame_eq_ok.mp h).2]
  exact List.perm_insertionSort _ records

namespace WellFormedCatalog

variable {records rows : List GoldCatalogRecord} {r r' : GoldCatalogRecord}

theorem nil : WellFormedCatalog [] := ⟨by simp, by simp, by simp⟩

/-- The order of the records does not matter. -/
theorem of_perm (h : WellFormedCatalog records) (hperm : rows.Perm records) :
    WellFormedCatalog rows where
  records_wellFormed r hr := h.records_wellFormed r (hperm.mem_iff.mp hr)
  nodup_ids := (hperm.map _).nodup_iff.mpr h.nodup_ids
  current_le_one := (hperm.filter _).length_eq ▸ h.current_le_one

/-- **A build id determines its record.** -/
theorem eq_of_buildId (h : WellFormedCatalog records) (hr : r ∈ records) (hr' : r' ∈ records)
    (hid : r.buildId = r'.buildId) : r = r' :=
  List.inj_on_of_nodup_map h.nodup_ids hr hr' hid

/-- There is one current record at most. -/
theorem eq_of_current (h : WellFormedCatalog records) (hr : r ∈ records) (hr' : r' ∈ records)
    (hc : r.current = true) (hc' : r'.current = true) : r = r' := by
  have hm : r ∈ records.filter (·.current) := List.mem_filter.mpr ⟨hr, hc⟩
  have hm' : r' ∈ records.filter (·.current) := List.mem_filter.mpr ⟨hr', hc'⟩
  have hlen := h.current_le_one
  rcases hf : records.filter (·.current) with _ | ⟨x, _ | ⟨y, rest⟩⟩
  · rw [hf] at hm
    cases hm
  · rw [hf, List.mem_singleton] at hm hm'
    exact hm.trans hm'.symm
  · simp [hf] at hlen

/-- The current records of a catalog are the one that is current. -/
theorem filter_current (h : WellFormedCatalog records) (hr : r ∈ records)
    (hc : r.current = true) : records.filter (·.current) = [r] := by
  have hm : r ∈ records.filter (·.current) := List.mem_filter.mpr ⟨hr, hc⟩
  have hlen := h.current_le_one
  rcases hf : records.filter (·.current) with _ | ⟨x, _ | ⟨y, rest⟩⟩
  · rw [hf] at hm
    cases hm
  · rw [hf, List.mem_singleton] at hm
    exact hm ▸ hf
  · simp [hf] at hlen

end WellFormedCatalog

/-- What is read of a file is what it holds, and the checks accept it. -/
theorem readCatalog_eq_ok {file : Option (List GoldCatalogRecord)}
    {records : List GoldCatalogRecord} (h : readCatalog file = .ok records) :
    records = file.getD [] ∧ WellFormedCatalog records := by
  cases file with
  | none =>
    cases h
    exact ⟨rfl, .nil⟩
  | some rows =>
    simp only [readCatalog, bind_eq_ok, pure, Except.pure, Except.ok.injEq] at h
    obtain ⟨sorted, hsorted, rfl⟩ := h
    exact ⟨rfl, (catalogFrame_eq_ok.mp hsorted).1⟩

/-- A file that the checks accept can be read. -/
theorem WellFormedCatalog.readCatalog {file : Option (List GoldCatalogRecord)}
    (h : WellFormedCatalog (file.getD [])) : readCatalog file = .ok (file.getD []) := by
  cases file with
  | none => rfl
  | some rows =>
    have hframe : catalogFrame rows = .ok _ := catalogFrame_eq_ok.mpr ⟨h, rfl⟩
    show (catalogFrame rows >>= fun _ => pure rows) = .ok rows
    rw [hframe]
    rfl
