import MacroLoader.BronzeStore

/-!
# Fetching Bronze again

A provider answers every request with rows that have been stored already, and each
answer has a new fetch time. What counts as a change is decided in three places: the
join that puts the old fetch time back, the difference that then compares whole
rows, and the choice of the months to write. All three agree that a row is news
where no stored row of its key has the same meaning, so a payload without news
writes no month (`changedMonths_of_repeated`), and a payload that has been committed
has no news any more (`IsPrepared.isRepeated`).
-/

open Program

/-- A stored row of its key already says what a row says, at whatever time it was
fetched. -/
def IsRepeated (frame : BronzeFrame) (r : BronzeRow) : Prop :=
  ∃ old ∈ frame.rows, old.key = r.key ∧ r.sameMeaning old = true

/-- The rows of a payload that are inserted or revised. -/
def IsNews (frame incoming : BronzeFrame) (r : BronzeRow) : Prop :=
  r ∈ incoming.rows ∧ ¬ IsRepeated frame r

section Prepared

variable {frame incoming : BronzeFrame} {contract : SeriesContract} {prepared : PreparedBronze}

/-- **The difference finds the news.** -/
theorem IsPrepared.mem_changed_iff_isNews (h : IsPrepared frame incoming contract prepared)
    {r : BronzeRow} : r ∈ prepared.diff.changed.rows ↔ IsNews frame incoming r := by
  rw [h.mem_changed, IsNews]
  refine and_congr_right (fun _ => ?_)
  unfold IsRepeated
  push Not
  exact ⟨fun hall old hold hkey => by rw [hall old hold hkey]; exact Bool.false_ne_true,
    fun hall old hold hkey => Bool.eq_false_iff.mpr (hall old hold hkey)⟩

/-- The key of a stored row whose news is none is not written. -/
theorem IsPrepared.mem_merged_of_unchanged (h : IsPrepared frame incoming contract prepared)
    {old : BronzeRow} (hold : old ∈ frame.rows)
    (hnews : ∀ r ∈ incoming.rows, r.key = old.key → r.sameMeaning old = true) :
    old ∈ prepared.merged.rows := by
  refine (h.mem_merged old).mpr (.inr ⟨hold, fun hkey => ?_⟩)
  obtain ⟨r, hr, hkey⟩ := List.mem_map.mp hkey
  obtain ⟨hmem, hnew⟩ := h.mem_changed_iff_isNews.mp hr
  exact hnew ⟨old, hold, hkey.symm, hnews r hmem hkey⟩

/-- **An unchanged row keeps its old fetch time**: the row that is stored afterwards is the
old one. -/
theorem IsPrepared.mem_merged_of_repeated (h : IsPrepared frame incoming contract prepared)
    {r old : BronzeRow} (hr : r ∈ incoming.rows) (hold : old ∈ frame.rows)
    (hkey : old.key = r.key) (hsame : r.sameMeaning old = true) :
    old ∈ prepared.merged.rows := by
  refine h.mem_merged_of_unchanged hold (fun r' hr' hkey' => ?_)
  -- there is one incoming row of a key
  obtain rfl : r' = r := List.inj_on_of_nodup_map h.incoming_nodup hr' hr (hkey'.trans hkey)
  exact hsame

/-- **After a merge nothing of the payload is news.** -/
theorem IsPrepared.isRepeated (h : IsPrepared frame incoming contract prepared)
    {r : BronzeRow} (hr : r ∈ incoming.rows) : IsRepeated prepared.merged r := by
  by_cases hrep : IsRepeated frame r
  · obtain ⟨old, hold, hkey, hsame⟩ := hrep
    exact ⟨old, h.mem_merged_of_repeated hr hold hkey hsame, hkey, hsame⟩
  · have hnews := h.mem_changed_iff_isNews.mpr ⟨hr, hrep⟩
    exact ⟨r, (h.mem_merged r).mpr (.inl hnews), rfl, BronzeRow.sameMeaning_self r⟩

/-- **A first merge** has the incoming rows. -/
theorem IsPrepared.mem_merged_first {schema : List (String × String)}
    (h : IsPrepared ⟨schema, []⟩ incoming contract prepared) {r : BronzeRow} :
    r ∈ prepared.merged.rows ↔ r ∈ incoming.rows := by
  rw [h.mem_merged, h.mem_changed]
  constructor
  · rintro (⟨hr, -⟩ | ⟨hr, -⟩)
    · exact hr
    · cases hr
  · exact fun hr => .inl ⟨hr, fun _ hold => by cases hold⟩

/-- **A payload without news changes nothing**: there is no month to write, and the merge is
what is there. -/
theorem changedMonths_of_repeated (h : IsPrepared frame incoming contract prepared)
    (hsorted : KeyedRows.Sorted BronzeRow.key frame.rows)
    (hall : ∀ r ∈ incoming.rows, IsRepeated frame r) :
    changedMonths prepared.diff.changed = .ok [] ∧ prepared.diff.hasChanges = false
      ∧ prepared.writtenPartitions = 0 ∧ prepared.merged = frame := by
  have hnil : prepared.diff.changed.rows = [] :=
    List.eq_nil_iff_forall_not_mem.mpr (fun r hr =>
      have hnews := h.mem_changed_iff_isNews.mp hr
      hnews.2 (hall r hnews.1))
  obtain ⟨months, hmonths, hwritten, -⟩ := h.months
  have hnone : changedMonths prepared.diff.changed = .ok [] := by
    rw [changedMonths, hnil]
    rfl
  have hempty : months = [] := Except.ok.inj (hmonths.symm.trans hnone)
  have hmem : ∀ r, r ∈ prepared.merged.rows ↔ r ∈ frame.rows := fun r => by
    rw [h.mem_merged, hnil]
    simp
  have hrows : prepared.merged.rows = frame.rows := KeyedRows.eq_of_table_eq h.sorted hsorted
    (KeyedRows.table_congr h.sorted.nodup hsorted.nodup hmem)
  refine ⟨hnone, prepared.diff.hasChanges_eq_false.mpr hnil, by rw [hwritten, hempty]; rfl, ?_⟩
  calc prepared.merged = ⟨prepared.merged.schema, prepared.merged.rows⟩ := rfl
    _ = ⟨frame.schema, frame.rows⟩ := by rw [h.schema, hrows]
    _ = frame := rfl

end Prepared

/-! ## What a commit writes -/

section Commits

variable {uow : BronzeUnitOfWork} {contract : SeriesContract} {lake s : BronzeLake}
  {frame incoming : BronzeFrame} {prepared : PreparedBronze} {months : List Month}

theorem AgreesOutside.months_eq {key : SeriesKey} (h : AgreesOutside key [] lake s) :
    s.months = lake.months := by
  funext key'
  by_cases hkey : key' = key
  · subst hkey
    ext month : 1
    exact h.outside month List.not_mem_nil
  · exact h.other key' hkey

/-- **However a commit ends**, it has written to no other month. -/
theorem wp_commitSuccess_outside (hmonths : changedMonths prepared.diff.changed = .ok months)
    (run : IngestionRunRecord) (next : IngestionState) :
    wp (uow.commitSuccess prepared run next)
      (Post.always (AgreesOutside prepared.contract.key months lake)) lake := by
  have hrefl := AgreesOutside.refl prepared.contract.key months lake
  unfold BronzeUnitOfWork.commitSuccess
  rw [hmonths]
  refine wp_bind (wp_ofExcept (fun months' h => ?_) (fun _ _ => hrefl))
  obtain rfl := Except.ok.inj h
  refine wp_bind (wp_query (fun saved hsaved => ?_) (fun _ => hrefl) hrefl)
  obtain rfl := Except.ok.inj hsaved
  refine wp_tryCatch (wp_mono (wp_commitWrites uow prepared months run next lake)
    (fun _ s h => h.agreesOutside) (fun e s h => ?_) (fun s h => h))
  refine wp_bind (wp_update (wp_throw ?_))
  rw [restore_backup h]
  exact hrefl

/-- A commit without changed months leaves all month files as they are. -/
theorem wp_commitSuccess_unchanged (hmonths : changedMonths prepared.diff.changed = .ok [])
    (run : IngestionRunRecord) (next : IngestionState) :
    wp (uow.commitSuccess prepared run next) (Post.always (fun s => s.months = lake.months)) lake :=
  wp_mono (wp_commitSuccess_outside hmonths run next) (fun _ _ h => h.months_eq)
    (fun _ _ h => h.months_eq) (fun _ h => h.months_eq)

/-- Writing the same months of the same frame again changes no file. -/
theorem WritesMonths.again {s' : BronzeLake} (h : WritesMonths uow prepared months lake s)
    (h' : WritesMonths uow prepared months s s') : s'.months = s.months := by
  funext key
  by_cases hkey : key = prepared.contract.key
  · subst hkey
    ext month : 1
    rw [h'.month]
    split_ifs with hmem
    · rw [h.month, if_pos hmem]
    · rfl
  · exact h'.other key hkey

/-- `prepare` of a payload on a lake, when nothing fails. -/
def preparedOf (uow : BronzeUnitOfWork) (contract : SeriesContract) (incoming : BronzeFrame)
    (lake : BronzeLake) : Except PyError PreparedBronze :=
  uow.readBronze lake contract.key >>= fun existing => prepareFrame contract existing incoming

/-- **No news**: the merge reports no change, and no month is written however a commit of it
ends. -/
structure WritesNothing (uow : BronzeUnitOfWork) (lake : BronzeLake) (frame : BronzeFrame)
    (prepared : PreparedBronze) : Prop where
  hasChanges : prepared.diff.hasChanges = false
  writtenPartitions : prepared.writtenPartitions = 0
  merged : prepared.merged = frame
  months : changedMonths prepared.diff.changed = .ok []
  commit : ∀ run next, wp (uow.commitSuccess prepared run next)
    (Post.always (fun s => s.months = lake.months)) lake

theorem BronzeHolds.writesNothing (h : BronzeHolds uow contract lake frame)
    (hprepared : IsPrepared frame incoming contract prepared)
    (hall : ∀ r ∈ incoming.rows, IsRepeated frame r) : WritesNothing uow lake frame prepared := by
  obtain ⟨hmonths, hchanges, hwritten, hmerged⟩ :=
    changedMonths_of_repeated hprepared h.sorted hall
  exact ⟨hchanges, hwritten, hmerged, hmonths, wp_commitSuccess_unchanged hmonths⟩

/-- **The rows after a merge**: the news, and the stored rows that the payload does not
replace, with the fetch times that they have. -/
structure MergesNews (frame incoming merged : BronzeFrame) : Prop where
  mem : ∀ r, r ∈ merged.rows ↔ IsNews frame incoming r
    ∨ r ∈ frame.rows ∧ ∀ new, IsNews frame incoming new → new.key ≠ r.key
  repeated : ∀ r ∈ incoming.rows, ∀ old ∈ frame.rows, old.key = r.key →
    r.sameMeaning old = true → old ∈ merged.rows

theorem IsPrepared.mergesNews (h : IsPrepared frame incoming contract prepared) :
    MergesNews frame incoming prepared.merged where
  mem r := by
    rw [h.mem_merged, h.mem_changed_iff_isNews, List.mem_map]
    simp only [h.mem_changed_iff_isNews, not_exists, not_and]
  repeated _ hr _ hold hkey hsame := h.mem_merged_of_repeated hr hold hkey hsame

/-- The month files of a series that may have been written: those of the news. -/
def KeepsOtherMonths (contract : SeriesContract) (frame incoming : BronzeFrame)
    (lake s : BronzeLake) : Prop :=
  (∀ key, key ≠ contract.key → s.months key = lake.months key)
    ∧ ∀ month, (∀ r, IsNews frame incoming r → monthKey r.observationDate ≠ month) →
      (s.months contract.key).get? month = (lake.months contract.key).get? month

theorem AgreesOutside.keepsOtherMonths (hprepared : IsPrepared frame incoming contract prepared)
    (hmonths : changedMonths prepared.diff.changed = .ok months)
    (h : AgreesOutside prepared.contract.key months lake s) :
    KeepsOtherMonths contract frame incoming lake s := by
  rw [hprepared.contract_eq] at h
  refine ⟨h.other, fun month hnone => h.outside month (fun hmem => ?_)⟩
  obtain ⟨r, hr, hmonth⟩ := ((changedMonths_eq_ok hmonths).2 month).mp hmem
  exact hnone r (hprepared.mem_changed_iff_isNews.mp hr) hmonth

/-- **A payload that has been committed**: the store holds the merge, and to prepare the
payload again or to commit what was prepared of it again changes no month file. -/
structure IsSettled (uow : BronzeUnitOfWork) (contract : SeriesContract) (incoming : BronzeFrame)
    (prepared : PreparedBronze) (s : BronzeLake) : Prop where
  holds : BronzeHolds uow contract s prepared.merged
  news : ∀ r, r ∈ prepared.diff.changed.rows →
    (s.months contract.key).get? (monthKey r.observationDate)
      = some (uow.frameFormat.encode
        (BronzeUnitOfWork.monthFrame prepared.merged (monthKey r.observationDate)))
  prepareAgain : ∃ prepared', preparedOf uow contract incoming s = .ok prepared'
    ∧ WritesNothing uow s prepared.merged prepared'
  commitAgain : ∀ run next, wp (uow.commitSuccess prepared run next)
    ⟨fun _ s' => s'.months = s.months, fun _ s' => s'.months = s.months, fun _ => True⟩ s

/-- Preparing on a store that holds a frame. -/
theorem BronzeHolds.isPrepared_of_preparedOf (h : BronzeHolds uow contract lake frame)
    (hschema : incoming.schema = bronzeSchema contract.nativeShape)
    (hprepared : preparedOf uow contract incoming lake = .ok prepared) :
    IsPrepared frame incoming contract prepared :=
  h.isPrepared (.inr hschema) hprepared

theorem BronzeHolds.isSettled (h : BronzeHolds uow contract lake frame)
    (hschema : incoming.schema = bronzeSchema contract.nativeShape)
    (hdates : ∀ r ∈ incoming.rows, dateMin ≤ r.observationDate ∧ r.observationDate ≤ dateMax)
    (hprepared : IsPrepared frame incoming contract prepared)
    (hmonths : changedMonths prepared.diff.changed = .ok months)
    (hwrites : WritesMonths uow prepared months lake s) :
    IsSettled uow contract incoming prepared s := by
  have hholds := h.commit hprepared hmonths hwrites
  refine ⟨hholds, fun r hr => ?_, ?_, fun run next => ?_⟩
  · have hmonth := hwrites.month (monthKey r.observationDate)
    rw [hprepared.contract_eq, if_pos (((changedMonths_eq_ok hmonths).2 _).mpr ⟨r, hr, rfl⟩)]
      at hmonth
    exact hmonth
  · obtain ⟨prepared', hprepared'⟩ :=
      hholds.exists_prepared hschema hprepared.incoming_nodup hdates
    have hagain := hholds.isPrepared_of_preparedOf hschema hprepared'
    exact ⟨prepared', hprepared', hholds.writesNothing hagain (fun r hr => hprepared.isRepeated hr)⟩
  · refine wp_mono (wp_commitSuccess uow prepared run next s) (fun _ s' hs' => ?_)
      (fun _ s' hs' => congrArg BronzeLake.months hs') (fun _ _ => trivial)
    obtain ⟨months', hmonths', hcommits⟩ := hs'
    obtain rfl := Except.ok.inj (hmonths'.symm.trans hmonths)
    exact hwrites.again hcommits.toWritesMonths

/-- **Fetching again changes nothing, and commits are idempotent.** A payload of a series
with rows of distinct keys can be prepared on whatever the store holds. Where it says
nothing new, no change is reported and no month file is written; what is news is written
with its months and nothing else, in which the unchanged rows are the old ones; and once
it has been committed, to prepare and commit it again writes nothing. -/
theorem bronzeCommit_idempotent (uow : BronzeUnitOfWork) {contract : SeriesContract}
    {lake : BronzeLake} {frame incoming : BronzeFrame} (h : BronzeHolds uow contract lake frame)
    (hschema : incoming.schema = bronzeSchema contract.nativeShape)
    (hdates : ∀ r ∈ incoming.rows, dateMin ≤ r.observationDate ∧ r.observationDate ≤ dateMax) :
    ((∃ prepared, preparedOf uow contract incoming lake = .ok prepared)
        ↔ (incoming.rows.map BronzeRow.key).Nodup)
      ∧ ∀ prepared, preparedOf uow contract incoming lake = .ok prepared →
        ((∀ r ∈ incoming.rows, IsRepeated frame r) → WritesNothing uow lake frame prepared)
        ∧ MergesNews frame incoming prepared.merged
        ∧ ∀ run next, wp (uow.commitSuccess prepared run next)
            ⟨fun _ s => KeepsOtherMonths contract frame incoming lake s
                ∧ IsSettled uow contract incoming prepared s,
              fun _ s => s = lake,
              fun s => KeepsOtherMonths contract frame incoming lake s⟩ lake := by
  refine ⟨⟨fun ⟨_, hprepared⟩ => (h.isPrepared_of_preparedOf hschema hprepared).incoming_nodup,
    fun hnodup => h.exists_prepared hschema hnodup hdates⟩, fun prepared hprepared => ?_⟩
  have hmerge := h.isPrepared_of_preparedOf hschema hprepared
  refine ⟨h.writesNothing hmerge, hmerge.mergesNews, fun run next => ?_⟩
  obtain ⟨months, hmonths, -, -⟩ := hmerge.months
  refine wp_mono (wp_and (wp_commitSuccess uow prepared run next lake)
    (wp_commitSuccess_outside hmonths run next)) (fun _ s hs => ?_) (fun _ s hs => hs.1)
    (fun s hs => hs.2.keepsOtherMonths hmerge hmonths)
  obtain ⟨⟨months', hmonths', hcommits⟩, hout⟩ := hs
  exact ⟨hout.keepsOtherMonths hmerge hmonths,
    h.isSettled hschema hdates hmerge hmonths' hcommits.toWritesMonths⟩

end Commits

/-! ### An example -/

/-- A row of the euro short-term rate. -/
def estrRow (fetchedAt : Timestamp) : BronzeRow where
  seriesId := "estr"
  provider := "ecb"
  observationDate := 0
  fetchedAtUtc := fetchedAt
  sourceId := "EST.B.EU000A2X2A25.WT"
  sourceUrl := "https://data-api.ecb.europa.eu"
  value := some .one
  bar := fun _ => none

/-- A frame of one row of it. -/
def estrFrame (fetchedAt : Timestamp) : BronzeFrame := ⟨bronzeSchema .scalar, [estrRow fetchedAt]⟩

/-- A lake in which the frame is stored. -/
def estrLake (uow : BronzeUnitOfWork) (fetchedAt : Timestamp) : BronzeLake where
  months := fun _ =>
    KeyedTable.empty.insert (monthKey 0) (uow.frameFormat.encode (estrFrame fetchedAt))
  runs := none
  states := none

theorem epoch_inRange : dateMin ≤ (0 : Date) ∧ (0 : Date) ≤ dateMax := by decide

/-- A lake in which a frame of one row is stored. -/
theorem bronzeHolds_singleton {uow : BronzeUnitOfWork} {contract : SeriesContract}
    {lake : BronzeLake} {row : BronzeRow}
    (hmonths : lake.months contract.key = KeyedTable.empty.insert (monthKey row.observationDate)
      (uow.frameFormat.encode ⟨bronzeSchema contract.nativeShape, [row]⟩))
    (hdate : dateMin ≤ row.observationDate ∧ row.observationDate ≤ dateMax) :
    BronzeHolds uow contract lake ⟨bronzeSchema contract.nativeShape, [row]⟩ where
  months := {
    sorted := List.pairwise_singleton _ _
    file := by
      intro month bytes h
      rw [hmonths, KeyedTable.get?_insert] at h
      split_ifs at h with hmonth
      · obtain rfl := Option.some.inj h
        refine ⟨_, uow.frameFormat.readBack _, rfl, List.nodup_singleton _,
          fun r => ⟨fun hr => ⟨hr, ?_⟩, fun hr => hr.1⟩⟩
        obtain rfl := List.mem_singleton.mp hr
        exact hmonth.symm
      · cases h
    covered := by
      intro r hr
      obtain rfl := List.mem_singleton.mp hr
      rw [hmonths, KeyedTable.get?_insert, if_pos rfl]
      rfl
    columns := fun _ => (mem_bronzeColumns rfl).2 }
  schema := rfl
  dates r hr := by
    obtain rfl := List.mem_singleton.mp hr
    exact hdate

theorem bronzeHolds_estrLake (uow : BronzeUnitOfWork) (fetchedAt : Timestamp) :
    BronzeHolds uow Series.estr.contract (estrLake uow fetchedAt) (estrFrame fetchedAt) :=
  bronzeHolds_singleton rfl epoch_inRange

/-- A row that is fetched a second later leaves the file as it is. -/
theorem bronzeCommit_idempotent_estr : ∃ uow : BronzeUnitOfWork, ∃ prepared,
    preparedOf uow Series.estr.contract (estrFrame 1000000) (estrLake uow 0) = .ok prepared
      ∧ WritesNothing uow (estrLake uow 0) (estrFrame 0) prepared := by
  obtain ⟨uow⟩ := BronzeUnitOfWork.nonempty
  have hdates : ∀ r ∈ (estrFrame 1000000).rows,
      dateMin ≤ r.observationDate ∧ r.observationDate ≤ dateMax := by
    intro r hr
    obtain rfl := List.mem_singleton.mp hr
    exact epoch_inRange
  have hmain := bronzeCommit_idempotent uow (bronzeHolds_estrLake uow 0) rfl hdates
  obtain ⟨prepared, hprepared⟩ := hmain.1.mpr (List.nodup_singleton _)
  refine ⟨uow, prepared, hprepared, (hmain.2 prepared hprepared).1 (fun r hr => ?_)⟩
  obtain rfl := List.mem_singleton.mp hr
  exact ⟨estrRow 0, List.mem_singleton_self _, rfl, by decide⟩
