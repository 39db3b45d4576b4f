import DeviceUsageStats.Proofs.UninstallFrame
import DeviceUsageStats.Sanity.SaveAndLoad

/-! The events of a range, in the event table and in memory. A flush appends the events in memory to the
rows of the table and clears them; of the rows it drops at most those that the retention of a new daily
table is over with. -/

namespace DeviceUsageStats

namespace DatabaseState

variable {d d' d'' : DatabaseState} {p : EventLogRow → Bool} {t : ℤ} {i : IntervalType}

/-- The rows that a condition selects stay in an event table. -/
structure RowsKept (p : EventLogRow → Bool) (t : ℤ) (d d' : DatabaseState) : Prop where
  name : d'.eventTableName = d.eventTableName
  table : t ∈ d'.eventTables ↔ t ∈ d.eventTables
  rows : (d'.eventTables.rows t).filter p = (d.eventTables.rows t).filter p

theorem RowsKept.refl (d : DatabaseState) : RowsKept p t d d := ⟨rfl, .rfl, rfl⟩

theorem RowsKept.trans (h : RowsKept p t d d') (h' : RowsKept p t d' d'') : RowsKept p t d d'' :=
  ⟨h'.name.trans h.name, h'.table.trans h.table, h'.rows.trans h.rows⟩

theorem RowsKept.of_eq (name : d'.eventTableName = d.eventTableName)
    (tables : d'.eventTables = d.eventTables) : RowsKept p t d d' :=
  ⟨name, by rw [tables], by rw [tables]⟩

theorem rowsKept_deleteExcessiveTableData (d : DatabaseState) (i : IntervalType) :
    RowsKept p t d (d.deleteExcessiveTableData i) := by
  have hloop : ∀ (l : List ℤ) (d : DatabaseState),
      RowsKept p t d (l.foldl (·.deletePackageTable i) d) := by
    intro l
    induction l with
    | nil => exact .refl
    | cons x l ih =>
      intro d
      have hfirst : RowsKept p t d (d.deletePackageTable i x) := .of_eq rfl rfl
      exact hfirst.trans (ih _)
  unfold deleteExcessiveTableData
  exact (hloop _ d).trans (.of_eq rfl rfl)

theorem rowsKept_deleteEventRows (d : DatabaseState) (eventTable deleteTimePoint : ℤ)
    (hp : ∀ row, p row = true → deleteTimePoint < row.timeStamp) :
    RowsKept p t d (d.deleteEventRows eventTable deleteTimePoint) := by
  unfold deleteEventRows
  split_ifs
  · exact .refl d
  · refine ⟨rfl, Tables.mem_modifyRows .., ?_⟩
    change ((d.eventTables.modifyRows eventTable _).rows t).filter p = _
    unfold Tables.rows
    rw [Tables.getElem?_modifyRows]
    split_ifs with ht
    · cases d.eventTables[t]? with
      | none => rfl
      | some rows =>
        simp only [Option.map_some, Option.getD_some, List.filter_filter]
        refine List.filter_congr fun row _ => ?_
        cases hrow : p row with
        | false => rfl
        | true => simpa using hp row hrow
    · rfl

/-- What the retention of event data leaves of the rows after a time. -/
theorem rowsKept_deleteExcessiveEventData (d : DatabaseState)
    (hp : ∀ eventTable, d.eventTableName = some eventTable → ∀ row, p row = true →
      d.eventBeginTime - (if d.debugDatabase then sixDayInMillisMaxDebug else sevenDayInMillisMax) -
        parseStartTime eventTable < row.timeStamp) :
    RowsKept p t d d.deleteExcessiveEventData := by
  unfold deleteExcessiveEventData
  cases hname : d.eventTableName with
  | none => exact .refl d
  | some eventTable =>
    by_cases hinitial : d.eventBeginTime = eventBeginTimeInitialValue
    · simp only [if_pos hinitial]
      exact .refl d
    · simp only [if_neg hinitial]
      exact rowsKept_deleteEventRows d eventTable _ (hp eventTable hname)

/-- A new daily table is the only one that drops events. -/
theorem rowsKept_updateBundleUsageData (d : DatabaseState) (i : IntervalType)
    (stats : BundleActivePeriodStats)
    (hp : i = .daily → binarySearch (d.sortedTableArray i) stats.beginTime < 0 →
      ∀ eventTable, d.eventTableName = some eventTable → ∀ row, p row = true →
        stats.beginTime - (if d.debugDatabase then sixDayInMillisMaxDebug else sevenDayInMillisMax) -
          parseStartTime eventTable < row.timeStamp) :
    RowsKept p t d (d.updateBundleUsageData i stats) := by
  unfold updateBundleUsageData
  have hadd : RowsKept p t d (if binarySearch (d.sortedTableArray i) stats.beginTime < 0 then
      d.addPackageTable i stats.beginTime else d) := by
    split_ifs with hmem
    · set d₁ := d.createPackageLogTable i stats.beginTime
      have h₁ : RowsKept p t d d₁ := .of_eq rfl rfl
      set d₂ := if i = .daily then
        { d₁ with eventBeginTime := stats.beginTime }.deleteExcessiveEventData else d₁ with hd₂
      have h₂ : RowsKept p t d₁ d₂ := by
        rw [hd₂]
        split_ifs with hi
        · subst hi
          have hbegin : RowsKept p t d₁ { d₁ with eventBeginTime := stats.beginTime } :=
            .of_eq rfl rfl
          exact hbegin.trans (rowsKept_deleteExcessiveEventData _ (hp rfl hmem))
        · exact .refl d₁
      have h₃ : RowsKept p t d₂ { d₂ with
          sortedTableArray := Function.update d₂.sortedTableArray i
            ((d₂.sortedTableArray i ++ [stats.beginTime]).insertionSort (· ≤ ·)) } := .of_eq rfl rfl
      exact h₁.trans (h₂.trans (h₃.trans (rowsKept_deleteExcessiveTableData _ i)))
    · exact .refl d
  exact hadd.trans (.of_eq rfl rfl)

theorem rowsKept_updateModuleData (d : DatabaseState) (r : ModuleRecords) (time : ℤ) :
    RowsKept p t d (d.updateModuleData r time) := by
  have hcreate : RowsKept p t d (d.createRecordTable time) := by
    unfold createRecordTable
    simp only
    split_ifs <;> exact .of_eq rfl rfl
  unfold updateModuleData
  simp only
  split
  · exact hcreate.trans (.of_eq rfl rfl)
  · exact hcreate

/-- The events of a flush stand behind the rows of the event table. -/
theorem rows_updateEventData (name : d.eventTableName = some t) (table : t ∈ d.eventTables)
    (stats : BundleActivePeriodStats) :
    (d.updateEventData stats).eventTableName = some t ∧ t ∈ (d.updateEventData stats).eventTables ∧
      (d.updateEventData stats).eventTables.rows t = d.eventTables.rows t ++
        stats.events.events.map (eventLogRow stats (parseStartTime t)) := by
  unfold updateEventData
  split_ifs with hempty
  · exact ⟨name, table, by rw [hempty, List.map_nil, List.append_nil]⟩
  · have hinit : d.initEventTable stats.beginTime = d := by
      unfold initEventTable
      rw [if_pos (by rw [name]; exact Option.some_ne_none t)]
    simp only [hinit, name]
    refine ⟨trivial, Tables.mem_modifyRows .. |>.2 table, ?_⟩
    obtain ⟨rows, hrows⟩ := Option.isSome_iff_exists.1 (Std.TreeMap.mem_iff_isSome_getElem?.1 table)
    unfold Tables.rows
    rw [Tables.getElem?_modifyRows, if_pos rfl, hrows, Option.map_some, Option.getD_some,
      Option.getD_some]

end DatabaseState

namespace ServiceState

open DatabaseState (RowsKept eventLogRow)

variable {s : ServiceState} {t : ℤ} {p : EventLogRow → Bool}

/-- The stored rows of an event table are kept from the flush on if a new daily table drops none. -/
def Retained (s : ServiceState) (t : ℤ) (p : EventLogRow → Bool) : Prop :=
  (s.currentStats .daily).beginTime ∈ s.database.sortedTableArray .daily ∨
    ∀ row, p row = true → (s.currentStats .daily).beginTime -
      (if s.database.debugDatabase then sixDayInMillisMaxDebug else sevenDayInMillisMax) -
        parseStartTime t < row.timeStamp

theorem rowsKept_savedPackages (arrays : s.databaseState.ArraysSorted)
    (name : s.database.eventTableName = some t) (retained : s.Retained t p) (i : IntervalType) :
    RowsKept p t s.databaseState (s.savedPackages i) := by
  unfold savedPackages
  split_ifs
  · exact .refl _
  · refine DatabaseState.rowsKept_updateBundleUsageData _ i _ fun hi hnew t' ht' => ?_
    subst hi
    obtain rfl := Option.some.inj (name.symm.trans ht')
    rw [binarySearch_neg_iff (arrays .daily)] at hnew
    exact retained.resolve_left hnew

theorem rowsKept_restoreStatsOf (s : ServiceState) {i : IntervalType} (hi : i ≠ .daily) :
    RowsKept p t s.databaseState (s.restoreStatsOf i).databaseState := by
  change RowsKept p t s.databaseState (if i = .daily then (s.savedPackages i).updateEventData
    (s.currentStats i) else s.savedPackages i)
  rw [if_neg hi]
  unfold savedPackages
  split_ifs
  · exact .refl _
  · exact DatabaseState.rowsKept_updateBundleUsageData _ i _ fun h => absurd h hi

/-- What the flush of the daily statistics does to the rows that a condition selects. -/
theorem eventRows_restoreStats (arrays : s.databaseState.ArraysSorted)
    (name : s.database.eventTableName = some t) (table : t ∈ s.files.eventTables)
    (retained : s.Retained t p) {forced : Bool} (flush : s.statsChanged ∨ forced) :
    (s.restoreStats forced).database.eventTableName = some t ∧
      ((s.restoreStats forced).files.eventTables.rows t).filter p =
        (s.files.eventTables.rows t).filter p ++ ((s.currentStats .daily).events.events.map
          (eventLogRow (s.currentStats .daily) (parseStartTime t))).filter p := by
  set row := eventLogRow (s.currentStats .daily) (parseStartTime t)
  have hsaved := rowsKept_savedPackages arrays name retained .daily
  obtain ⟨hname, htable, hrows⟩ := DatabaseState.rows_updateEventData (hsaved.name.trans name)
    (hsaved.table.2 table) (s.currentStats .daily)
  have hdaily : (s.restoreStatsOf .daily).database.eventTableName = some t ∧
      ((s.restoreStatsOf .daily).files.eventTables.rows t).filter p =
        (s.files.eventTables.rows t).filter p ++
          ((s.currentStats .daily).events.events.map row).filter p := by
    refine ⟨hname, (congrArg (List.filter p) hrows).trans ?_⟩
    rw [List.filter_append]
    exact congrArg (· ++ _) hsaved.rows
  have hothers : RowsKept p t (s.restoreStatsOf .daily).databaseState
      (IntervalType.all.foldl restoreStatsOf s).databaseState :=
    (rowsKept_restoreStatsOf (s.restoreStatsOf .daily) (i := .weekly) (by decide)).trans
      ((rowsKept_restoreStatsOf _ (i := .monthly) (by decide)).trans
        (rowsKept_restoreStatsOf _ (i := .yearly) (by decide)))
  have hrecords : RowsKept p t (IntervalType.all.foldl restoreStatsOf s).databaseState
      (s.restoreStats forced).databaseState := by
    unfold restoreStats
    rw [if_pos flush]
    simp only
    split_ifs
    · exact .refl _
    · exact DatabaseState.rowsKept_updateModuleData _ _ _
  have hall := hothers.trans hrecords
  exact ⟨hall.name.trans hdaily.1, hall.rows.trans hdaily.2⟩

/-! ### The events of a range -/

/-- The stored rows of a user that a query of a range selects. -/
def storedEvents (s : ServiceState) (b e userId : ℤ) : List EventLogRow :=
  match s.databaseState.judgeQueryCondition b e with
  | none => []
  | some (eventTable, eventTableTime) =>
    (s.files.eventTables.rows eventTable).filter
      (DatabaseState.eventCondition b e eventTableTime userId)

variable {b e u : ℤ} {forced : Bool}

theorem storedEvents_eq (name : s.database.eventTableName = some t) (range : b < e) :
    s.storedEvents b e u = if e < parseStartTime t then [] else
      (s.files.eventTables.rows t).filter
        (DatabaseState.eventCondition b e (parseStartTime t) u) := by
  unfold storedEvents DatabaseState.judgeQueryCondition
  rw [show s.databaseState.eventTableName = some t from name]
  simp only [if_neg (not_le.2 range)]
  split_ifs <;> rfl

theorem cachedEvents_eq (stats : BundleActivePeriodStats) (b e : ℤ) :
    cachedEvents stats b e = stats.events.events.filter fun event =>
      b ≤ event.timeStamp ∧ event.timeStamp ≤ e := by
  unfold cachedEvents
  rw [BundleActiveEventList.findBestIndex_eq_rank, Int.toNat_natCast, BundleActiveEventList.stamps,
    Bisection.drop_rank_map stats.events.stamps_sorted, List.filter_filter]
  refine List.filter_congr fun event _ => ?_
  rw [Bool.decide_and, Bool.and_comm]

/-- The retention of a new daily table does not reach into the range. -/
def RangeRetained (s : ServiceState) (b : ℤ) : Prop :=
  (s.currentStats .daily).beginTime ∈ s.database.sortedTableArray .daily ∨
    (s.currentStats .daily).beginTime -
      (if s.database.debugDatabase then sixDayInMillisMaxDebug else sevenDayInMillisMax) < b

theorem RangeRetained.retained (h : s.RangeRetained b) :
    s.Retained t (DatabaseState.eventCondition b e (parseStartTime t) u) := by
  refine h.imp_right fun hb row hrow => ?_
  simp only [DatabaseState.eventCondition, decide_eq_true_eq] at hrow
  obtain ⟨hlow, -⟩ := hrow
  split_ifs at hlow <;> omega

/-- A row of an event in memory is in a range exactly if the event is. -/
theorem eventCondition_eventLogRow {stats : BundleActivePeriodStats} (user : stats.userId = u)
    {event : BundleActiveEvent}
    (hstart : b ≤ event.timeStamp → event.timeStamp ≤ e → parseStartTime t ≤ event.timeStamp) :
    DatabaseState.eventCondition b e (parseStartTime t) u (eventLogRow stats (parseStartTime t) event) =
      decide (b ≤ event.timeStamp ∧ event.timeStamp ≤ e) := by
  unfold DatabaseState.eventCondition eventLogRow
  rw [decide_eq_decide]
  constructor
  · rintro ⟨hlow, hhigh, -⟩
    simp only at hlow hhigh
    split_ifs at hlow <;> omega
  · rintro ⟨hlow, hhigh⟩
    have := hstart hlow hhigh
    refine ⟨?_, by simp only; omega, user⟩
    simp only
    split_ifs <;> omega

/-- The rows of a range after a flush are those before it and the events in memory. -/
theorem storedEvents_restoreStats (tidy : s.Tidy) (user : (s.currentStats .daily).userId = u)
    (name : s.database.eventTableName = some t) (table : t ∈ s.files.eventTables)
    (flush : s.statsChanged ∨ forced) (range : b < e) (retained : s.RangeRetained b)
    (hstart : ∀ event ∈ (s.currentStats .daily).events.events, b ≤ event.timeStamp →
      event.timeStamp ≤ e → parseStartTime t ≤ event.timeStamp) :
    (s.restoreStats forced).storedEvents b e u = s.storedEvents b e u ++
      (cachedEvents (s.currentStats .daily) b e).map
        (eventLogRow (s.currentStats .daily) (parseStartTime t)) := by
  obtain ⟨hname, hrows⟩ := eventRows_restoreStats tidy.arrays name table
    (retained.retained (e := e) (u := u)) flush
  rw [storedEvents_eq hname range, storedEvents_eq name range, cachedEvents_eq]
  split_ifs with hend
  · rw [List.filter_eq_nil_iff.2, List.map_nil, List.append_nil]
    intro event hevent hin
    simp only [decide_eq_true_eq] at hin
    have := hstart event hevent hin.1 hin.2
    omega
  · rw [hrows, List.filter_map]
    congr 2
    refine List.filter_congr fun event hevent => ?_
    exact eventCondition_eventLogRow user (hstart event hevent)

end ServiceState

end DeviceUsageStats
