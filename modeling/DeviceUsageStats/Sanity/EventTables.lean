import DeviceUsageStats.Sanity.Caches

/-! The event table of a database object: which table an unknown name is resolved to, and which event
tables survive an operation. -/

namespace DeviceUsageStats
namespace DatabaseState

variable {d : DatabaseState} {t x e : ℤ}

/-- The table that `InitEventTable` keeps: the last in string order that does not start later. -/
def eventChoice (eventTables : List ℤ) (currentTime : ℤ) : Option ℤ :=
  (eventTables.insertionSort fun s t => toString s ≤ toString t).reverse.find? (· ≤ currentTime)

theorem foldl_initEventTableStep_some (d : DatabaseState) (t : ℤ) (l : List ℤ)
    (h : d.eventTableName = some e) :
    (l.foldl (initEventTableStep t) d).eventTableName = some e ∧
      ∀ x : ℤ, (l.foldl (initEventTableStep t) d).eventTables[x]? =
        if x ∈ l then none else d.eventTables[x]? := by
  induction l generalizing d with
  | nil => exact ⟨h, by simp⟩
  | cons y l ih =>
    have hstep : initEventTableStep t d y =
        { d with eventTables := (d.eventTables.drop y).1 } := by
      simp [initEventTableStep, h]
    obtain ⟨hname, htables⟩ := ih (initEventTableStep t d y) (by rw [hstep]; exact h)
    refine ⟨hname, fun x => ?_⟩
    rw [List.foldl_cons, htables, hstep, Tables.getElem?_drop]
    by_cases hx : x = y
    · simp [hx]
    · simp [hx]

theorem foldl_initEventTableStep_none (d : DatabaseState) (t : ℤ) (l : List ℤ) (hl : l.Nodup)
    (h : d.eventTableName = none) :
    (l.foldl (initEventTableStep t) d).eventTableName = l.find? (· ≤ t) ∧
      ∀ x : ℤ, (l.foldl (initEventTableStep t) d).eventTables[x]? =
        if x ∈ l ∧ l.find? (· ≤ t) ≠ some x then none else d.eventTables[x]? := by
  induction l generalizing d with
  | nil => exact ⟨h, by simp⟩
  | cons y l ih =>
    obtain ⟨hy, hl⟩ := List.nodup_cons.1 hl
    rw [List.foldl_cons]
    by_cases hyt : y ≤ t
    · have hstep : initEventTableStep t d y = { d with eventTableName := some y } := by
        simp [initEventTableStep, h, hyt]
      obtain ⟨hname, htables⟩ := foldl_initEventTableStep_some
        { d with eventTableName := some y } t l rfl
      rw [hstep, List.find?_cons_of_pos (by simpa using hyt)]
      refine ⟨hname, fun x => (htables x).trans ?_⟩
      by_cases hx : x = y
      · subst hx
        simp [hy]
      · simp [hx, Ne.symm hx]
    · have hstep : initEventTableStep t d y =
          { d with eventTables := (d.eventTables.drop y).1 } := by
        simp [initEventTableStep, hyt]
      obtain ⟨hname, htables⟩ := ih (initEventTableStep t d y) hl (by rw [hstep]; exact h)
      rw [List.find?_cons_of_neg (by simpa using hyt)]
      refine ⟨hname, fun x => (htables x).trans ?_⟩
      rw [hstep, Tables.getElem?_drop]
      by_cases hx : x = y
      · subst hx
        have hnot : l.find? (· ≤ t) ≠ some x := fun hf => hy (List.mem_of_find?_eq_some hf)
        simp [hy, hnot]
      · simp [hx]

theorem eventChoice_mem {eventTables : List ℤ} (h : eventChoice eventTables t = some e) :
    e ∈ eventTables ∧ e ≤ t := by
  have hmem := List.mem_of_find?_eq_some h
  rw [List.mem_reverse, List.mem_insertionSort] at hmem
  exact ⟨hmem, by simpa using List.find?_some h⟩

/-- An unknown name is resolved to the chosen table, whose rows stay, or to a new table; every other
table goes. -/
theorem getElem?_initEventTable (d : DatabaseState) (t : ℤ) (h : d.eventTableName = none) :
    (d.initEventTable t).eventTableName = some ((eventChoice d.eventTables.keys t).getD t) ∧
      ∀ x : ℤ, (d.initEventTable t).eventTables[x]? =
        match eventChoice d.eventTables.keys t with
        | some e => if x = e then d.eventTables[x]? else none
        | none => (Tables.create {} t : Tables EventLogRow)[x]? := by
  set l := (d.eventTables.keys.insertionSort fun s t => toString s ≤ toString t).reverse with hl
  have hkeys : d.eventTables.keys.Nodup := by
    refine List.Pairwise.imp (fun h => ?_) (Std.TreeMap.ordered_keys (t := d.eventTables))
    exact (compare_lt_iff_lt.1 h).ne
  have hnodup : l.Nodup :=
    List.nodup_reverse.2 ((List.perm_insertionSort _ _).nodup_iff.2 hkeys)
  have hmem : ∀ x : ℤ, x ∉ l → d.eventTables[x]? = none := fun x hx => by
    simpa [hl, List.mem_insertionSort, Std.TreeMap.mem_keys] using hx
  obtain ⟨hname, htables⟩ := foldl_initEventTableStep_none d t l hnodup h
  have hloop : ∀ x : ℤ, (l.foldl (initEventTableStep t) d).eventTables[x]? =
      if l.find? (· ≤ t) = some x then d.eventTables[x]? else none := fun x => by
    rw [htables]
    by_cases hx : x ∈ l
    · simp [hx]
    · simp [hx, hmem x hx]
  unfold initEventTable eventChoice
  simp only [h, ne_eq, not_true_eq_false, if_false, ← hl, hname]
  cases hf : l.find? (· ≤ t) with
  | none =>
    refine ⟨rfl, fun x => ?_⟩
    have hempty : ∀ y : ℤ, (l.foldl (initEventTableStep t) d).eventTables[y]? = none := fun y => by
      rw [hloop, hf, if_neg (by simp)]
    simp only [if_true, createEventLogTable]
    rw [Tables.getElem?_create, Tables.getElem?_create, hempty, Tables.rows, Tables.rows, hempty]
    simp
  | some e =>
    refine ⟨by simpa using hname.trans hf, fun x => ?_⟩
    simp only [reduceCtorEq, if_false]
    rw [hloop, hf]
    simp [eq_comm]

theorem initEventTable_spec (d : DatabaseState) (t : ℤ) (h : d.eventTableName = none) :
    (d.initEventTable t).eventTableName = some ((eventChoice d.eventTables.keys t).getD t) ∧
      ∀ x : ℤ, x ∈ (d.initEventTable t).eventTables ↔
        if (eventChoice d.eventTables.keys t).isSome then
          eventChoice d.eventTables.keys t = some x
        else x = t ∧ 0 ≤ t := by
  obtain ⟨hname, htables⟩ := getElem?_initEventTable d t h
  refine ⟨hname, fun x => ?_⟩
  rw [Std.TreeMap.mem_iff_isSome_getElem?, htables]
  cases hf : eventChoice d.eventTables.keys t with
  | none =>
    simp only [Tables.getElem?_create]
    by_cases hx : x = t ∧ 0 ≤ t
    · simp [hx]
    · simp [hx]
  | some e =>
    have he := Std.TreeMap.mem_keys.1 (eventChoice_mem hf).1
    simp only [Option.isSome_some, if_true, Option.some.injEq]
    by_cases hx : x = e
    · subst hx
      rw [if_pos rfl, ← Std.TreeMap.mem_iff_isSome_getElem?]
      exact iff_of_true he rfl
    · simp [hx, Ne.symm hx]

/-- The name and the event tables stay; rows may go. -/
structure SameEventTables (d d' : DatabaseState) : Prop where
  name : d'.eventTableName = d.eventTableName
  tables : ∀ x : ℤ, x ∈ d'.eventTables ↔ x ∈ d.eventTables

variable {d' d'' : DatabaseState}

theorem SameEventTables.refl (d : DatabaseState) : SameEventTables d d := ⟨rfl, fun _ => .rfl⟩

theorem SameEventTables.trans (h : SameEventTables d d') (h' : SameEventTables d' d'') :
    SameEventTables d d'' :=
  ⟨h'.name.trans h.name, fun x => (h'.tables x).trans (h.tables x)⟩

theorem SameEventTables.foldl {α : Type} {f : DatabaseState → α → DatabaseState}
    (h : ∀ d x, SameEventTables d (f d x)) (l : List α) (d : DatabaseState) :
    SameEventTables d (l.foldl f d) := by
  induction l generalizing d with
  | nil => exact .refl d
  | cons x l ih => exact (h d x).trans (ih _)

theorem sameEventTables_deleteExcessiveEventData (d : DatabaseState) :
    SameEventTables d d.deleteExcessiveEventData := by
  have hrows : ∀ e t, SameEventTables d (d.deleteEventRows e t) := by
    intro e t
    unfold deleteEventRows
    split_ifs
    · exact .refl d
    · exact ⟨rfl, fun x => Tables.mem_modifyRows _ _ _ _⟩
  unfold deleteExcessiveEventData
  split
  · exact .refl d
  · split_ifs
    · exact .refl d
    all_goals exact hrows _ _

theorem sameEventTables_handleTableInfo (d : DatabaseState) (i : IntervalType) :
    SameEventTables d (d.handleTableInfo i) := by
  unfold handleTableInfo
  split
  · exact .refl d
  · exact ⟨rfl, fun _ => .rfl⟩

theorem sameEventTables_deleteExcessiveTableData (d : DatabaseState) (i : IntervalType) :
    SameEventTables d (d.deleteExcessiveTableData i) := by
  have h := SameEventTables.foldl (f := fun d t => d.deletePackageTable i t)
    (fun _ _ => ⟨rfl, fun _ => .rfl⟩) ((d.sortedTableArray i).take
      ((d.sortedTableArray i).length - maxFilesEveryIntervalType i)) d
  exact ⟨h.name, h.tables⟩

theorem sameEventTables_deleteFutureTables (t : ℤ) (d : DatabaseState) (i : IntervalType) :
    SameEventTables d (deleteFutureTables t d i) := by
  unfold deleteFutureTables
  simp only
  split_ifs
  · exact .refl d
  · refine SameEventTables.foldl (fun d x => ?_) _ d
    exact ⟨rfl, fun _ => .rfl⟩

theorem sameEventTables_updateBundleUsageData (d : DatabaseState) (i : IntervalType)
    (stats : BundleActivePeriodStats) : SameEventTables d (d.updateBundleUsageData i stats) := by
  have hadd : SameEventTables d (d.addPackageTable i stats.beginTime) := by
    unfold addPackageTable
    simp only
    refine .trans ?_ (sameEventTables_deleteExcessiveTableData _ i)
    split_ifs
    · have h := sameEventTables_deleteExcessiveEventData
        { d.createPackageLogTable i stats.beginTime with eventBeginTime := stats.beginTime }
      exact ⟨h.name, h.tables⟩
    · exact ⟨rfl, fun _ => .rfl⟩
  unfold updateBundleUsageData
  simp only
  split_ifs
  · exact hadd.trans ⟨rfl, fun _ => .rfl⟩
  · exact ⟨rfl, fun _ => .rfl⟩

theorem sameEventTables_removeOldData (d : DatabaseState) (t : ℤ) :
    SameEventTables d (d.removeOldData t) := by
  refine .trans (SameEventTables.foldl (fun d i => ?_) _ d) (SameEventTables.foldl (fun d i => ?_) _ _)
  · refine SameEventTables.foldl (fun d x => ?_) _ d
    exact ⟨rfl, fun _ => .rfl⟩
  · exact (sameEventTables_handleTableInfo d i).trans (sameEventTables_deleteExcessiveTableData _ i)

theorem sameEventTables_renewPackageTables (timeDiff : ℤ) (d : DatabaseState) (i : IntervalType) :
    SameEventTables d (renewPackageTables timeDiff d i) := by
  unfold renewPackageTables
  split_ifs
  · exact .refl d
  · simp only
    refine .trans (.trans ?_ (sameEventTables_handleTableInfo _ i))
      (sameEventTables_deleteExcessiveTableData _ i)
    have h := SameEventTables.foldl (f := renewPackageTable timeDiff i) (fun d x => by
      unfold renewPackageTable
      split_ifs <;> exact ⟨rfl, fun _ => .rfl⟩) (d.sortedTableArray i) d
    exact ⟨h.name, h.tables⟩

theorem keys_eq_of_mem_iff {V V' : Type} {tables : Std.TreeMap ℤ V} {tables' : Std.TreeMap ℤ V'}
    (h : ∀ x : ℤ, x ∈ tables' ↔ x ∈ tables) : tables'.keys = tables.keys :=
  keys_eq_of_sorted (keys_sorted tables) fun x => (h x).trans Std.TreeMap.mem_keys.symm

/-- A new database object resolves its event table among all tables of the file. -/
theorem initDatabaseTableInfo_events (d : DatabaseState) (t : ℤ) (hname : d.eventTableName = none)
    (hpos : ∀ x : ℤ, x ∈ d.eventTables → 0 ≤ x) :
    (d.initDatabaseTableInfo t).eventTableName =
        some ((eventChoice d.eventTables.keys t).getD t) ∧
      ∀ x : ℤ, x ∈ (d.initDatabaseTableInfo t).eventTables ↔
        if (eventChoice d.eventTables.keys t).isSome then
          eventChoice d.eventTables.keys t = some x
        else x = t ∧ 0 ≤ t := by
  have h₁ := SameEventTables.foldl (fun d i => (sameEventTables_handleTableInfo d i).trans
    (sameEventTables_deleteExcessiveTableData _ i)) IntervalType.all d
  unfold initDatabaseTableInfo
  simp only
  set d₁ := IntervalType.all.foldl
    (fun d i => (d.handleTableInfo i).deleteExcessiveTableData i) d
  have hkeys := keys_eq_of_mem_iff h₁.tables
  have h₃ := (sameEventTables_deleteExcessiveEventData d₁.handleEventTableInfo).trans
    (SameEventTables.foldl (sameEventTables_deleteFutureTables t) IntervalType.all _)
  set d₃ := IntervalType.all.foldl (deleteFutureTables t)
    d₁.handleEventTableInfo.deleteExcessiveEventData
  by_cases hsingle : ∃ x, d.eventTables.keys = [x]
  · obtain ⟨x, hx⟩ := hsingle
    have hhandle : d₁.handleEventTableInfo = { d₁ with eventTableName := some x } := by
      unfold handleEventTableInfo
      rw [hkeys, hx]
    rw [hhandle] at h₃
    have hmem : ∀ y : ℤ, y ∈ d₃.eventTables ↔ y = x := fun y => by
      rw [h₃.tables, h₁.tables, ← Std.TreeMap.mem_keys, hx, List.mem_singleton]
    have hx0 : 0 ≤ x := hpos x (by rw [← Std.TreeMap.mem_keys, hx]; exact List.mem_singleton_self x)
    have hchoice : eventChoice d.eventTables.keys t = if x ≤ t then some x else none := by
      rw [hx]
      by_cases hxt : x ≤ t <;> simp [eventChoice, hxt]
    simp only [show d₃.eventTableName = some x from h₃.name, parseStartTime, abs_of_nonneg hx0,
      hchoice]
    by_cases hxt : x ≤ t
    · rw [if_neg (not_lt.2 hxt), if_pos hxt]
      have hnoop : d₃.initEventTable t = d₃ := by
        rw [initEventTable, if_pos (by rw [h₃.name]; exact Option.some_ne_none x)]
      rw [hnoop, h₃.name]
      refine ⟨rfl, fun y => (hmem y).trans ?_⟩
      simp [eq_comm]
    · rw [if_pos (not_le.1 hxt), if_neg hxt]
      have hempty : ({ d₃ with
          eventTables := (d₃.eventTables.drop x).1
          eventTableName := none } : DatabaseState).eventTables.keys = [] := by
        refine List.eq_nil_iff_forall_not_mem.2 fun y hy => ?_
        rw [Std.TreeMap.mem_keys, Std.TreeMap.mem_iff_isSome_getElem?, Tables.getElem?_drop] at hy
        split_ifs at hy with hyx
        · cases hy
        · exact hyx ((hmem y).1 (Std.TreeMap.mem_iff_isSome_getElem?.2 hy))
      have hspec := initEventTable_spec { d₃ with
        eventTables := (d₃.eventTables.drop x).1
        eventTableName := none } t rfl
      rw [hempty] at hspec
      exact hspec
  · have hhandle : d₁.handleEventTableInfo = d₁ := by
      unfold handleEventTableInfo
      split
      · exact absurd ⟨_, hkeys.symm.trans (by assumption)⟩ hsingle
      · rfl
    rw [hhandle] at h₃
    have hnone : d₃.eventTableName = none := h₃.name.trans (h₁.name.trans hname)
    have hspec := initEventTable_spec d₃ t hnone
    rw [keys_eq_of_mem_iff h₃.tables, hkeys] at hspec
    simp only [hnone]
    exact hspec

end DatabaseState
end DeviceUsageStats
