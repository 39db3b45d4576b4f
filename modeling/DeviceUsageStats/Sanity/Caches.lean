import DeviceUsageStats.Sanity.TableSearch
import DeviceUsageStats.Spec.RecordTables

/-! The caches of a database object and the tables under them: what each operation does to the cached
start times and to the package tables of a type. Most operations leave both alone. -/

namespace DeviceUsageStats
namespace DatabaseState

variable {d d' d'' : DatabaseState} {i j : IntervalType} {t x : ℤ}

/-- Neither the cached start times nor the package tables move. -/
structure SamePackages (d d' : DatabaseState) : Prop where
  arrays : d'.sortedTableArray = d.sortedTableArray
  tables : d'.packageTables = d.packageTables
  debug : d'.debugDatabase = d.debugDatabase

theorem SamePackages.refl (d : DatabaseState) : SamePackages d d := ⟨rfl, rfl, rfl⟩

theorem SamePackages.trans (h : SamePackages d d') (h' : SamePackages d' d'') :
    SamePackages d d'' :=
  ⟨h'.arrays.trans h.arrays, h'.tables.trans h.tables, h'.debug.trans h.debug⟩

theorem SamePackages.foldl {α : Type} {f : DatabaseState → α → DatabaseState}
    (h : ∀ d x, SamePackages d (f d x)) (l : List α) (d : DatabaseState) :
    SamePackages d (l.foldl f d) := by
  induction l generalizing d with
  | nil => exact .refl d
  | cons x l ih => exact (h d x).trans (ih _)

theorem samePackages_deleteEventRows (d : DatabaseState) (eventTable deleteTimePoint : ℤ) :
    SamePackages d (d.deleteEventRows eventTable deleteTimePoint) := by
  unfold deleteEventRows
  split_ifs
  · exact .refl d
  · exact ⟨rfl, rfl, rfl⟩

theorem samePackages_deleteExcessiveEventData (d : DatabaseState) :
    SamePackages d d.deleteExcessiveEventData := by
  unfold deleteExcessiveEventData
  split
  · exact .refl d
  · split_ifs
    · exact .refl d
    all_goals exact samePackages_deleteEventRows d _ _

theorem samePackages_deleteExcessiveEventTableData (d : DatabaseState) (deleteDays : ℤ) :
    SamePackages d (d.deleteExcessiveEventTableData deleteDays) := by
  unfold deleteExcessiveEventTableData
  split
  · exact .refl d
  · split_ifs
    · exact .refl d
    · exact samePackages_deleteEventRows d _ _

theorem samePackages_handleEventTableInfo (d : DatabaseState) :
    SamePackages d d.handleEventTableInfo := by
  unfold handleEventTableInfo
  split
  · exact ⟨rfl, rfl, rfl⟩
  · exact .refl d

theorem samePackages_initEventTable (d : DatabaseState) (t : ℤ) :
    SamePackages d (d.initEventTable t) := by
  have hstep : ∀ (d : DatabaseState) (x : ℤ), SamePackages d (initEventTableStep t d x) := by
    intro d x
    unfold initEventTableStep
    split_ifs <;> exact ⟨rfl, rfl, rfl⟩
  unfold initEventTable
  split_ifs with h
  · exact .refl d
  · have hloop := SamePackages.foldl hstep
      (d.eventTables.keys.insertionSort fun s t => toString s ≤ toString t).reverse d
    simp only
    split_ifs
    · exact hloop.trans ⟨rfl, rfl, rfl⟩
    · exact hloop

theorem samePackages_updateEventData (d : DatabaseState) (stats : BundleActivePeriodStats) :
    SamePackages d (d.updateEventData stats) := by
  unfold updateEventData
  split_ifs
  · exact .refl d
  · simp only
    split
    · exact samePackages_initEventTable d _
    · exact (samePackages_initEventTable d _).trans ⟨rfl, rfl, rfl⟩

theorem samePackages_renewEventTable (d : DatabaseState) (timeDiff : ℤ) :
    SamePackages d (d.renewEventTable timeDiff) := by
  unfold renewEventTable
  split
  · exact .refl d
  · simp only
    split_ifs <;> exact ⟨rfl, rfl, rfl⟩

theorem samePackages_renewRecordTables (d : DatabaseState) (timeDiff : ℤ) :
    SamePackages d (d.renewRecordTables timeDiff) := by
  unfold renewRecordTables
  split <;> exact ⟨rfl, rfl, rfl⟩

theorem samePackages_createRecordTable (d : DatabaseState) (t : ℤ) :
    SamePackages d (d.createRecordTable t) := by
  unfold createRecordTable
  simp only
  split_ifs <;> exact ⟨rfl, rfl, rfl⟩

theorem samePackages_updateModuleData (d : DatabaseState) (r : ModuleRecords) (t : ℤ) :
    SamePackages d (d.updateModuleData r t) := by
  have h := samePackages_createRecordTable d t
  unfold updateModuleData
  simp only
  split
  · exact ⟨h.arrays, h.tables, h.debug⟩
  · exact h

theorem samePackages_getCurrentUsageData (d : DatabaseState) (uids : PackageContainUidMap)
    (i : IntervalType) (userId : ℤ) :
    SamePackages d (d.getCurrentUsageData uids i userId).2.1 := by
  unfold getCurrentUsageData
  split
  · exact .refl d
  · simp only
    split_ifs <;> exact ⟨rfl, rfl, rfl⟩

/-! ### The types do not touch one another -/

/-- The cached start times and the tables of one type do not move. -/
structure SameType (j : IntervalType) (d d' : DatabaseState) : Prop where
  arrays : d'.sortedTableArray j = d.sortedTableArray j
  tables : d'.packageTables j = d.packageTables j
  debug : d'.debugDatabase = d.debugDatabase

theorem SameType.refl (j : IntervalType) (d : DatabaseState) : SameType j d d := ⟨rfl, rfl, rfl⟩

theorem SameType.trans (h : SameType j d d') (h' : SameType j d' d'') : SameType j d d'' :=
  ⟨h'.arrays.trans h.arrays, h'.tables.trans h.tables, h'.debug.trans h.debug⟩

theorem SamePackages.sameType (h : SamePackages d d') (j : IntervalType) : SameType j d d' :=
  ⟨congrFun h.arrays j, congrFun h.tables j, h.debug⟩

theorem SameType.foldl {α : Type} {f : DatabaseState → α → DatabaseState} (l : List α)
    (h : ∀ d, ∀ x ∈ l, SameType j d (f d x)) (d : DatabaseState) : SameType j d (l.foldl f d) := by
  induction l generalizing d with
  | nil => exact .refl j d
  | cons x l ih =>
    exact (h d x (List.mem_cons_self ..)).trans
      (ih (fun d y hy => h d y (List.mem_cons_of_mem _ hy)) _)

theorem sameType_deletePackageTable (h : j ≠ i) (d : DatabaseState) (t : ℤ) :
    SameType j d (d.deletePackageTable i t) :=
  ⟨rfl, Function.update_of_ne h _ _, rfl⟩

theorem sameType_handleTableInfo (h : j ≠ i) (d : DatabaseState) :
    SameType j d (d.handleTableInfo i) := by
  unfold handleTableInfo
  split
  · exact .refl j d
  · exact ⟨Function.update_of_ne h _ _, rfl, rfl⟩

theorem sameType_deleteExcessiveTableData (h : j ≠ i) (d : DatabaseState) :
    SameType j d (d.deleteExcessiveTableData i) := by
  have hloop := SameType.foldl ((d.sortedTableArray i).take
    ((d.sortedTableArray i).length - maxFilesEveryIntervalType i))
    (fun d t _ => sameType_deletePackageTable h d t) d
  exact ⟨(Function.update_of_ne h _ _).trans hloop.arrays, hloop.tables, hloop.debug⟩

theorem sameType_addPackageTable (h : j ≠ i) (d : DatabaseState) (t : ℤ) :
    SameType j d (d.addPackageTable i t) := by
  have hcreate : SameType j d (d.createPackageLogTable i t) :=
    ⟨rfl, Function.update_of_ne h _ _, rfl⟩
  unfold addPackageTable
  simp only
  refine .trans ?_ (sameType_deleteExcessiveTableData h _)
  split_ifs
  · have hdaily := (samePackages_deleteExcessiveEventData
      { d.createPackageLogTable i t with eventBeginTime := t }).sameType j
    have hboth := hcreate.trans ⟨hdaily.arrays, hdaily.tables, hdaily.debug⟩
    exact ⟨(Function.update_of_ne h _ _).trans hboth.arrays, hboth.tables, hboth.debug⟩
  · exact ⟨(Function.update_of_ne h _ _).trans hcreate.arrays, hcreate.tables, hcreate.debug⟩

theorem sameType_updateBundleUsageData (h : j ≠ i) (d : DatabaseState)
    (stats : BundleActivePeriodStats) : SameType j d (d.updateBundleUsageData i stats) := by
  have hflush : ∀ d : DatabaseState, SameType j d (d.flushPackageInfo i stats) :=
    fun d => ⟨rfl, Function.update_of_ne h _ _, rfl⟩
  unfold updateBundleUsageData
  simp only
  split_ifs
  · exact (sameType_addPackageTable h d _).trans (hflush _)
  · exact hflush d

theorem sameType_deleteFutureTables (h : j ≠ i) (t : ℤ) (d : DatabaseState) :
    SameType j d (deleteFutureTables t d i) := by
  unfold deleteFutureTables
  simp only
  split_ifs
  · exact .refl j d
  · refine SameType.foldl _ (fun d x _ => ?_) d
    exact ⟨Function.update_of_ne h _ _, Function.update_of_ne h _ _, rfl⟩

theorem sameType_removeOverdueTables (h : j ≠ i) (t : ℤ) (d : DatabaseState) :
    SameType j d (removeOverdueTables t d i) :=
  SameType.foldl _ (fun d x _ => sameType_deletePackageTable h d x) d

theorem sameType_renewPackageTables (h : j ≠ i) (timeDiff : ℤ) (d : DatabaseState) :
    SameType j d (renewPackageTables timeDiff d i) := by
  unfold renewPackageTables
  split_ifs
  · exact .refl j d
  · have hloop := SameType.foldl (d.sortedTableArray i) (fun d x _ => by
      unfold renewPackageTable
      split_ifs
      · exact sameType_deletePackageTable h d x
      · exact ⟨rfl, Function.update_of_ne h _ _, rfl⟩) d (f := renewPackageTable timeDiff i)
    refine .trans ?_ (sameType_deleteExcessiveTableData h _)
    refine .trans ?_ (sameType_handleTableInfo h _)
    exact ⟨(Function.update_of_ne h _ _).trans hloop.arrays, hloop.tables, hloop.debug⟩

/-- A step on one type reads that type only. -/
theorem SameType.foldl_congr {α : Type} {f : DatabaseState → α → DatabaseState}
    (h : ∀ d d' x, SameType i d d' → SameType i (f d x) (f d' x)) (l : List α)
    (hd : SameType i d d') : SameType i (l.foldl f d) (l.foldl f d') := by
  induction l generalizing d d' with
  | nil => exact hd
  | cons x l ih => exact ih (h d d' x hd)

theorem SameType.deletePackageTable (h : SameType i d d') (t : ℤ) :
    SameType i (d.deletePackageTable i t) (d'.deletePackageTable i t) :=
  ⟨h.arrays, by simp [DatabaseState.deletePackageTable, h.tables], h.debug⟩

theorem SameType.handleTableInfo (h : SameType i d d') :
    SameType i (d.handleTableInfo i) (d'.handleTableInfo i) := by
  unfold DatabaseState.handleTableInfo
  rw [h.tables]
  split
  · exact h
  · exact ⟨by simp, h.tables, h.debug⟩

theorem SameType.setArray (h : SameType i d d') {a a' : List ℤ} (ha : a' = a) :
    SameType i { d with sortedTableArray := Function.update d.sortedTableArray i a }
      { d' with sortedTableArray := Function.update d'.sortedTableArray i a' } :=
  ⟨by simp [ha], h.tables, h.debug⟩

theorem SameType.deleteExcessiveTableData (h : SameType i d d') :
    SameType i (d.deleteExcessiveTableData i) (d'.deleteExcessiveTableData i) := by
  have hcache : ∀ (l : List ℤ) (d : DatabaseState),
      (l.foldl (·.deletePackageTable i) d).sortedTableArray = d.sortedTableArray := by
    intro l
    induction l with
    | nil => exact fun _ => rfl
    | cons x l ih => exact fun d => ih _
  unfold DatabaseState.deleteExcessiveTableData
  simp only [h.arrays]
  refine SameType.setArray (SameType.foldl_congr (fun d d' x h => h.deletePackageTable x) _ h) ?_
  rw [hcache, hcache, h.arrays]

theorem SameType.deleteFutureTables (h : SameType i d d') (t : ℤ) :
    SameType i (deleteFutureTables t d i) (deleteFutureTables t d' i) := by
  unfold DatabaseState.deleteFutureTables
  simp only [h.arrays]
  split_ifs
  · exact h
  · refine SameType.foldl_congr (fun d d' _ h => ?_) _ h
    simp only [h.arrays]
    exact (h.deletePackageTable _).setArray (by rw [(h.deletePackageTable _).arrays])

theorem SameType.renewPackageTables (h : SameType i d d') (timeDiff : ℤ) :
    SameType i (renewPackageTables timeDiff d i) (renewPackageTables timeDiff d' i) := by
  unfold DatabaseState.renewPackageTables
  rw [h.arrays]
  split_ifs
  · exact h
  · simp only
    refine (SameType.handleTableInfo (SameType.setArray
      (SameType.foldl_congr (fun d d' x h => ?_) _ h) rfl)).deleteExcessiveTableData
    unfold renewPackageTable
    split_ifs
    · exact h.deletePackageTable x
    · exact ⟨h.arrays, by simp [renamePackageTable, h.tables], h.debug⟩

theorem SameType.removeOverdueTables (h : SameType i d d') (t : ℤ) :
    SameType i (removeOverdueTables t d i) (removeOverdueTables t d' i) := by
  unfold DatabaseState.removeOverdueTables
  simp only [h.debug, h.tables]
  exact SameType.foldl_congr (fun d d' x h => h.deletePackageTable x) _ h

/-- A loop over the types does to each type what its own round does. -/
theorem foldl_types {f : DatabaseState → IntervalType → DatabaseState}
    (frame : ∀ d i j, j ≠ i → SameType j d (f d i))
    (congr : ∀ d d' i, SameType i d d' → SameType i (f d i) (f d' i)) (l : List IntervalType)
    (hl : l.Nodup) (hi : i ∈ l) (d : DatabaseState) : SameType i (f d i) (l.foldl f d) := by
  induction l generalizing d with
  | nil => cases hi
  | cons j l ih =>
    obtain ⟨hj, hl⟩ := List.nodup_cons.1 hl
    rcases List.mem_cons.1 hi with rfl | hi
    · exact SameType.foldl l (fun d k hk => frame d k i fun h => hj (h ▸ hk)) _
    · exact (congr _ _ i (frame d j i fun h => hj (h ▸ hi))).trans (ih hl hi _)

theorem IntervalType.nodup_all : IntervalType.all.Nodup := by decide

theorem IntervalType.mem_all (i : IntervalType) : i ∈ IntervalType.all := by cases i <;> decide

/-- What the start of a database object does to one type. -/
theorem sameType_initDatabaseTableInfo (d : DatabaseState) (t : ℤ) (i : IntervalType) :
    SameType i (deleteFutureTables t ((d.handleTableInfo i).deleteExcessiveTableData i) i)
      (d.initDatabaseTableInfo t) := by
  have h₁ := foldl_types (f := fun d i => (d.handleTableInfo i).deleteExcessiveTableData i)
    (fun d _ _ h => (sameType_handleTableInfo h d).trans (sameType_deleteExcessiveTableData h _))
    (fun _ _ _ h => h.handleTableInfo.deleteExcessiveTableData) _ IntervalType.nodup_all
    (IntervalType.mem_all i) d
  unfold initDatabaseTableInfo
  simp only
  set d₁ := IntervalType.all.foldl
    (fun d i => (d.handleTableInfo i).deleteExcessiveTableData i) d
  have h₂ := ((samePackages_handleEventTableInfo d₁).trans
    (samePackages_deleteExcessiveEventData _)).sameType i
  have h₃ := foldl_types (f := deleteFutureTables t)
    (fun d _ _ h => sameType_deleteFutureTables h t d) (fun _ _ _ h => h.deleteFutureTables t)
    _ IntervalType.nodup_all (IntervalType.mem_all i) d₁.handleEventTableInfo.deleteExcessiveEventData
  set d₃ := IntervalType.all.foldl (deleteFutureTables t)
    d₁.handleEventTableInfo.deleteExcessiveEventData
  have h := ((h₁.trans h₂).deleteFutureTables t).trans h₃
  refine .trans (.trans h ?_) ((samePackages_initEventTable _ t).sameType i)
  split
  · exact .refl i d₃
  · split_ifs <;> exact ⟨rfl, rfl, rfl⟩

theorem sameType_removeOldData (d : DatabaseState) (t : ℤ) (i : IntervalType) :
    SameType i (((removeOverdueTables t d i).handleTableInfo i).deleteExcessiveTableData i)
      (d.removeOldData t) := by
  have h₁ := foldl_types (f := removeOverdueTables t) (i := i)
    (fun d _ _ h => sameType_removeOverdueTables h t d) (fun _ _ _ h => h.removeOverdueTables t)
    [.yearly, .monthly, .weekly, .daily] (by decide) (by cases i <;> decide) d
  have h₂ := foldl_types (f := fun d i => (d.handleTableInfo i).deleteExcessiveTableData i)
    (fun d _ _ h => (sameType_handleTableInfo h d).trans (sameType_deleteExcessiveTableData h _))
    (fun _ _ _ h => h.handleTableInfo.deleteExcessiveTableData) _ IntervalType.nodup_all
    (IntervalType.mem_all i)
    ([IntervalType.yearly, .monthly, .weekly, .daily].foldl (removeOverdueTables t) d)
  exact h₁.handleTableInfo.deleteExcessiveTableData.trans h₂

theorem sameType_renewTableTime (d : DatabaseState) (timeDiff : ℤ) (i : IntervalType) :
    SameType i (renewPackageTables timeDiff d i) (d.renewTableTime timeDiff) :=
  (foldl_types (fun d _ _ h => sameType_renewPackageTables h timeDiff d)
    (fun _ _ _ h => h.renewPackageTables timeDiff) _ IntervalType.nodup_all
    (IntervalType.mem_all i) d).trans
    (((samePackages_renewEventTable _ _).trans (samePackages_renewRecordTables _ _)).sameType i)

/-! ### Dropped and created tables -/

/-- A loop that drops package tables. -/
theorem foldl_deletePackageTable (d : DatabaseState) (i : IntervalType) (l : List ℤ) :
    (l.foldl (·.deletePackageTable i) d).toBundleActiveUsageDatabase =
        d.toBundleActiveUsageDatabase ∧
      ∀ j x, ((l.foldl (·.deletePackageTable i) d).packageTables j)[x]? =
        if j = i ∧ x ∈ l then none else (d.packageTables j)[x]? := by
  induction l generalizing d with
  | nil => exact ⟨rfl, by simp⟩
  | cons t l ih =>
    obtain ⟨hcache, htables⟩ := ih (d.deletePackageTable i t)
    refine ⟨hcache, fun j x => ?_⟩
    rw [List.foldl_cons, htables]
    by_cases hj : j = i
    · subst hj
      by_cases hx : x ∈ l
      · simp [hx]
      · simp [hx, deletePackageTable, Tables.getElem?_drop]
    · simp [hj, deletePackageTable]

theorem deleteExcessiveTableData_spec (d : DatabaseState) (i : IntervalType) :
    (d.deleteExcessiveTableData i).sortedTableArray = Function.update d.sortedTableArray i
        ((d.sortedTableArray i).drop
          ((d.sortedTableArray i).length - maxFilesEveryIntervalType i)) ∧
      ∀ j x, ((d.deleteExcessiveTableData i).packageTables j)[x]? =
        if j = i ∧ x ∈ (d.sortedTableArray i).take
            ((d.sortedTableArray i).length - maxFilesEveryIntervalType i)
        then none else (d.packageTables j)[x]? := by
  obtain ⟨hcache, htables⟩ := foldl_deletePackageTable d i
    ((d.sortedTableArray i).take ((d.sortedTableArray i).length - maxFilesEveryIntervalType i))
  refine ⟨?_, htables⟩
  unfold deleteExcessiveTableData
  simp only
  rw [congrArg BundleActiveUsageDatabase.sortedTableArray hcache]

theorem handleTableInfo_spec (d : DatabaseState) (i : IntervalType) :
    (d.handleTableInfo i).sortedTableArray = Function.update d.sortedTableArray i
        (if (d.packageTables i).keys = [] then d.sortedTableArray i
          else (d.packageTables i).keys) ∧
      (d.handleTableInfo i).packageTables = d.packageTables := by
  unfold handleTableInfo
  cases h : (d.packageTables i).keys.getLast? with
  | none =>
    rw [if_pos (List.getLast?_eq_none_iff.1 h), Function.update_eq_self]
    exact ⟨rfl, rfl⟩
  | some t =>
    rw [if_neg fun hnil => by rw [hnil] at h; cases h]
    exact ⟨rfl, rfl⟩

theorem keys_sorted {V : Type} (tables : Std.TreeMap ℤ V) : tables.keys.Pairwise (· < ·) :=
  (Std.TreeMap.ordered_keys (t := tables)).imp fun h => compare_lt_iff_lt.1 h

theorem keys_eq_of_sorted {V : Type} {tables : Std.TreeMap ℤ V} {l : List ℤ}
    (hl : l.Pairwise (· < ·)) (h : ∀ x : ℤ, x ∈ tables ↔ x ∈ l) : tables.keys = l := by
  refine List.Perm.eq_of_pairwise' (r := (· < ·)) (keys_sorted tables) hl
    ((List.perm_ext_iff_of_nodup ((keys_sorted tables).imp ne_of_lt) (hl.imp ne_of_lt)).2
      fun x => ?_)
  rw [Std.TreeMap.mem_keys, h]

/-! ### Overdue tables -/

theorem sortedTableArray_removeOverdueTables (t : ℤ) (d : DatabaseState) (i : IntervalType) :
    (removeOverdueTables t d i).sortedTableArray = d.sortedTableArray :=
  congrArg BundleActiveUsageDatabase.sortedTableArray (foldl_deletePackageTable d i _).1

theorem getElem?_removeOverdueTables (t : ℤ) (d : DatabaseState) (i : IntervalType) (x : ℤ) :
    ((removeOverdueTables t d i).packageTables i)[x]? =
      if x < (BundleActiveCalendar.increase { time := t, debug := d.debugDatabase } i
        (-1 * maxFilesEveryIntervalType i)).time then none else (d.packageTables i)[x]? := by
  refine ((foldl_deletePackageTable d i _).2 i x).trans ?_
  simp only [true_and, List.mem_filter, Std.TreeMap.mem_keys, decide_eq_true_eq]
  by_cases hmem : x ∈ d.packageTables i
  · simp only [hmem, true_and]
  · have hnone : (d.packageTables i)[x]? = none := Std.TreeMap.getElem?_eq_none hmem
    simp only [hmem, false_and, hnone, ite_self]

theorem mem_removeOverdueTables (t : ℤ) (d : DatabaseState) (i : IntervalType) (x : ℤ) :
    x ∈ (removeOverdueTables t d i).packageTables i ↔ x ∈ d.packageTables i ∧
      (BundleActiveCalendar.increase { time := t, debug := d.debugDatabase } i
        (-1 * maxFilesEveryIntervalType i)).time ≤ x := by
  rw [Std.TreeMap.mem_iff_isSome_getElem?, getElem?_removeOverdueTables,
    Std.TreeMap.mem_iff_isSome_getElem?]
  split_ifs with h
  · exact iff_of_false Bool.false_ne_true fun h' => h.not_ge h'.2
  · exact ⟨fun hx => ⟨hx, not_lt.1 h⟩, And.left⟩

/-! ### The cached start times are strictly sorted -/

def ArraysSorted (d : DatabaseState) : Prop := ∀ i, (d.sortedTableArray i).Pairwise (· < ·)

theorem SamePackages.arraysSorted (h : SamePackages d d') (hd : d.ArraysSorted) :
    d'.ArraysSorted := fun i => by
  rw [h.arrays]
  exact hd i

theorem ArraysSorted.handleTableInfo (hd : d.ArraysSorted) (i : IntervalType) :
    (d.handleTableInfo i).ArraysSorted := by
  intro j
  rw [(handleTableInfo_spec d i).1]
  by_cases hj : j = i
  · subst hj
    rw [Function.update_self]
    split_ifs
    · exact hd j
    · exact keys_sorted _
  · rw [Function.update_of_ne hj]
    exact hd j

theorem ArraysSorted.deleteExcessiveTableData (hd : d.ArraysSorted) (i : IntervalType) :
    (d.deleteExcessiveTableData i).ArraysSorted := by
  intro j
  rw [(deleteExcessiveTableData_spec d i).1]
  by_cases hj : j = i
  · subst hj
    rw [Function.update_self]
    exact (hd j).drop
  · rw [Function.update_of_ne hj]
    exact hd j

/-! ### The start of a database object -/

/-- One round of the loop of `deleteFutureTables`. -/
def deleteTableAt (i : IntervalType) (startIndex : ℕ) (d : DatabaseState) : DatabaseState :=
  let d := d.deletePackageTable i ((d.sortedTableArray i).getD startIndex 0)
  { d with
    sortedTableArray := Function.update d.sortedTableArray i
      ((d.sortedTableArray i).eraseIdx startIndex) }

/-- The loop drops and erases at a fixed index until nothing is left behind it. -/
theorem iterate_deleteTableAt (i : IntervalType) (startIndex n : ℕ) (d : DatabaseState)
    (hn : (d.sortedTableArray i).length = startIndex + n) :
    ((deleteTableAt i startIndex)^[n] d).sortedTableArray = Function.update d.sortedTableArray i
        ((d.sortedTableArray i).take startIndex) ∧
      (∀ j x, (((deleteTableAt i startIndex)^[n] d).packageTables j)[x]? =
        if j = i ∧ x ∈ (d.sortedTableArray i).drop startIndex then none
        else (d.packageTables j)[x]?) ∧
      ((deleteTableAt i startIndex)^[n] d).eventTables = d.eventTables ∧
      ((deleteTableAt i startIndex)^[n] d).eventTableName = d.eventTableName ∧
      ((deleteTableAt i startIndex)^[n] d).debugDatabase = d.debugDatabase := by
  induction n generalizing d with
  | zero =>
    have hlen : (d.sortedTableArray i).length ≤ startIndex := by omega
    refine ⟨?_, fun j x => ?_, rfl, rfl, rfl⟩
    · rw [List.take_of_length_le hlen, Function.update_eq_self]
      rfl
    · rw [List.drop_of_length_le hlen]
      simp
  | succ n ih =>
    have hlt : startIndex < (d.sortedTableArray i).length := by omega
    have harray : (deleteTableAt i startIndex d).sortedTableArray =
        Function.update d.sortedTableArray i ((d.sortedTableArray i).eraseIdx startIndex) := rfl
    have hi : (deleteTableAt i startIndex d).sortedTableArray i =
        (d.sortedTableArray i).eraseIdx startIndex := by rw [harray, Function.update_self]
    obtain ⟨harrays, htables, hevents, hname, hdebug⟩ := ih (deleteTableAt i startIndex d) (by
      rw [hi, List.length_eraseIdx_of_lt hlt]
      omega)
    rw [Function.iterate_succ_apply]
    refine ⟨?_, fun j x => ?_, hevents, hname, hdebug⟩
    · rw [harrays, hi, harray, Function.update_idem, List.take_eraseIdx_eq_take_of_le _ _ _ le_rfl]
    · rw [htables, hi, List.eraseIdx_eq_take_drop_succ,
        List.drop_left' (List.length_take_of_le hlt.le)]
      have hdrop : (d.sortedTableArray i).drop startIndex =
          (d.sortedTableArray i).getD startIndex 0 ::
            (d.sortedTableArray i).drop (startIndex + 1) := by
        rw [List.getD_eq_getElem _ _ hlt, List.drop_eq_getElem_cons hlt]
      by_cases hj : j = i
      · subst hj
        rw [hdrop]
        by_cases hx : x ∈ (d.sortedTableArray j).drop (startIndex + 1)
        · simp [hx]
        · simp [hx, deleteTableAt, deletePackageTable, Tables.getElem?_drop]
      · simp [hj, deleteTableAt, deletePackageTable]

/-- The tables of a type that start at or after the time are dropped. -/
theorem deleteFutureTables_spec (hd : (d.sortedTableArray i).Pairwise (· < ·)) (t : ℤ) :
    (deleteFutureTables t d i).sortedTableArray =
        Function.update d.sortedTableArray i ((d.sortedTableArray i).filter (· < t)) ∧
      (∀ j x, ((deleteFutureTables t d i).packageTables j)[x]? =
        if j = i ∧ x ∈ d.sortedTableArray i ∧ t ≤ x then none else (d.packageTables j)[x]?) ∧
      (deleteFutureTables t d i).eventTables = d.eventTables ∧
      (deleteFutureTables t d i).eventTableName = d.eventTableName ∧
      (deleteFutureTables t d i).debugDatabase = d.debugDatabase := by
  set a := d.sortedTableArray i with ha
  have hmono : a.Pairwise (· ≤ ·) := hd.imp le_of_lt
  have hrank := Bisection.rank_le_length a t
  have hmem : ∀ x, x ∈ a.drop (Bisection.rank a t) ↔ x ∈ a ∧ t ≤ x := fun x => by
    rw [Bisection.drop_rank hmono]
    simp
  unfold deleteFutureTables
  simp only [nearIndexOnOrAfter_eq hd, ← ha]
  by_cases hlen : Bisection.rank a t < a.length
  · rw [if_pos hlen, if_neg (by omega), Int.toNat_natCast]
    have hloop := iterate_deleteTableAt i (Bisection.rank a t) (a.length - Bisection.rank a t) d
      (by rw [← ha]; omega)
    have hfold : ∀ n : ℕ, (List.range n).foldl (fun d _ =>
        deleteTableAt i (Bisection.rank a t) d) d = (deleteTableAt i (Bisection.rank a t))^[n] d :=
      fun n => by rw [List.foldl_const, List.length_range]
    rw [← hfold] at hloop
    simp only [← ha, hmem, Bisection.take_rank hmono] at hloop
    exact hloop
  · have hall : a.filter (· < t) = a := by
      rw [← Bisection.take_rank hmono, List.take_of_length_le (not_lt.1 hlen)]
    have hnone : ∀ x, ¬ (x ∈ a ∧ t ≤ x) := fun x hx => by
      rw [← hmem, List.drop_of_length_le (not_lt.1 hlen)] at hx
      cases hx
    rw [if_neg hlen, if_pos (by omega), hall, ha, Function.update_eq_self]
    refine ⟨rfl, fun j x => ?_, rfl, rfl, rfl⟩
    rw [if_neg fun h => hnone x h.2]

/-- What a new database object finds of a type, and all that it leaves of it: the newest tables that start
before the clock. -/
theorem getElem?_initDatabaseTableInfo (hd : d.sortedTableArray i = []) (t : ℤ) :
    (d.initDatabaseTableInfo t).sortedTableArray i =
        ((d.packageTables i).keys.drop
          ((d.packageTables i).keys.length - maxFilesEveryIntervalType i)).filter (· < t) ∧
      ∀ x : ℤ, ((d.initDatabaseTableInfo t).packageTables i)[x]? =
        if x ∈ (d.initDatabaseTableInfo t).sortedTableArray i then (d.packageTables i)[x]?
        else none := by
  have hkeys := keys_sorted (d.packageTables i)
  have hinfo : (d.handleTableInfo i).sortedTableArray i = (d.packageTables i).keys := by
    rw [(handleTableInfo_spec d i).1, Function.update_self, hd]
    split_ifs with hnil
    · exact hnil.symm
    · rfl
  obtain ⟨harrays₁, htables₁⟩ := deleteExcessiveTableData_spec (d.handleTableInfo i) i
  rw [hinfo] at harrays₁ htables₁
  set d₁ := (d.handleTableInfo i).deleteExcessiveTableData i
  set n := (d.packageTables i).keys.length - maxFilesEveryIntervalType i
  have harray₁ : d₁.sortedTableArray i = (d.packageTables i).keys.drop n := by
    rw [harrays₁, Function.update_self]
  have hsorted : (d₁.sortedTableArray i).Pairwise (· < ·) := by
    rw [harray₁]
    exact hkeys.drop
  obtain ⟨harrays₂, htables₂, -⟩ := deleteFutureTables_spec hsorted t
  have hsame := sameType_initDatabaseTableInfo d t i
  have harray : (d.initDatabaseTableInfo t).sortedTableArray i =
      ((d.packageTables i).keys.drop n).filter (· < t) := by
    rw [hsame.arrays, harrays₂, Function.update_self, harray₁]
  refine ⟨harray, fun x => ?_⟩
  rw [harray, hsame.tables, htables₂, harray₁, htables₁,
    (handleTableInfo_spec d i).2]
  by_cases hdrop : x ∈ (d.packageTables i).keys.drop n
  · have hnot : x ∉ (d.packageTables i).keys.take n := fun htake =>
      List.disjoint_take_drop (hkeys.imp ne_of_lt) le_rfl htake hdrop
    by_cases hx : x < t
    · simp [hdrop, hx, hnot]
    · simp [hdrop, hx, not_lt.1 hx]
  · -- a table outside the newest is dropped with the excess, or was never there
    by_cases htake : x ∈ (d.packageTables i).keys.take n
    · simp [hdrop, htake]
    · have hnone : (d.packageTables i)[x]? = none := by
        have hmem : x ∉ (d.packageTables i).keys := fun hmem => by
          rw [← List.take_append_drop n (d.packageTables i).keys, List.mem_append] at hmem
          exact hmem.elim htake hdrop
        simpa using hmem
      simp [hdrop, hnone]

theorem initDatabaseTableInfo_spec (hd : d.sortedTableArray i = []) (t : ℤ) :
    (d.initDatabaseTableInfo t).sortedTableArray i =
        ((d.packageTables i).keys.drop
          ((d.packageTables i).keys.length - maxFilesEveryIntervalType i)).filter (· < t) ∧
      ∀ x ∈ (d.initDatabaseTableInfo t).sortedTableArray i,
        ((d.initDatabaseTableInfo t).packageTables i)[x]? = (d.packageTables i)[x]? := by
  obtain ⟨harray, htables⟩ := getElem?_initDatabaseTableInfo hd t
  exact ⟨harray, fun x hx => by rw [htables, if_pos hx]⟩

theorem ArraysSorted.deleteFutureTables (hd : d.ArraysSorted) (t : ℤ) (i : IntervalType) :
    (deleteFutureTables t d i).ArraysSorted := by
  intro j
  rw [(deleteFutureTables_spec (hd i) t).1]
  by_cases hj : j = i
  · subst hj
    rw [Function.update_self]
    exact (hd j).filter _
  · rw [Function.update_of_ne hj]
    exact hd j

theorem ArraysSorted.foldl {α : Type} {f : DatabaseState → α → DatabaseState}
    (h : ∀ d x, d.ArraysSorted → (f d x).ArraysSorted) (l : List α) (hd : d.ArraysSorted) :
    (l.foldl f d).ArraysSorted := by
  induction l generalizing d with
  | nil => exact hd
  | cons x l ih => exact ih (h d x hd)

theorem ArraysSorted.initDatabaseTableInfo (hd : d.ArraysSorted) (t : ℤ) :
    (d.initDatabaseTableInfo t).ArraysSorted := by
  unfold DatabaseState.initDatabaseTableInfo
  simp only
  have h₁ := ArraysSorted.foldl (fun d i h => (h.handleTableInfo i).deleteExcessiveTableData i)
    IntervalType.all hd
  set d₁ := IntervalType.all.foldl
    (fun d i => (d.handleTableInfo i).deleteExcessiveTableData i) d
  have h₂ := ((samePackages_handleEventTableInfo d₁).trans
    (samePackages_deleteExcessiveEventData _)).arraysSorted h₁
  have h₃ := ArraysSorted.foldl (fun d i h => h.deleteFutureTables t i) IntervalType.all h₂
  set d₃ := IntervalType.all.foldl (DatabaseState.deleteFutureTables t)
    d₁.handleEventTableInfo.deleteExcessiveEventData
  refine (samePackages_initEventTable _ t).arraysSorted ?_
  split
  · exact h₃
  · split_ifs
    · exact fun i => h₃ i
    · exact h₃

theorem ArraysSorted.removeOldData (hd : d.ArraysSorted) (t : ℤ) :
    (d.removeOldData t).ArraysSorted := by
  refine ArraysSorted.foldl (fun d i h => (h.handleTableInfo i).deleteExcessiveTableData i) _
    (ArraysSorted.foldl (fun d i h => ?_) _ hd)
  intro j
  rw [sortedTableArray_removeOverdueTables]
  exact h j

theorem ArraysSorted.renewTableTime (hd : d.ArraysSorted) (timeDiff : ℤ) :
    (d.renewTableTime timeDiff).ArraysSorted := by
  unfold DatabaseState.renewTableTime
  refine ((samePackages_renewEventTable _ _).trans
    (samePackages_renewRecordTables _ _)).arraysSorted (ArraysSorted.foldl (fun d i h => ?_) _ hd)
  unfold renewPackageTables
  split_ifs
  · exact h
  · simp only
    refine (ArraysSorted.handleTableInfo (fun j => ?_) i).deleteExcessiveTableData i
    by_cases hj : j = i
    · subst hj
      simp
    · simp only [Function.update_of_ne hj]
      have hloop : ∀ (l : List ℤ) (d : DatabaseState),
          (l.foldl (renewPackageTable timeDiff i) d).sortedTableArray = d.sortedTableArray := by
        intro l
        induction l with
        | nil => exact fun _ => rfl
        | cons x l ih =>
          intro d
          rw [List.foldl_cons, ih]
          unfold renewPackageTable
          split_ifs <;> rfl
      rw [hloop]
      exact h j

/-! ### Flushes -/

/-- The cache with a new start time sorted in. -/
def withTable (a : List ℤ) (t : ℤ) : List ℤ := (a ++ [t]).insertionSort (· ≤ ·)

theorem mem_withTable {a : List ℤ} : x ∈ withTable a t ↔ x ∈ a ∨ x = t := by
  simp [withTable, List.mem_insertionSort]

theorem pairwise_withTable {a : List ℤ} (ha : a.Pairwise (· < ·)) (ht : t ∉ a) :
    (withTable a t).Pairwise (· < ·) := by
  have hsorted : (withTable a t).Pairwise (· ≤ ·) := List.pairwise_insertionSort _ _
  have hnodup : (withTable a t).Nodup := by
    refine (List.perm_insertionSort _ _).nodup_iff.2 ?_
    rw [List.nodup_append]
    exact ⟨ha.imp ne_of_lt, by simp, fun x hx y hy => by
      rintro rfl
      exact ht (List.mem_singleton.1 hy ▸ hx)⟩
  exact (hsorted.and (List.nodup_iff_pairwise_ne.1 hnodup)).imp fun h => lt_of_le_of_ne h.1 h.2

theorem addPackageTable_spec (d : DatabaseState) (i : IntervalType) (t : ℤ) :
    (d.addPackageTable i t).sortedTableArray = Function.update d.sortedTableArray i
        ((withTable (d.sortedTableArray i) t).drop
          ((withTable (d.sortedTableArray i) t).length - maxFilesEveryIntervalType i)) ∧
      ∀ j x, ((d.addPackageTable i t).packageTables j)[x]? =
        if j = i ∧ x ∈ (withTable (d.sortedTableArray i) t).take
            ((withTable (d.sortedTableArray i) t).length - maxFilesEveryIntervalType i) then none
        else if j = i ∧ x = t ∧ 0 ≤ t then some ((d.packageTables j).rows x)
        else (d.packageTables j)[x]? := by
  have hsame : ∀ d : DatabaseState, SamePackages d
      (if i = .daily then { d with eventBeginTime := t }.deleteExcessiveEventData else d) := by
    intro d
    split_ifs
    · have h := samePackages_deleteExcessiveEventData { d with eventBeginTime := t }
      exact ⟨h.arrays, h.tables, h.debug⟩
    · exact .refl d
  have h := hsame (d.createPackageLogTable i t)
  unfold addPackageTable
  simp only
  set d₂ := if i = .daily then
    { d.createPackageLogTable i t with eventBeginTime := t }.deleteExcessiveEventData
    else d.createPackageLogTable i t
  have harrays : d₂.sortedTableArray = d.sortedTableArray := h.arrays
  have htables : d₂.packageTables =
      Function.update d.packageTables i ((d.packageTables i).create t) := h.tables
  rw [harrays]
  obtain ⟨harrays₃, htables₃⟩ := deleteExcessiveTableData_spec
    { d₂ with
      sortedTableArray := Function.update d.sortedTableArray i
        (withTable (d.sortedTableArray i) t) } i
  simp only [Function.update_self, Function.update_idem] at harrays₃ htables₃
  refine ⟨harrays₃, fun j x => (htables₃ j x).trans ?_⟩
  congr 1
  rw [htables]
  by_cases hj : j = i
  · subst hj
    simp [Tables.getElem?_create]
  · simp [hj]

theorem ArraysSorted.addPackageTable (hd : d.ArraysSorted) (ht : t ∉ d.sortedTableArray i) :
    (d.addPackageTable i t).ArraysSorted := by
  intro j
  rw [(addPackageTable_spec d i t).1]
  by_cases hj : j = i
  · subst hj
    rw [Function.update_self]
    exact (pairwise_withTable (hd j) ht).drop
  · rw [Function.update_of_ne hj]
    exact hd j

/-- A flush adds a table first if the cache has none for the start of the period. -/
theorem updateBundleUsageData_eq (hd : d.ArraysSorted) (i : IntervalType)
    (stats : BundleActivePeriodStats) :
    d.updateBundleUsageData i stats =
      (if stats.beginTime ∈ d.sortedTableArray i then d
        else d.addPackageTable i stats.beginTime).flushPackageInfo i stats := by
  unfold updateBundleUsageData
  simp only [binarySearch_neg_iff (hd i), ite_not]

theorem ArraysSorted.updateBundleUsageData (hd : d.ArraysSorted) (i : IntervalType)
    (stats : BundleActivePeriodStats) : (d.updateBundleUsageData i stats).ArraysSorted := by
  rw [updateBundleUsageData_eq hd]
  split_ifs with h
  · exact hd
  · exact hd.addPackageTable h

theorem getElem?_flushPackageInfo (d : DatabaseState) (i j : IntervalType)
    (stats : BundleActivePeriodStats) (x : ℤ) :
    ((d.flushPackageInfo i stats).packageTables j)[x]? =
      if j = i ∧ x = stats.beginTime then
        ((d.packageTables j)[x]?).map (flushPackageRows stats)
      else (d.packageTables j)[x]? := by
  by_cases hj : j = i
  · subst hj
    simp [flushPackageInfo, Tables.getElem?_modifyRows]
  · simp [flushPackageInfo, hj]

/-- A flush of a type depends on that type only. -/
theorem updateBundleUsageData_congr (h : SameType i d d') (stats : BundleActivePeriodStats) :
    (d'.updateBundleUsageData i stats).sortedTableArray i =
        (d.updateBundleUsageData i stats).sortedTableArray i ∧
      ∀ x : ℤ, ((d'.updateBundleUsageData i stats).packageTables i)[x]? =
        ((d.updateBundleUsageData i stats).packageTables i)[x]? := by
  unfold updateBundleUsageData
  simp only [getElem?_flushPackageInfo, h.arrays]
  split_ifs
  · refine ⟨?_, fun x => ?_⟩
    · change (d'.addPackageTable i _).sortedTableArray i = (d.addPackageTable i _).sortedTableArray i
      rw [(addPackageTable_spec d' i _).1, (addPackageTable_spec d i _).1, h.arrays,
        Function.update_self, Function.update_self]
    · rw [(addPackageTable_spec d' i _).2, (addPackageTable_spec d i _).2, h.arrays, h.tables]
  · exact ⟨h.arrays, fun x => by rw [h.tables]⟩

/-- A flush that drops no table leaves everything before its period as it was. -/
theorem updateBundleUsageData_below (hd : d.ArraysSorted) {stats : BundleActivePeriodStats} {e : ℤ}
    (he : e ≤ stats.beginTime)
    (kept : ∀ t ∈ d.sortedTableArray i, t ∈ (d.updateBundleUsageData i stats).sortedTableArray i) :
    ((d.updateBundleUsageData i stats).sortedTableArray i).filter (· < e) =
        (d.sortedTableArray i).filter (· < e) ∧
      ∀ t ∈ d.sortedTableArray i, t < e →
        ((d.updateBundleUsageData i stats).packageTables i)[t]? = (d.packageTables i)[t]? := by
  have hd' := hd.updateBundleUsageData i stats i
  rw [updateBundleUsageData_eq hd] at kept hd' ⊢
  by_cases hmem : stats.beginTime ∈ d.sortedTableArray i
  · simp only [if_pos hmem] at kept ⊢
    refine ⟨rfl, fun t _ hlt => ?_⟩
    rw [getElem?_flushPackageInfo, if_neg fun h => (hlt.trans_le he).ne h.2]
  · simp only [if_neg hmem] at kept hd' ⊢
    obtain ⟨harrays, htables⟩ := addPackageTable_spec d i stats.beginTime
    have harray : ((d.addPackageTable i stats.beginTime).flushPackageInfo i stats).sortedTableArray
        i = (withTable (d.sortedTableArray i) stats.beginTime).drop
          ((withTable (d.sortedTableArray i) stats.beginTime).length -
            maxFilesEveryIntervalType i) := by
      change (d.addPackageTable i stats.beginTime).sortedTableArray i = _
      rw [harrays, Function.update_self]
    rw [harray] at kept hd' ⊢
    constructor
    · refine List.Perm.eq_of_pairwise' (r := (· < ·)) (hd'.filter _) ((hd i).filter _) ?_
      refine (List.perm_ext_iff_of_nodup ?_ ?_).2 fun x => ?_
      · exact (hd'.imp ne_of_lt).filter _
      · exact ((hd i).imp ne_of_lt).filter _
      · simp only [List.mem_filter, decide_eq_true_eq, and_congr_left_iff]
        refine fun hlt => ⟨fun hx => ?_, kept x⟩
        exact (mem_withTable.1 (List.mem_of_mem_drop hx)).resolve_right (hlt.trans_le he).ne
    · intro t ht hlt
      have hnot : t ∉ (withTable (d.sortedTableArray i) stats.beginTime).take
          ((withTable (d.sortedTableArray i) stats.beginTime).length -
            maxFilesEveryIntervalType i) := fun h =>
        List.disjoint_take_drop ((pairwise_withTable (hd i) hmem).imp ne_of_lt) le_rfl h (kept t ht)
      rw [getElem?_flushPackageInfo, if_neg fun h => (hlt.trans_le he).ne h.2, htables,
        if_neg fun h => hnot h.2, if_neg fun h => (hlt.trans_le he).ne h.2.1]

end DatabaseState
end DeviceUsageStats
