import DeviceUsageStats.Sanity.EventTables
import DeviceUsageStats.Spec.SharedDatabase

/-! Database objects over the same files. A name in a cache stays the name of a table as long as no
other object drops or renames that table: the operations that do so anyway are those outside
`SafeFor`, and after one of them the other object's next flush goes nowhere. -/

namespace DeviceUsageStats

open DatabaseState

/-- Every name in the caches is the name of a table. -/
structure Listed (c : BundleActiveUsageDatabase) (files : DatabaseFiles) : Prop where
  packages : ∀ i, ∀ t ∈ c.sortedTableArray i, t ∈ files.packageTables i
  event : ∀ t ∈ c.eventTableName, t ∈ files.eventTables

/-- The oldest names over the cap. -/
def excessTables (i : IntervalType) (tables : List ℤ) : List ℤ :=
  tables.take (tables.length - maxFilesEveryIntervalType i)

def overdueTime (debug : Bool) (i : IntervalType) (currentTime : ℤ) : ℤ :=
  (BundleActiveCalendar.increase { time := currentTime, debug := debug } i
    (-1 * maxFilesEveryIntervalType i)).time

/-- An operation leaves the object's own names valid: a table that it needs can be created, and the
removal of old data leaves a table where the cache names one. -/
def OwnSafe (d : DatabaseState) : DatabaseOp → Prop
  | .initDatabaseTableInfo t _ => 0 ≤ t ∨ (eventChoice d.eventTables.keys t).isSome
  | .updateBundleUsageData i stats =>
    stats.beginTime ∈ d.sortedTableArray i ∨ 0 ≤ stats.beginTime
  | .updateEventData stats =>
    stats.events.events = [] ∨ d.eventTableName ≠ none ∨ 0 ≤ stats.beginTime ∨
      (eventChoice d.eventTables.keys stats.beginTime).isSome
  | .renewTableTime _ => True
  | .removeOldData t => ∀ i, d.sortedTableArray i = [] ∨
      (d.packageTables i).keys.filter (overdueTime d.debugDatabase i t ≤ ·) ≠ []

/-- An operation drops and renames no package table that another cache names. -/
def PackagesSafeFor (d : DatabaseState) (c : BundleActiveUsageDatabase) : DatabaseOp → Prop
  | .initDatabaseTableInfo t _ => ∀ i, ∀ x ∈ c.sortedTableArray i,
      x ∉ excessTables i (d.packageTables i).keys ∧ x < t
  | .updateBundleUsageData i stats =>
    stats.beginTime ∈ d.sortedTableArray i ∨ ∀ x ∈ c.sortedTableArray i,
      x ∉ excessTables i (withTable (d.sortedTableArray i) stats.beginTime)
  | .updateEventData _ => True
  | .renewTableTime _ => ∀ i, d.sortedTableArray i = [] ∨ c.sortedTableArray i = [] ∨
      (∀ x ∈ c.sortedTableArray i, x ∉ d.sortedTableArray i) ∧
        (d.packageTables i).keys.length ≤ maxFilesEveryIntervalType i
  | .removeOldData t => ∀ i, ∀ x ∈ c.sortedTableArray i,
      overdueTime d.debugDatabase i t ≤ x ∧
        x ∉ excessTables i
          ((d.packageTables i).keys.filter (overdueTime d.debugDatabase i t ≤ ·))

/-- An operation drops and renames no event table that another cache names. -/
def EventSafeFor (d : DatabaseState) (c : BundleActiveUsageDatabase) : DatabaseOp → Prop
  | .initDatabaseTableInfo t _ => ∀ x ∈ c.eventTableName, eventChoice d.eventTables.keys t = some x
  | .updateEventData stats =>
    stats.events.events = [] ∨ d.eventTableName ≠ none ∨
      ∀ x ∈ c.eventTableName, eventChoice d.eventTables.keys stats.beginTime = some x
  | .renewTableTime _ => ∀ x ∈ c.eventTableName, d.eventTableName ≠ some x
  | _ => True

namespace DatabaseState

variable {d : DatabaseState} {i : IntervalType} {x t : ℤ}

/-! ### The package tables of one type -/

/-- The tables of the file become the cache, less the oldest over the cap. -/
theorem handle_excess_spec (d : DatabaseState) (i : IntervalType) :
    (∀ x : ℤ, x ∈ ((d.handleTableInfo i).deleteExcessiveTableData i).packageTables i ↔
        x ∈ d.packageTables i ∧ x ∉ excessTables i (d.packageTables i).keys) ∧
      (d.sortedTableArray i = [] ∨ (d.packageTables i).keys ≠ [] →
        ∀ x ∈ ((d.handleTableInfo i).deleteExcessiveTableData i).sortedTableArray i,
          x ∈ d.packageTables i ∧ x ∉ excessTables i (d.packageTables i).keys) := by
  obtain ⟨harrays, htables⟩ := handleTableInfo_spec d i
  obtain ⟨harrays', htables'⟩ := deleteExcessiveTableData_spec (d.handleTableInfo i) i
  have harray : (d.handleTableInfo i).sortedTableArray i =
      if (d.packageTables i).keys = [] then d.sortedTableArray i else (d.packageTables i).keys := by
    rw [harrays, Function.update_self]
  have hnodup : (d.packageTables i).keys.Nodup := (keys_sorted _).imp ne_of_lt
  rw [harray] at harrays' htables'
  constructor
  · intro x
    rw [Std.TreeMap.mem_iff_isSome_getElem?, htables', htables]
    by_cases hkeys : (d.packageTables i).keys = []
    · have hx : x ∉ d.packageTables i := fun hx => by
        rw [← Std.TreeMap.mem_keys, hkeys] at hx
        cases hx
      simp [hx]
    · rw [if_neg hkeys, Std.TreeMap.mem_iff_isSome_getElem?]
      unfold excessTables
      split_ifs with h
      · exact iff_of_false Bool.false_ne_true fun h' => h'.2 h.2
      · exact ⟨fun hx => ⟨hx, fun hx' => h ⟨rfl, hx'⟩⟩, And.left⟩
  · intro h x hx
    rw [harrays', Function.update_self] at hx
    by_cases hkeys : (d.packageTables i).keys = []
    · rw [if_pos hkeys, h.resolve_right (not_not.2 hkeys), List.drop_nil] at hx
      cases hx
    · rw [if_neg hkeys] at hx
      refine ⟨Std.TreeMap.mem_keys.1 (List.mem_of_mem_drop hx), fun h => ?_⟩
      exact List.disjoint_take_drop hnodup le_rfl h hx

/-- What an operation did to the package tables of one type: the names of the own cache are names of
tables, and the tables of `kept` are still there. -/
structure PackagesKept (i : IntervalType) (d d' : DatabaseState) (kept : ℤ → Prop) : Prop where
  own : ∀ x ∈ d'.sortedTableArray i, x ∈ d'.packageTables i
  others : ∀ x ∈ d.packageTables i, kept x → x ∈ d'.packageTables i

theorem PackagesKept.of_sameType {d' d'' : DatabaseState} {kept : ℤ → Prop}
    (h : PackagesKept i d d' kept) (hs : SameType i d' d'') : PackagesKept i d d'' kept where
  own x hx := by
    rw [hs.arrays] at hx
    rw [hs.tables]
    exact h.own x hx
  others x hx hk := by
    rw [hs.tables]
    exact h.others x hx hk

theorem packagesKept_handle_excess
    (h : d.sortedTableArray i = [] ∨ (d.packageTables i).keys ≠ []) :
    PackagesKept i d ((d.handleTableInfo i).deleteExcessiveTableData i)
      (· ∉ excessTables i (d.packageTables i).keys) where
  own x hx := ((handle_excess_spec d i).1 x).2 ((handle_excess_spec d i).2 h x hx)
  others x hx hk := ((handle_excess_spec d i).1 x).2 ⟨hx, hk⟩

theorem packagesKept_initDatabaseTableInfo (hd : d.ArraysSorted)
    (hempty : d.sortedTableArray i = []) (t : ℤ) :
    PackagesKept i d (d.initDatabaseTableInfo t)
      fun x => x ∉ excessTables i (d.packageTables i).keys ∧ x < t := by
  have hround := packagesKept_handle_excess (.inl hempty)
  set d₁ := (d.handleTableInfo i).deleteExcessiveTableData i with hd₁
  have hsorted : d₁.ArraysSorted := (hd.handleTableInfo i).deleteExcessiveTableData i
  obtain ⟨harrays, htables, -⟩ := deleteFutureTables_spec (hsorted i) t
  have hmem : ∀ x : ℤ, x ∈ (deleteFutureTables t d₁ i).packageTables i ↔
      x ∈ d₁.packageTables i ∧ ¬ (x ∈ d₁.sortedTableArray i ∧ t ≤ x) := fun x => by
    rw [Std.TreeMap.mem_iff_isSome_getElem?, htables, Std.TreeMap.mem_iff_isSome_getElem?]
    split_ifs with h
    · exact iff_of_false Bool.false_ne_true fun h' => h'.2 h.2
    · exact ⟨fun hx => ⟨hx, fun hx' => h ⟨rfl, hx'⟩⟩, And.left⟩
  have hfuture : PackagesKept i d (deleteFutureTables t d₁ i)
      fun x => x ∉ excessTables i (d.packageTables i).keys ∧ x < t := by
    refine ⟨fun x hx => ?_, fun x hx hk => ?_⟩
    · rw [harrays, Function.update_self, List.mem_filter, decide_eq_true_eq] at hx
      exact (hmem x).2 ⟨hround.own x hx.1, fun h => (hx.2.trans_le h.2).false⟩
    · exact (hmem x).2 ⟨hround.others x hx hk.1, fun h => (hk.2.trans_le h.2).false⟩
  refine hfuture.of_sameType (sameType_initDatabaseTableInfo d t i)

theorem packagesKept_removeOldData (t : ℤ)
    (h : d.sortedTableArray i = [] ∨
      (d.packageTables i).keys.filter (overdueTime d.debugDatabase i t ≤ ·) ≠ []) :
    PackagesKept i d (d.removeOldData t) fun x => overdueTime d.debugDatabase i t ≤ x ∧
      x ∉ excessTables i
        ((d.packageTables i).keys.filter (overdueTime d.debugDatabase i t ≤ ·)) := by
  set d₁ := removeOverdueTables t d i
  have hmem : ∀ x : ℤ, x ∈ d₁.packageTables i ↔
      x ∈ d.packageTables i ∧ overdueTime d.debugDatabase i t ≤ x :=
    mem_removeOverdueTables t d i
  have hkeys : (d₁.packageTables i).keys =
      (d.packageTables i).keys.filter (overdueTime d.debugDatabase i t ≤ ·) := by
    refine keys_eq_of_sorted ((keys_sorted _).filter _) fun x => ?_
    rw [hmem, List.mem_filter, Std.TreeMap.mem_keys, decide_eq_true_eq]
  have harray : d₁.sortedTableArray i = d.sortedTableArray i :=
    congrFun (sortedTableArray_removeOverdueTables t d i) i
  have hround := packagesKept_handle_excess (d := d₁) (i := i) (by rw [harray, hkeys]; exact h)
  rw [hkeys] at hround
  have hall : PackagesKept i d ((d₁.handleTableInfo i).deleteExcessiveTableData i)
      fun x => overdueTime d.debugDatabase i t ≤ x ∧ x ∉ excessTables i
        ((d.packageTables i).keys.filter (overdueTime d.debugDatabase i t ≤ ·)) :=
    ⟨hround.own, fun x hx hk => hround.others x ((hmem x).2 ⟨hx, hk.1⟩) hk.2⟩
  exact hall.of_sameType (sameType_removeOldData d t i)

theorem foldl_renewPackageTable (timeDiff : ℤ) (l : List ℤ) (d : DatabaseState) :
    (∀ x ∈ d.packageTables i, x ∉ l →
        x ∈ (l.foldl (renewPackageTable timeDiff i) d).packageTables i) ∧
      ((l.foldl (renewPackageTable timeDiff i) d).packageTables i).keys.length ≤
        (d.packageTables i).keys.length := by
  induction l generalizing d with
  | nil => exact ⟨fun x hx _ => hx, le_rfl⟩
  | cons y l ih =>
    obtain ⟨hkept, hlen⟩ := ih (renewPackageTable timeDiff i d y)
    have hstep : (∀ x ∈ d.packageTables i, x ≠ y →
          x ∈ (renewPackageTable timeDiff i d y).packageTables i) ∧
        ((renewPackageTable timeDiff i d y).packageTables i).size ≤ (d.packageTables i).size := by
      unfold renewPackageTable
      split_ifs
      · simp only [deletePackageTable, Function.update_self]
        exact ⟨fun x hx hne => (Tables.mem_drop _ _ _).2 ⟨hx, hne⟩, Std.TreeMap.size_erase_le⟩
      · simp only [renamePackageTable, Function.update_self]
        exact ⟨fun x hx hne => Tables.mem_rename_of_ne _ _ _ _ hx hne, Tables.size_rename_le _ _ _⟩
    refine ⟨fun x hx hnot => ?_, hlen.trans ?_⟩
    · obtain ⟨hne, hnot⟩ := List.ne_and_not_mem_of_not_mem_cons hnot
      exact hkept x (hstep.1 x hx hne) hnot
    · rw [Std.TreeMap.length_keys, Std.TreeMap.length_keys]
      exact hstep.2

theorem packagesKept_renewTableTime (hown : ∀ x ∈ d.sortedTableArray i, x ∈ d.packageTables i)
    (timeDiff : ℤ) : PackagesKept i d (d.renewTableTime timeDiff) fun x =>
      d.sortedTableArray i = [] ∨ x ∉ d.sortedTableArray i ∧
        (d.packageTables i).keys.length ≤ maxFilesEveryIntervalType i := by
  suffices h : PackagesKept i d (renewPackageTables timeDiff d i) fun x =>
      d.sortedTableArray i = [] ∨ x ∉ d.sortedTableArray i ∧
        (d.packageTables i).keys.length ≤ maxFilesEveryIntervalType i from
    h.of_sameType (sameType_renewTableTime d timeDiff i)
  unfold renewPackageTables
  split_ifs with hnil
  · exact ⟨hown, fun x hx _ => hx⟩
  · obtain ⟨hkept, hlen⟩ := foldl_renewPackageTable (i := i) timeDiff (d.sortedTableArray i) d
    simp only
    set d₁ := (d.sortedTableArray i).foldl (renewPackageTable timeDiff i) d
    have hround := packagesKept_handle_excess
      (d := { d₁ with sortedTableArray := Function.update d₁.sortedTableArray i [] }) (i := i)
      (.inl (Function.update_self ..))
    refine ⟨hround.own, fun x hx hk => hround.others x ?_ ?_⟩
    · exact hkept x hx (hk.resolve_left hnil).1
    · have hzero : (d₁.packageTables i).keys.length - maxFilesEveryIntervalType i = 0 := by
        have := (hk.resolve_left hnil).2
        omega
      unfold excessTables
      rw [hzero, List.take_zero]
      exact List.not_mem_nil

theorem packagesKept_updateBundleUsageData (hd : d.ArraysSorted)
    (hown : ∀ x ∈ d.sortedTableArray i, x ∈ d.packageTables i) (stats : BundleActivePeriodStats)
    (h : stats.beginTime ∈ d.sortedTableArray i ∨ 0 ≤ stats.beginTime) :
    PackagesKept i d (d.updateBundleUsageData i stats) fun x =>
      stats.beginTime ∈ d.sortedTableArray i ∨
        x ∉ excessTables i (withTable (d.sortedTableArray i) stats.beginTime) := by
  have hflush : ∀ (d : DatabaseState) (x : ℤ),
      x ∈ (d.flushPackageInfo i stats).packageTables i ↔ x ∈ d.packageTables i := fun d x => by
    simp only [flushPackageInfo, Function.update_self]
    exact Tables.mem_modifyRows _ _ _ _
  rw [updateBundleUsageData_eq hd]
  split_ifs with hmem
  · exact ⟨fun x hx => (hflush d x).2 (hown x hx), fun x hx _ => (hflush d x).2 hx⟩
  · obtain ⟨harrays, htables⟩ := addPackageTable_spec d i stats.beginTime
    have hadd : ∀ x : ℤ, x ∈ (d.addPackageTable i stats.beginTime).packageTables i ↔
        x ∉ excessTables i (withTable (d.sortedTableArray i) stats.beginTime) ∧
          (x = stats.beginTime ∨ x ∈ d.packageTables i) := fun x => by
      rw [Std.TreeMap.mem_iff_isSome_getElem?, htables, Std.TreeMap.mem_iff_isSome_getElem?]
      unfold excessTables
      split_ifs with h₁ h₂
      · exact iff_of_false Bool.false_ne_true fun h' => h'.1 h₁.2
      · exact iff_of_true rfl ⟨fun h' => h₁ ⟨rfl, h'⟩, .inl h₂.2.1⟩
      · refine ⟨fun h' => ⟨fun hx => h₁ ⟨rfl, hx⟩, .inr h'⟩, fun h' => h'.2.resolve_left fun hx => ?_⟩
        exact h₂ ⟨rfl, hx, h.resolve_left hmem⟩
    refine ⟨fun x hx => (hflush _ x).2 ((hadd x).2 ?_), fun x hx hk =>
      (hflush _ x).2 ((hadd x).2 ⟨hk.resolve_left hmem, .inr hx⟩)⟩
    change x ∈ (d.addPackageTable i stats.beginTime).sortedTableArray i at hx
    rw [harrays, Function.update_self] at hx
    have hnodup := (pairwise_withTable (hd i) hmem).imp ne_of_lt
    refine ⟨fun h' => List.disjoint_take_drop hnodup le_rfl h' hx, ?_⟩
    exact (mem_withTable.1 (List.mem_of_mem_drop hx)).symm.imp_right (hown x)

/-! ### The event table -/

structure EventKept (d d' : DatabaseState) (kept : ℤ → Prop) : Prop where
  own : ∀ x ∈ d'.eventTableName, x ∈ d'.eventTables
  others : ∀ x ∈ d.eventTables, kept x → x ∈ d'.eventTables
  unsigned : ∀ x ∈ d'.eventTables, 0 ≤ x

theorem eventKept_of_sameEventTables {d' : DatabaseState} (h : SameEventTables d d')
    (hown : ∀ x ∈ d.eventTableName, x ∈ d.eventTables) (hpos : ∀ x ∈ d.eventTables, 0 ≤ x) :
    EventKept d d' fun _ => True :=
  ⟨fun x hx => (h.tables x).2 (hown x (h.name ▸ hx)), fun x hx _ => (h.tables x).2 hx,
    fun x hx => hpos x ((h.tables x).1 hx)⟩

/-- A resolved name: the chosen table stays, else a new table is made. -/
theorem eventKept_of_choice {d' : DatabaseState} {choice : Option ℤ}
    (hname : d'.eventTableName = some (choice.getD t))
    (htables : ∀ x : ℤ, x ∈ d'.eventTables ↔
      if choice.isSome then choice = some x else x = t ∧ 0 ≤ t)
    (hchoice : ∀ x ∈ choice, x ∈ d.eventTables) (hpos : ∀ x ∈ d.eventTables, 0 ≤ x)
    (h : 0 ≤ t ∨ choice.isSome) : EventKept d d' (choice = some ·) := by
  cases choice with
  | none =>
    have ht : 0 ≤ t := h.resolve_right Bool.false_ne_true
    refine ⟨fun x hx => (htables x).2 ?_, fun x _ hk => absurd hk (by simp), fun x hx => ?_⟩
    · rw [hname] at hx
      exact ⟨(Option.some.inj hx).symm, ht⟩
    · rw [((htables x).1 hx).1]
      exact ht
  | some e =>
    refine ⟨fun x hx => (htables x).2 ?_, fun x _ hk => (htables x).2 hk, fun x hx => ?_⟩
    · rw [hname] at hx
      exact hx
    · exact hpos x (hchoice x ((htables x).1 hx))

theorem eventKept_renewEventTable (hown : ∀ x ∈ d.eventTableName, x ∈ d.eventTables)
    (hpos : ∀ x ∈ d.eventTables, 0 ≤ x) (timeDiff : ℤ) :
    EventKept d (d.renewEventTable timeDiff) (d.eventTableName ≠ some ·) := by
  unfold renewEventTable
  cases hname : d.eventTableName with
  | none => exact ⟨fun x hx => hown x hx, fun x hx _ => hx, hpos⟩
  | some e =>
    have he : e ∈ d.eventTables := hown e hname
    simp only [parseStartTime, abs_of_nonneg (hpos e he)]
    by_cases hneg : e + timeDiff < 0
    · have hdeleted : (d.eventTables.drop e).2 = true := Std.TreeMap.contains_iff_mem.2 he
      simp only [if_pos hneg, hdeleted, if_true]
      refine ⟨fun x hx => absurd hx (Option.not_mem_none x), fun x hx hk => ?_, fun x hx => ?_⟩
      · exact (Tables.mem_drop _ _ _).2 ⟨hx, fun h => hk (h ▸ rfl)⟩
      · exact hpos x ((Tables.mem_drop _ _ _).1 hx).1
    · simp only [if_neg hneg]
      cases hrenamed : (d.eventTables.rename e (e + timeDiff)).2 with
      | true =>
        rw [if_pos rfl]
        refine ⟨fun x hx => ?_, fun x hx hk => ?_, fun x hx => ?_⟩
        · obtain rfl : e + timeDiff = x := Option.some.inj hx
          exact Tables.mem_rename_of_success _ _ _ hrenamed
        · exact Tables.mem_rename_of_ne _ _ _ _ hx fun h => hk (h ▸ rfl)
        · rcases Tables.mem_rename _ _ _ _ hx with hx | rfl
          · exact hpos x hx
          · exact not_lt.1 hneg
      | false =>
        rw [if_neg Bool.false_ne_true, Tables.rename_of_failure _ _ _ hrenamed]
        refine ⟨fun x hx => ?_, fun x hx _ => hx, hpos⟩
        obtain rfl : e = x := Option.some.inj hx
        exact he

theorem eventKept_renewTableTime (hown : ∀ x ∈ d.eventTableName, x ∈ d.eventTables)
    (hpos : ∀ x ∈ d.eventTables, 0 ≤ x) (timeDiff : ℤ) :
    EventKept d (d.renewTableTime timeDiff) (d.eventTableName ≠ some ·) := by
  have h₁ := SameEventTables.foldl (sameEventTables_renewPackageTables timeDiff) IntervalType.all d
  unfold renewTableTime
  simp only
  set d₁ := IntervalType.all.foldl (renewPackageTables timeDiff) d
  have h := eventKept_renewEventTable (d := d₁)
    (fun x hx => (h₁.tables x).2 (hown x (h₁.name ▸ hx)))
    (fun x hx => hpos x ((h₁.tables x).1 hx)) timeDiff
  have h₂ : SameEventTables (d₁.renewEventTable timeDiff)
      ((d₁.renewEventTable timeDiff).renewRecordTables timeDiff) := by
    unfold renewRecordTables
    split <;> exact ⟨rfl, fun _ => .rfl⟩
  refine ⟨fun x hx => (h₂.tables x).2 (h.own x (h₂.name ▸ hx)), fun x hx hk => ?_, fun x hx => ?_⟩
  · exact (h₂.tables x).2 (h.others x ((h₁.tables x).2 hx) (h₁.name.symm ▸ hk))
  · exact h.unsigned x ((h₂.tables x).1 hx)

/-! ### One operation -/

theorem packagesKept_of_sameType {d' : DatabaseState}
    (hown : ∀ x ∈ d.sortedTableArray i, x ∈ d.packageTables i) (h : SameType i d d') :
    PackagesKept i d d' fun _ => True where
  own x hx := by
    rw [h.arrays] at hx
    rw [h.tables]
    exact hown x hx
  others x hx _ := by
    rw [h.tables]
    exact hx

/-- What a safe operation keeps covers the names of every cache that it spares. -/
theorem packagesKept_apply (hd : d.ArraysSorted) (listed : Listed d.toBundleActiveUsageDatabase
    d.toDatabaseFiles) (op : DatabaseOp) (own : OwnSafe d op) (i : IntervalType) :
    ∃ kept, PackagesKept i d (d.apply op) kept ∧
      ∀ c, PackagesSafeFor d c op → ∀ x ∈ c.sortedTableArray i, kept x := by
  have hown := listed.packages i
  cases op with
  | initDatabaseTableInfo t debug =>
    have h := packagesKept_initDatabaseTableInfo (i := i)
      (d := { debugDatabase := debug, toDatabaseFiles := d.toDatabaseFiles })
      (fun _ => List.Pairwise.nil) rfl t
    exact ⟨_, ⟨h.own, h.others⟩, fun c hsafe => hsafe i⟩
  | updateBundleUsageData j stats =>
    by_cases hi : i = j
    · subst hi
      exact ⟨_, packagesKept_updateBundleUsageData hd hown stats own,
        fun c hsafe x hx => hsafe.imp_right fun h => h x hx⟩
    · exact ⟨_, packagesKept_of_sameType hown (sameType_updateBundleUsageData hi d stats),
        fun _ _ _ _ => trivial⟩
  | updateEventData stats =>
    exact ⟨_, packagesKept_of_sameType hown ((samePackages_updateEventData d stats).sameType i),
      fun _ _ _ _ => trivial⟩
  | renewTableTime timeDiff =>
    refine ⟨_, packagesKept_renewTableTime hown timeDiff, fun c hsafe x hx => ?_⟩
    refine (hsafe i).imp_right fun h => ?_
    have hne : c.sortedTableArray i ≠ [] := fun hnil => by
      rw [hnil] at hx
      cases hx
    exact ⟨(h.resolve_left hne).1 x hx, (h.resolve_left hne).2⟩
  | removeOldData t =>
    exact ⟨_, packagesKept_removeOldData t (own i), fun c hsafe => hsafe i⟩

theorem eventKept_apply (listed : Listed d.toBundleActiveUsageDatabase d.toDatabaseFiles)
    (hpos : ∀ x ∈ d.eventTables, 0 ≤ x) (op : DatabaseOp) (own : OwnSafe d op) :
    ∃ kept, EventKept d (d.apply op) kept ∧
      ∀ c, EventSafeFor d c op → ∀ x ∈ c.eventTableName, kept x := by
  have hown := listed.event
  have hchoice : ∀ t, ∀ x ∈ eventChoice d.eventTables.keys t, x ∈ d.eventTables := fun t x hx => by
    have h := List.mem_of_find?_eq_some hx
    rwa [List.mem_reverse, List.mem_insertionSort, Std.TreeMap.mem_keys] at h
  cases op with
  | initDatabaseTableInfo t debug =>
    obtain ⟨hname, htables⟩ := initDatabaseTableInfo_events
      { debugDatabase := debug, toDatabaseFiles := d.toDatabaseFiles } t rfl hpos
    exact ⟨_, eventKept_of_choice hname htables (hchoice t) hpos own, fun c hsafe => hsafe⟩
  | updateBundleUsageData j stats =>
    exact ⟨_, eventKept_of_sameEventTables (sameEventTables_updateBundleUsageData d j stats) hown
      hpos, fun _ _ _ _ => trivial⟩
  | updateEventData stats =>
    have hrows : ∀ (d' : DatabaseState) eventTable, SameEventTables d'
        { d' with
          eventTables := d'.eventTables.modifyRows eventTable
            (· ++ stats.events.events.map (eventLogRow stats (parseStartTime eventTable))) } :=
      fun d' _ => ⟨rfl, fun x => Tables.mem_modifyRows _ _ _ _⟩
    change ∃ kept, EventKept d (d.updateEventData stats) kept ∧ _
    unfold updateEventData
    simp only
    split_ifs with hevents
    · exact ⟨_, eventKept_of_sameEventTables (.refl d) hown hpos, fun _ _ _ _ => trivial⟩
    · cases hname : d.eventTableName with
      | some e =>
        have hnoop : d.initEventTable stats.beginTime = d := by
          rw [initEventTable, if_pos (by rw [hname]; exact Option.some_ne_none e)]
        simp only [hnoop, hname]
        exact ⟨_, eventKept_of_sameEventTables (hrows d e) hown hpos, fun _ _ _ _ => trivial⟩
      | none =>
        obtain ⟨hname', htables⟩ := initEventTable_spec d stats.beginTime hname
        simp only [hname']
        have h := hrows (d.initEventTable stats.beginTime)
          ((eventChoice d.eventTables.keys stats.beginTime).getD stats.beginTime)
        have hcan := ((own.resolve_left hevents).resolve_left fun h => h hname)
        have hkept := eventKept_of_choice hname' htables (hchoice _) hpos hcan
        refine ⟨_, ⟨fun x hx => (h.tables x).2 (hkept.own x (h.name ▸ hx)),
          fun x hx hk => (h.tables x).2 (hkept.others x hx hk),
          fun x hx => hkept.unsigned x ((h.tables x).1 hx)⟩, fun c hsafe => ?_⟩
        exact (hsafe.resolve_left hevents).resolve_left fun h => h hname
  | renewTableTime timeDiff =>
    exact ⟨_, eventKept_renewTableTime hown hpos timeDiff, fun c hsafe => hsafe⟩
  | removeOldData t =>
    exact ⟨_, eventKept_of_sameEventTables (sameEventTables_removeOldData d t) hown hpos,
      fun _ _ _ _ => trivial⟩

end DatabaseState

namespace SharedDatabase

variable {Service : Type} [DecidableEq Service] {shared : SharedDatabase Service}

/-- Every name in every cache is the name of a table. -/
def Consistent (shared : SharedDatabase Service) : Prop :=
  ∀ who, Listed (shared.databases who) shared.files

/-- The steps after which every name is still one, read off the state before the step. -/
def SafeStep (shared : SharedDatabase Service) (who : Service) (op : DatabaseOp) : Prop :=
  OwnSafe (shared.databaseState who) op ∧ ∀ other, other ≠ who →
    PackagesSafeFor (shared.databaseState who) (shared.databases other) op ∧
      EventSafeFor (shared.databaseState who) (shared.databases other) op

structure SharedInv (shared : SharedDatabase Service) : Prop where
  sorted : ∀ who, (shared.databaseState who).ArraysSorted
  unsigned : ∀ x ∈ shared.files.eventTables, 0 ≤ x
  consistent : shared.Consistent

theorem arraysSorted_apply {d : DatabaseState} (hd : d.ArraysSorted) (op : DatabaseOp) :
    (d.apply op).ArraysSorted := by
  cases op with
  | initDatabaseTableInfo t debug =>
    exact ArraysSorted.initDatabaseTableInfo (fun _ => List.Pairwise.nil) t
  | updateBundleUsageData i stats => exact hd.updateBundleUsageData i stats
  | updateEventData stats => exact (samePackages_updateEventData d stats).arraysSorted hd
  | renewTableTime timeDiff => exact hd.renewTableTime timeDiff
  | removeOldData t => exact hd.removeOldData t

theorem SharedInv.step (inv : SharedInv shared) (who : Service) (op : DatabaseOp)
    (safe : shared.SafeStep who op) : SharedInv (shared.apply who op) := by
  obtain ⟨own, others⟩ := safe
  obtain ⟨eventKept, hevent, hspared⟩ := eventKept_apply (d := shared.databaseState who)
    (inv.consistent who) inv.unsigned op own
  refine ⟨fun other => ?_, hevent.unsigned, fun other => ⟨fun i => ?_, ?_⟩⟩
  · by_cases h : other = who
    · subst h
      have hsorted := arraysSorted_apply (inv.sorted other) op
      intro i
      change (Function.update shared.databases other _ other).sortedTableArray i |>.Pairwise _
      rw [Function.update_self]
      exact hsorted i
    · intro i
      change (Function.update shared.databases who _ other).sortedTableArray i |>.Pairwise _
      rw [Function.update_of_ne h]
      exact inv.sorted other i
  · obtain ⟨kept, hkept, hspared⟩ := packagesKept_apply (inv.sorted who) (inv.consistent who) op own i
    change ∀ x ∈ (Function.update shared.databases who _ other).sortedTableArray i, x ∈ _
    by_cases h : other = who
    · subst h
      rw [Function.update_self]
      exact hkept.own
    · rw [Function.update_of_ne h]
      exact fun x hx => hkept.others x ((inv.consistent other).packages i x hx)
        (hspared _ (others other h).1 x hx)
  · change ∀ x ∈ (Function.update shared.databases who _ other).eventTableName, x ∈ _
    by_cases h : other = who
    · subst h
      rw [Function.update_self]
      exact hevent.own
    · rw [Function.update_of_ne h]
      exact fun x hx => hevent.others x ((inv.consistent other).event x hx)
        (hspared _ (others other h).2 x hx)

theorem sharedInv_run (run : Run SafeStep shared) : SharedInv shared := by
  induction run with
  | start files packages events =>
    refine ⟨fun _ _ => List.Pairwise.nil, events, fun _ => ⟨fun i x hx => ?_, fun x hx => ?_⟩⟩
    · exact absurd hx List.not_mem_nil
    · exact absurd hx (Option.not_mem_none x)
  | step who op _ safe ih => exact ih.step who op safe

/-- Along the runs whose steps touch no table that another cache names, every name stays one. -/
theorem consistent_run (run : Run SafeStep shared) : shared.Consistent :=
  (sharedInv_run run).consistent

/-- The services of two users are initialised, one after the other, over new files. -/
def oneUser : SharedDatabase Bool :=
  SharedDatabase.apply { files := {}, databases := fun _ => {} } false
    (.initDatabaseTableInfo 1709280000000 false)

def twoUsers : SharedDatabase Bool :=
  oneUser.apply true (.initDatabaseTableInfo 1709280005000 false)

theorem run_twoUsers : Run SafeStep twoUsers := by
  refine .step _ _ (.step _ _ (.start {} (fun i x hx => ?_) fun x hx => ?_) ?_) ?_
  · exact absurd hx Std.TreeMap.not_mem_emptyc
  · exact absurd hx Std.TreeMap.not_mem_emptyc
  · exact ⟨.inl (by decide), fun _ _ => ⟨fun i x hx => absurd hx List.not_mem_nil,
      fun x hx => absurd hx (Option.not_mem_none x)⟩⟩
  · refine ⟨.inl (by decide), fun other hne => ?_⟩
    cases other with
    | true => exact absurd rfl hne
    | false =>
      refine ⟨fun i => ?_, ?_⟩
      · cases i <;> decide +kernel
      · have hname : (oneUser.databases false).eventTableName = some 1709280000000 := by
          decide +kernel
        change ∀ x ∈ (oneUser.databases false).eventTableName, _
        rw [hname]
        intro x hx
        obtain rfl := Option.some.inj hx
        decide +kernel

/-- The first user's service flushes its day. -/
theorem consistent_twoUsers :
    (twoUsers.apply false (.updateBundleUsageData .daily
      { userId := 100, beginTime := 1709251200000, endTime := 1709280000000 })).Consistent := by
  refine consistent_run (run_twoUsers.step _ _ ⟨.inr (by decide), fun other hne => ?_⟩)
  cases other with
  | false => exact absurd rfl hne
  | true => exact ⟨.inr (by decide +kernel), trivial⟩

/-- The first user's service handles a clock that was set back by an hour: it renames the event table
that the second one names. -/
theorem not_consistent_after_renewTableTime :
    Run (fun _ _ _ => True) (twoUsers.apply false (.renewTableTime (-3600000))) ∧
      ¬ (twoUsers.apply false (.renewTableTime (-3600000))).Consistent := by
  constructor
  · refine .step _ _ (.step _ _ (.step _ _ (.start {} (fun i x hx => ?_) fun x hx => ?_) trivial)
      trivial) trivial
    · exact absurd hx Std.TreeMap.not_mem_emptyc
    · exact absurd hx Std.TreeMap.not_mem_emptyc
  · intro h
    have hmem := (h true).event 1709280000000 (by decide +kernel)
    revert hmem
    decide +kernel

end SharedDatabase
end DeviceUsageStats
