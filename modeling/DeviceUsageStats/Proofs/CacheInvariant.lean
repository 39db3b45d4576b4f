import DeviceUsageStats.Proofs.SharedFiles
import DeviceUsageStats.Sanity.TableTimes

/-! The cached start times of one database object over a run of its operations. They list the package
tables of each type, unless `RemoveOldData` drops the last table of a type: the file then has nothing
to read into the cache. -/

namespace DeviceUsageStats
namespace DatabaseState

variable {d : DatabaseState} {i : IntervalType} {x t : ℤ}

inductive PackageOp where
  | initDatabaseTableInfo (currentTime : ℤ)
  | updateBundleUsageData (i : IntervalType) (stats : BundleActivePeriodStats)
  | removeOldData (currentTime : ℤ)
  | renewTableTime (timeDiff : ℤ)

def applyPackageOp (d : DatabaseState) : PackageOp → DatabaseState
  | .initDatabaseTableInfo currentTime => d.initDatabaseTableInfo currentTime
  | .updateBundleUsageData i stats => d.updateBundleUsageData i stats
  | .removeOldData currentTime => d.removeOldData currentTime
  | .renewTableTime timeDiff => d.renewTableTime timeDiff

/-- A table that must be created has a name without a sign. -/
def SqlSucceeds (d : DatabaseState) : PackageOp → Prop
  | .updateBundleUsageData i stats => stats.beginTime ∈ d.sortedTableArray i ∨ 0 ≤ stats.beginTime
  | _ => True

/-- A removal of old data leaves a table of each type that has one. -/
def LeavesTables (d : DatabaseState) : PackageOp → Prop
  | .removeOldData t => ∀ i, (d.packageTables i).keys = [] ∨
      ∃ x ∈ d.packageTables i, overdueTime d.debugDatabase i t ≤ x
  | _ => True

/-- The states of one object, initialised over any files or new over files without package tables,
after operations whose statements succeed and that all meet a condition. -/
inductive PackageRun (Allowed : DatabaseState → PackageOp → Prop) : DatabaseState → Prop where
  | new (files : DatabaseFiles) (debug : Bool) (empty : ∀ i, (files.packageTables i).keys = []) :
    PackageRun Allowed { debugDatabase := debug, toDatabaseFiles := files }
  | init (files : DatabaseFiles) (debug : Bool) (currentTime : ℤ) :
    PackageRun Allowed (initDatabaseTableInfo
      { debugDatabase := debug, toDatabaseFiles := files } currentTime)
  | step {d : DatabaseState} (op : PackageOp) (run : PackageRun Allowed d)
    (sql : SqlSucceeds d op) (allowed : Allowed d op) : PackageRun Allowed (d.applyPackageOp op)

/-- The cache of each type is strictly increasing, within the cap and exact. -/
structure CacheExact (d : DatabaseState) : Prop where
  increasing : ∀ i, (d.sortedTableArray i).Pairwise (· < ·)
  capped : ∀ i, (d.sortedTableArray i).length ≤ maxFilesEveryIntervalType i
  exact : ∀ i, ∀ x : ℤ, x ∈ d.sortedTableArray i ↔ x ∈ d.packageTables i

theorem cacheExact_of_matches (h : ∀ i, Matches d i) : CacheExact d where
  increasing i := by
    rw [(h i).exact]
    exact keys_sorted _
  capped i := (h i).capped
  exact i x := by rw [(h i).exact, Std.TreeMap.mem_keys]

theorem arraysSorted_of_matches (h : ∀ i, Matches d i) : d.ArraysSorted :=
  (cacheExact_of_matches h).increasing

theorem Matches.deleteFutureTables (h : Matches d i) (t : ℤ) :
    Matches (deleteFutureTables t d i) i := by
  have hsorted : (d.sortedTableArray i).Pairwise (· < ·) := by
    rw [h.exact]
    exact keys_sorted _
  obtain ⟨harrays, htables, -⟩ := deleteFutureTables_spec hsorted t
  have harray : (DatabaseState.deleteFutureTables t d i).sortedTableArray i =
      (d.sortedTableArray i).filter (· < t) := by rw [harrays, Function.update_self]
  refine ⟨?_, ?_⟩
  · rw [harray]
    refine (keys_eq_of_sorted (hsorted.filter _) fun x => ?_).symm
    rw [Std.TreeMap.mem_iff_isSome_getElem?, htables, List.mem_filter, decide_eq_true_eq]
    split_ifs with hx
    · exact iff_of_false Bool.false_ne_true fun h' => absurd h'.2 (not_lt.2 hx.2.2)
    · rw [← Std.TreeMap.mem_iff_isSome_getElem?, ← Std.TreeMap.mem_keys, ← h.exact]
      exact ⟨fun h' => ⟨h', not_le.1 fun hle => hx ⟨rfl, h', hle⟩⟩, And.left⟩
  · rw [harray]
    exact (List.length_filter_le _ _).trans h.capped

theorem matches_initDatabaseTableInfo
    (h : (d.packageTables i).keys = [] → d.sortedTableArray i = []) (t : ℤ) :
    Matches (d.initDatabaseTableInfo t) i :=
  ((handle_excess_newest h).1.deleteFutureTables t).of_sameType
    (sameType_initDatabaseTableInfo d t i)

theorem matches_removeOldData (h : Matches d i) (t : ℤ)
    (hleft : (d.packageTables i).keys = [] ∨
      ∃ x ∈ d.packageTables i, overdueTime d.debugDatabase i t ≤ x) :
    Matches (d.removeOldData t) i := by
  refine Matches.of_sameType (handle_excess_newest fun hnil => ?_).1 (sameType_removeOldData d t i)
  rw [sortedTableArray_removeOverdueTables, h.exact]
  refine hleft.resolve_right fun ⟨x, hx, hle⟩ => ?_
  have hstays := (mem_removeOverdueTables t d i x).2 ⟨hx, hle⟩
  rw [← Std.TreeMap.mem_keys, hnil] at hstays
  cases hstays

theorem matches_addPackageTable (h : Matches d i) (h0 : 0 ≤ t) (ht : t ∉ d.sortedTableArray i) :
    Matches (d.addPackageTable i t) i := by
  obtain ⟨harrays, htables⟩ := addPackageTable_spec d i t
  have hsorted : (withTable (d.sortedTableArray i) t).Pairwise (· < ·) := by
    refine pairwise_withTable ?_ ht
    rw [h.exact]
    exact keys_sorted _
  have harray : (d.addPackageTable i t).sortedTableArray i =
      newestTables i (withTable (d.sortedTableArray i) t) := by
    rw [harrays, Function.update_self]
    rfl
  refine ⟨?_, ?_⟩
  · rw [harray]
    refine (keys_eq_of_sorted hsorted.drop fun x => ?_).symm
    rw [Std.TreeMap.mem_iff_isSome_getElem?, htables]
    refine .trans ?_ (mem_newestTables hsorted).symm
    rw [mem_withTable, h.exact, Std.TreeMap.mem_keys]
    split_ifs with hold hnew
    · exact iff_of_false Bool.false_ne_true fun h' => h'.2 (h.exact ▸ hold.2)
    · exact iff_of_true rfl ⟨.inr hnew.2.1, fun h' => hold ⟨rfl, h.exact.symm ▸ h'⟩⟩
    · rw [← Std.TreeMap.mem_iff_isSome_getElem?]
      refine ⟨fun hx => ⟨.inl hx, fun h' => hold ⟨rfl, h.exact.symm ▸ h'⟩⟩, fun hx => ?_⟩
      exact hx.1.resolve_right fun heq => hnew ⟨rfl, heq, h0⟩
  · rw [harray]
    exact length_newestTables_le i _

theorem matches_flushPackageInfo (h : Matches d i) (stats : BundleActivePeriodStats) :
    Matches (d.flushPackageInfo i stats) i where
  exact := by
    refine h.exact.trans (keys_eq_of_mem_iff fun x => ?_).symm
    change x ∈ Function.update d.packageTables i _ i ↔ _
    rw [Function.update_self, Tables.mem_modifyRows]
  capped := h.capped

theorem matches_updateBundleUsageData (h : ∀ i, Matches d i) (j : IntervalType)
    (stats : BundleActivePeriodStats)
    (hsql : stats.beginTime ∈ d.sortedTableArray j ∨ 0 ≤ stats.beginTime) (i : IntervalType) :
    Matches (d.updateBundleUsageData j stats) i := by
  by_cases hij : i = j
  · subst hij
    rw [updateBundleUsageData_eq (arraysSorted_of_matches h)]
    refine matches_flushPackageInfo ?_ stats
    split_ifs with hmem
    · exact h i
    · exact matches_addPackageTable (h i) (hsql.resolve_left hmem) hmem
  · exact (h i).of_sameType (sameType_updateBundleUsageData hij d stats)

theorem matches_applyPackageOp (h : ∀ i, Matches d i) (op : PackageOp) (hsql : SqlSucceeds d op)
    (hleft : LeavesTables d op) (i : IntervalType) : Matches (d.applyPackageOp op) i := by
  cases op with
  | initDatabaseTableInfo t =>
    exact matches_initDatabaseTableInfo (fun hnil => (h i).exact.trans hnil) t
  | updateBundleUsageData j stats => exact matches_updateBundleUsageData h j stats hsql i
  | removeOldData t => exact matches_removeOldData (h i) t (hleft i)
  | renewTableTime timeDiff =>
    exact (renewPackageTables_newest (h i).exact timeDiff).2.2.of_sameType
      (sameType_renewTableTime d timeDiff i)

theorem matches_run (run : PackageRun LeavesTables d) : ∀ i, Matches d i := by
  induction run with
  | new files debug empty => exact fun i => ⟨(empty i).symm, Nat.zero_le _⟩
  | init files debug t => exact fun i => matches_initDatabaseTableInfo (fun _ => rfl) t
  | step op _ sql allowed ih => exact matches_applyPackageOp ih op sql allowed

/-- The cache is exact in every state of a run that never removes the last table of a type. -/
theorem cacheExact_run (run : PackageRun LeavesTables d) : CacheExact d :=
  cacheExact_of_matches (matches_run run)

def flushedDay : DatabaseState :=
  applyPackageOp (initDatabaseTableInfo {} 1709280000000) (.updateBundleUsageData .daily
    { userId := 100, beginTime := 1709251200000, endTime := 1709280000000 })

theorem run_flushedDay (Allowed : DatabaseState → PackageOp → Prop)
    (h : ∀ d i stats, Allowed d (.updateBundleUsageData i stats)) :
    PackageRun Allowed flushedDay :=
  .step _ (.init {} false 1709280000000) (.inr (by decide)) (h _ _ _)

/-- A removal on the next day keeps the table. -/
theorem cacheExact_nextDay :
    CacheExact (flushedDay.applyPackageOp (.removeOldData 1709366400000)) := by
  refine cacheExact_run (.step _ (run_flushedDay _ fun _ _ _ => trivial) trivial fun i => ?_)
  cases i with
  | daily => exact .inr ⟨1709251200000, by decide +kernel, by decide +kernel⟩
  | weekly | monthly | yearly => exact .inl (by decide +kernel)

/-- A removal forty days later drops the only table and leaves it in the cache. -/
theorem not_cacheExact_fortyDaysLater :
    PackageRun (fun _ _ => True) (flushedDay.applyPackageOp (.removeOldData 1712736000000)) ∧
      ¬ CacheExact (flushedDay.applyPackageOp (.removeOldData 1712736000000)) := by
  refine ⟨.step _ (run_flushedDay _ fun _ _ _ => trivial) trivial trivial, fun h => ?_⟩
  have hexact := h.exact .daily 1709251200000
  revert hexact
  decide +kernel

end DatabaseState
end DeviceUsageStats
