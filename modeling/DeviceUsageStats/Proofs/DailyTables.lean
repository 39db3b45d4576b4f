import DeviceUsageStats.Proofs.FrontTime
import DeviceUsageStats.Proofs.OneUid
import DeviceUsageStats.Proofs.PackageUpserts
import DeviceUsageStats.Proofs.Reload
import DeviceUsageStats.Proofs.SharedFiles
import DeviceUsageStats.Spec.DailyHistory

/-! The daily table and one bundle's daily entry over a rollover. The table of the period stays the
newest of its type, so a flush always finds or creates it; a rollover either keeps the day, and moves no
time of the bundle, or saves the entry's time up to the last millisecond of the day and starts a new one
from nothing. -/

namespace DeviceUsageStats

namespace DatabaseState

variable {d : DatabaseState} {i : IntervalType} {b x t : ℤ}

/-- No table of a type starts after a time, and the one that starts then is there if it is cached. -/
structure NewestAt (i : IntervalType) (b : ℤ) (d : DatabaseState) : Prop where
  cached : ∀ x ∈ d.sortedTableArray i, x ≤ b
  stored : ∀ x ∈ d.packageTables i, x ≤ b
  own : b ∈ d.sortedTableArray i → b ∈ d.packageTables i

theorem NewestAt.congr {d' : DatabaseState} (h : NewestAt i b d)
    (arrays : d'.sortedTableArray i = d.sortedTableArray i)
    (tables : ∀ x : ℤ, (d'.packageTables i)[x]? = (d.packageTables i)[x]?) : NewestAt i b d' := by
  have hmem : ∀ x : ℤ, x ∈ d'.packageTables i ↔ x ∈ d.packageTables i := fun x => by
    rw [Std.TreeMap.mem_iff_isSome_getElem?, tables, Std.TreeMap.mem_iff_isSome_getElem?]
  refine ⟨fun x hx => h.cached x (arrays ▸ hx), fun x hx => h.stored x ((hmem x).1 hx), fun hb => ?_⟩
  exact (hmem b).2 (h.own (arrays ▸ hb))

theorem NewestAt.later (h : NewestAt i b d) (hx : b < x) : NewestAt i x d :=
  ⟨fun y hy => (h.cached y hy).trans hx.le, fun y hy => (h.stored y hy).trans hx.le,
    fun hx' => absurd (h.cached x hx') (not_le.2 hx)⟩

theorem NewestAt.rows_later (h : NewestAt i b d) (hx : b < x) : (d.packageTables i).rows x = [] := by
  have hnone : x ∉ d.packageTables i := fun hx' => absurd (h.stored x hx') (not_le.2 hx)
  rw [Tables.rows, Std.TreeMap.getElem?_eq_none hnone]
  rfl

theorem mem_addPackageTable (hd : d.ArraysSorted) (hb : b ∉ d.sortedTableArray i)
    (newest : ∀ x ∈ d.sortedTableArray i, x ≤ b) (h0 : 0 ≤ b) :
    b ∈ (d.addPackageTable i b).packageTables i := by
  have hsorted := pairwise_withTable (hd i) hb
  have hin : b ∈ withTable (d.sortedTableArray i) b := mem_withTable.2 (.inr rfl)
  have hlast : (withTable (d.sortedTableArray i) b).getLast? = some b :=
    ServiceState.getLast?_eq_of_greatest hsorted hin fun x hx =>
      (mem_withTable.1 hx).elim (newest x) fun h => h.le
  have hnot : b ∉ (withTable (d.sortedTableArray i) b).take
      ((withTable (d.sortedTableArray i) b).length - maxFilesEveryIntervalType i) := by
    intro htake
    have hcap : 0 < maxFilesEveryIntervalType i := by cases i <;> decide
    have hlen := List.length_pos_of_mem hin
    have hdrop : b ∈ (withTable (d.sortedTableArray i) b).drop
        ((withTable (d.sortedTableArray i) b).length - maxFilesEveryIntervalType i) := by
      refine List.mem_of_getLast? ?_
      rw [List.getLast?_drop, if_neg (by omega), hlast]
    exact List.disjoint_take_drop (hsorted.imp ne_of_lt) le_rfl htake hdrop
  rw [Std.TreeMap.mem_iff_isSome_getElem?, (addPackageTable_spec d i b).2,
    if_neg fun h => hnot h.2, if_pos ⟨rfl, rfl, h0⟩]
  rfl

theorem NewestAt.addPackageTable (h : NewestAt i b d) (hd : d.ArraysSorted)
    (hb : b ∉ d.sortedTableArray i) (h0 : 0 ≤ b) : NewestAt i b (d.addPackageTable i b) := by
  obtain ⟨harray, htables⟩ := addPackageTable_spec d i b
  refine ⟨fun x hx => ?_, fun x hx => ?_, fun _ => mem_addPackageTable hd hb h.cached h0⟩
  · rw [harray, Function.update_self] at hx
    exact (mem_withTable.1 (List.mem_of_mem_drop hx)).elim (h.cached x) fun h => h.le
  · rw [Std.TreeMap.mem_iff_isSome_getElem?, htables] at hx
    split_ifs at hx with _ hnew
    · cases hx
    · exact hnew.2.1.le
    · exact h.stored x (Std.TreeMap.mem_iff_isSome_getElem?.2 hx)

theorem mem_flushPackageInfo (d : DatabaseState) (i : IntervalType) (p : BundleActivePeriodStats)
    (x : ℤ) : x ∈ (d.flushPackageInfo i p).packageTables i ↔ x ∈ d.packageTables i := by
  rw [Std.TreeMap.mem_iff_isSome_getElem?, getElem?_flushPackageInfo,
    Std.TreeMap.mem_iff_isSome_getElem?]
  split_ifs
  · rw [Option.isSome_map]
  · rfl

theorem NewestAt.updateBundleUsageData {p : BundleActivePeriodStats}
    (h : NewestAt i p.beginTime d) (hd : d.ArraysSorted) (h0 : 0 ≤ p.beginTime) :
    NewestAt i p.beginTime (d.updateBundleUsageData i p) ∧
      p.beginTime ∈ (d.updateBundleUsageData i p).packageTables i := by
  rw [updateBundleUsageData_eq hd]
  have hflush : ∀ d : DatabaseState, NewestAt i p.beginTime d →
      NewestAt i p.beginTime (d.flushPackageInfo i p) := fun d h =>
    ⟨h.cached, fun x hx => h.stored x ((mem_flushPackageInfo d i p x).1 hx), fun hb =>
      (mem_flushPackageInfo d i p _).2 (h.own hb)⟩
  split_ifs with hmem
  · exact ⟨hflush d h, (mem_flushPackageInfo ..).2 (h.own hmem)⟩
  · exact ⟨hflush _ (h.addPackageTable hd hmem h0),
      (mem_flushPackageInfo ..).2 (mem_addPackageTable hd hmem h.cached h0)⟩

theorem getElem?_updateBundleUsageData_of_ne (hd : d.ArraysSorted) {p : BundleActivePeriodStats}
    (hx : x ≠ p.beginTime) :
    ((d.updateBundleUsageData i p).packageTables i)[x]? = none ∨
      ((d.updateBundleUsageData i p).packageTables i)[x]? = (d.packageTables i)[x]? := by
  rw [updateBundleUsageData_eq hd, getElem?_flushPackageInfo, if_neg fun h => hx h.2]
  split_ifs
  · exact .inr rfl
  · rw [(addPackageTable_spec d i p.beginTime).2]
    split_ifs with _ hnew
    · exact .inl rfl
    · exact absurd hnew.2.1 hx
    · exact .inr rfl

theorem mem_sortedTableArray_removeOldData (hx : x ∈ (d.removeOldData t).sortedTableArray i) :
    x ∈ d.sortedTableArray i ∨
      x ∈ d.packageTables i ∧ overdueTime d.debugDatabase i t ≤ x := by
  rw [(sameType_removeOldData d t i).arrays, (deleteExcessiveTableData_spec _ i).1,
    Function.update_self] at hx
  have hx := List.mem_of_mem_drop hx
  rw [(handleTableInfo_spec _ i).1, Function.update_self] at hx
  split_ifs at hx
  · rw [sortedTableArray_removeOverdueTables] at hx
    exact .inl hx
  · exact .inr ((mem_removeOverdueTables t d i x).1 (Std.TreeMap.mem_keys.1 hx))

/-- A removal of old data keeps what is newest, and its table unless it is overdue. -/
theorem NewestAt.removeOldData (h : NewestAt i b d) (t : ℤ)
    (due : b ∈ d.sortedTableArray i → overdueTime d.debugDatabase i t ≤ b) :
    NewestAt i b (d.removeOldData t) := by
  refine ⟨fun x hx => ?_, fun x hx => ?_, fun hb => ?_⟩
  · exact (mem_sortedTableArray_removeOldData hx).elim (h.cached x) fun hx => h.stored x hx.1
  · rw [Std.TreeMap.mem_iff_isSome_getElem?] at hx
    rcases getElem?_removeOldData d t i x with hnone | hsame
    · rw [hnone] at hx
      cases hx
    · rw [hsame] at hx
      exact h.stored x (Std.TreeMap.mem_iff_isSome_getElem?.2 hx)
  · have hmem : b ∈ d.packageTables i ∧ overdueTime d.debugDatabase i t ≤ b :=
      (mem_sortedTableArray_removeOldData hb).elim (fun hb => ⟨h.own hb, due hb⟩) id
    refine (packagesKept_removeOldData t (.inr ?_)).own b hb
    exact List.ne_nil_of_mem (List.mem_filter.2
      ⟨Std.TreeMap.mem_keys.2 hmem.1, decide_eq_true hmem.2⟩)

end DatabaseState

namespace ServiceState

open DatabaseState

variable (tz : TimeZone) {s s' : ServiceState} {i : IntervalType} {b t : ℤ}

/-! ### The table of the period -/

def PeriodNewest (s : ServiceState) (i : IntervalType) : Prop :=
  NewestAt i (s.currentStats i).beginTime s.databaseState

theorem PeriodNewest.memoryOnly (newest : s.PeriodNewest i) (h : MemoryOnly s s') :
    s'.PeriodNewest i := by
  unfold PeriodNewest
  rw [h.begins, h.databaseState]
  exact newest

theorem beginTime_restoreStats (s : ServiceState) (forced : Bool) (i : IntervalType) :
    ((s.restoreStats forced).currentStats i).beginTime = (s.currentStats i).beginTime := by
  obtain ⟨events, hstats⟩ := currentStats_restoreStats s forced i
  rw [hstats]

theorem entryOf_restoreStats (s : ServiceState) (forced : Bool) (k : String) (i : IntervalType) :
    (s.restoreStats forced).entryOf k i = s.entryOf k i := by
  obtain ⟨events, hstats⟩ := currentStats_restoreStats s forced i
  rw [entryOf, hstats]
  rfl

theorem debugDatabase_restoreStats (s : ServiceState) (forced : Bool) :
    (s.restoreStats forced).database.debugDatabase = s.database.debugDatabase := by
  have hround : ∀ s i, (restoreStatsOf s i).database.debugDatabase = s.database.debugDatabase := by
    intro s i
    obtain ⟨j, hj⟩ : ∃ j, j ≠ i := by
      cases i
      · exact ⟨.weekly, by decide⟩
      all_goals exact ⟨.daily, by decide⟩
    exact (sameType_restoreStatsOf s hj).debug
  have hloop : (IntervalType.all.foldl restoreStatsOf s).database.debugDatabase =
      s.database.debugDatabase :=
    List.foldlRecOn _ _ (motive := fun s' => s'.database.debugDatabase = s.database.debugDatabase)
      rfl fun s' h i _ => (hround s' i).trans h
  unfold ServiceState.restoreStats
  simp only
  split_ifs
  · exact hloop
  · exact (samePackages_updateModuleData _ _ _).debug.trans hloop
  · rfl

theorem PeriodNewest.restoreStats (newest : s.PeriodNewest i) (tidy : s.Tidy)
    (h0 : 0 ≤ (s.currentStats i).beginTime) : (s.restoreStats true).PeriodNewest i := by
  obtain ⟨harrays, htables⟩ := restoreStats_packages s i
  have hsaved : NewestAt i (s.currentStats i).beginTime (s.savedPackages i) := by
    unfold savedPackages
    split_ifs
    · exact newest
    · exact (NewestAt.updateBundleUsageData newest tidy.arrays h0).1
  unfold PeriodNewest
  rw [beginTime_restoreStats]
  exact hsaved.congr harrays htables

theorem rows_restoreStats_beginTime (newest : s.PeriodNewest i) (tidy : s.Tidy)
    (h0 : 0 ≤ (s.currentStats i).beginTime) :
    ((s.restoreStats true).files.packageTables i).rows (s.currentStats i).beginTime =
      flushPackageRows (s.currentStats i)
        ((s.files.packageTables i).rows (s.currentStats i).beginTime) := by
  have htables := (restoreStats_packages s i).2
  by_cases hempty : (s.currentStats i).bundleStats.isEmpty = true
  · rw [flushPackageRows_of_isEmpty hempty]
    refine Tables.rows_eq_of_getElem? _ _ ((htables _).trans ?_)
    rw [savedPackages, if_pos hempty]
    rfl
  · have hsaved : (s.currentStats i).beginTime ∈ (s.restoreStats true).files.packageTables i := by
      rw [Std.TreeMap.mem_iff_isSome_getElem?]
      refine (congrArg Option.isSome (htables _)).trans ?_
      rw [savedPackages, if_neg hempty, ← Std.TreeMap.mem_iff_isSome_getElem?]
      exact (NewestAt.updateBundleUsageData newest tidy.arrays h0).2
    rw [rows_restoreStats tidy (.inr hsaved) fun _ => hsaved, if_pos rfl]

theorem getElem?_restoreStats_of_ne (tidy : s.Tidy) {x : ℤ} (hx : x ≠ (s.currentStats i).beginTime) :
    ((s.restoreStats true).files.packageTables i)[x]? = none ∨
      ((s.restoreStats true).files.packageTables i)[x]? = (s.files.packageTables i)[x]? := by
  have htables := (restoreStats_packages s i).2 x
  change ((s.restoreStats true).files.packageTables i)[x]? = _ at htables
  rw [htables, savedPackages]
  split_ifs
  · exact .inr rfl
  · exact getElem?_updateBundleUsageData_of_ne tidy.arrays hx

/-! ### The rows of one bundle -/

variable {n : String} {u : ℤ}

/-- The table of the period has one row for each identity, and one of the bundle only if its entry
will write it. -/
structure RowsKnown (s : ServiceState) (i : IntervalType) (n : String) (u : ℤ) : Prop where
  nodup : (((s.files.packageTables i).rows (s.currentStats i).beginTime).map PackageLogRow.ident).Nodup
  used : ∀ row ∈ (s.files.packageTables i).rows (s.currentStats i).beginTime,
    row.ident = (s.userId, n, u) → ∃ e, s.entryOf (getBundleUsageKey n u) i = some e ∧ e.Used

theorem RowsKnown.flushPackageRows (h : s.RowsKnown i n u)
    (held : s.Holds fun k e => getBundleUsageKey e.bundleName e.uid = k) :
    ((DatabaseState.flushPackageRows (s.currentStats i)
        ((s.files.packageTables i).rows (s.currentStats i).beginTime)).map PackageLogRow.ident).Nodup ∧
      ∀ row ∈ DatabaseState.flushPackageRows (s.currentStats i)
          ((s.files.packageTables i).rows (s.currentStats i).beginTime),
        row.ident = (s.userId, n, u) →
          ∃ e, s.entryOf (getBundleUsageKey n u) i = some e ∧ e.Used := by
  have keyed : Keyed (s.currentStats i).bundleStats := held.entries i
  rw [flushPackageRows_eq keyed]
  refine ⟨Upsert.nodup_upsert h.nodup (nodup_ident_flushedValues keyed), fun row hrow hid => ?_⟩
  rcases Upsert.mem_of_mem_upsert hrow with hold | hvalue
  · exact h.used row hold hid
  · obtain ⟨k, e, hk, hused, rfl⟩ := mem_flushedValues.1 hvalue
    obtain ⟨-, hbundle⟩ := Prod.mk.inj hid
    obtain ⟨hname, huid⟩ := Prod.mk.inj hbundle
    have hkey := keyed k e hk
    change e.bundleName = n at hname
    change e.uid = u at huid
    rw [hname, huid] at hkey
    exact ⟨e, hkey ▸ hk, hused⟩

theorem RowsKnown.restoreStats (h : s.RowsKnown i n u) (newest : s.PeriodNewest i) (told : s.Told)
    (h0 : 0 ≤ (s.currentStats i).beginTime) : (s.restoreStats true).RowsKnown i n u := by
  obtain ⟨hnodup, hused⟩ := h.flushPackageRows told.held
  rw [← rows_restoreStats_beginTime newest told.tidy h0] at hnodup hused
  constructor <;> rw [beginTime_restoreStats]
  · exact hnodup
  · rw [(restoreStats_user s true).1, entryOf_restoreStats]
    exact hused

def dayFrontTime (userId : ℤ) (n : String) (u : ℤ) (rows : List PackageLogRow) : ℤ :=
  ((rows.filter (·.ident = (userId, n, u))).map PackageLogRow.totalTime).sum

theorem dayFrontTime_flushPackageRows (h : s.RowsKnown i n u)
    (held : s.Holds fun k e => getBundleUsageKey e.bundleName e.uid = k)
    (own : ∀ e, s.entryOf (getBundleUsageKey n u) i = some e → e.bundleName = n ∧ e.uid = u) :
    dayFrontTime s.userId n u (DatabaseState.flushPackageRows (s.currentStats i)
        ((s.files.packageTables i).rows (s.currentStats i).beginTime)) =
      (s.entryOf (getBundleUsageKey n u) i).elim 0 (·.totalInFrontTime) := by
  have keyed : Keyed (s.currentStats i).bundleStats := held.entries i
  obtain ⟨-, hused⟩ := h.flushPackageRows held
  unfold dayFrontTime
  by_cases hentry : ∃ e, s.entryOf (getBundleUsageKey n u) i = some e ∧ e.Used
  · obtain ⟨e, hk, he⟩ := hentry
    obtain ⟨hname, huid⟩ := own e hk
    have hwritten := (flushedInto_upsert keyed h.nodup).written _ e hk he
    rw [hname, huid, held.users i] at hwritten
    rw [flushPackageRows_eq keyed, hwritten, hk]
    simp [packageLogRow]
  · rw [List.filter_eq_nil_iff.2 fun row hrow hid => hentry (hused row hrow (of_decide_eq_true hid))]
    cases hk : s.entryOf (getBundleUsageKey n u) i with
    | none => rfl
    | some e =>
      have hzero : ¬ e.Used := fun he => hentry ⟨e, hk, he⟩
      exact (not_not.1 hzero).1.symm

/-! ### The rollover -/

theorem debugUserService_saved (s : ServiceState) (t : ℤ) :
    (s.saved t).debugUserService = s.debugUserService := by
  rw [saved, setDatabase, (restoreStats_user s true).2.1]

theorem databaseState_saved (s : ServiceState) (t : ℤ) :
    (s.saved t).databaseState = (s.restoreStats true).databaseState.removeOldData t := by
  rw [saved, databaseState_setDatabase]

theorem sortedTableArray_saved (newest : s.PeriodNewest i) (tidy : s.Tidy)
    (h0 : 0 ≤ (s.currentStats i).beginTime) {x : ℤ}
    (hx : x ∈ (s.saved t).databaseState.sortedTableArray i) : x ≤ (s.currentStats i).beginTime := by
  have hrestored := newest.restoreStats tidy h0
  unfold PeriodNewest at hrestored
  rw [beginTime_restoreStats] at hrestored
  rw [databaseState_saved] at hx
  exact (mem_sortedTableArray_removeOldData hx).elim (hrestored.cached x) fun hx =>
    hrestored.stored x hx.1

/-- After a whole period the load starts the next one anew. -/
theorem entryOf_saveAndReload_of_whole (newest : s.PeriodNewest i) (tidy : s.Tidy)
    (h0 : 0 ≤ (s.currentStats i).beginTime)
    (left : (s.currentStats i).beginTime ≠ truncate tz s.debugUserService i t)
    (whole : (s.currentStats i).beginTime + periodLength s.debugUserService i ≤ t) (k : String) :
    (s.saveAndReload tz t).entryOf k i = none := by
  have hdebug := debugUserService_saved s t
  have hkeeps : ¬ Keeps tz t false (s.saved t) i := by
    rintro ⟨-, hbegin⟩
    rw [currentStats_saved, beginTime_restoreStats, hdebug] at hbegin
    exact left hbegin
  have hnone : ((s.saved t).databaseState.getCurrentUsageData (s.saved t).packageContainUidMap i
      (s.saved t).userId).1.filter (fun stats => t > stats.beginTime ∧
        t < stats.beginTime + periodLength (s.saved t).debugUserService i) = none := by
    rw [Option.filter_eq_none_iff, hdebug]
    intro stats hstats htaken
    unfold getCurrentUsageData at hstats
    split at hstats
    · cases hstats
    · rename_i x hx
      cases hstats
      have hle := sortedTableArray_saved newest tidy h0 (List.mem_of_getLast? hx)
      have htaken := (of_decide_eq_true htaken).2
      simp only at htaken
      omega
  rw [saveAndReload_eq, entryOf, currentStats_loadActiveStats, if_neg hkeeps]
  unfold loadedPeriod
  rw [hnone]
  simp

theorem beginTime_saveAndReload (s : ServiceState) (t : ℤ) (i : IntervalType) :
    ((s.saveAndReload tz t).currentStats i).beginTime = truncate tz s.debugUserService i t := by
  rw [saveAndReload_eq, currentStats_loadActiveStats, ← debugUserService_saved s t]
  split_ifs with hkeeps
  · exact hkeeps.2
  · exact (loadedPeriod_bounds tz t (s.saved t) i).1

theorem samePackages_saveAndReload (s : ServiceState) (t : ℤ) :
    SamePackages ((s.restoreStats true).databaseState.removeOldData t)
      (s.saveAndReload tz t).databaseState := by
  rw [saveAndReload_eq, ← databaseState_saved]
  exact (loadActiveStats_source tz (s.saved t) t false false).1

/-! ### One bundle over a rollover -/

theorem RowsKnown.memoryOnly (h : s.RowsKnown i n u) (hm : MemoryOnly s s')
    (used : (∃ e, s.entryOf (getBundleUsageKey n u) i = some e ∧ e.Used) →
      ∃ e, s'.entryOf (getBundleUsageKey n u) i = some e ∧ e.Used) : s'.RowsKnown i n u := by
  constructor <;> rw [hm.files, hm.begins]
  · exact h.nodup
  · rw [hm.userId]
    exact fun row hrow hid => used (h.used row hrow hid)

/-- The daily table and the daily entry of a bundle at an instant. -/
structure DayKnown (s : ServiceState) (n : String) (u t : ℤ) : Prop where
  newest : s.PeriodNewest .daily
  begins : 0 ≤ (s.currentStats .daily).beginTime
  rows : s.RowsKnown .daily n u
  sound : ∀ e, s.entryOf (getBundleUsageKey n u) .daily = some e → e.Sound t

theorem DayKnown.mono (h : s.DayKnown n u t) {t' : ℤ} (ht : t ≤ t') : s.DayKnown n u t' :=
  ⟨h.newest, h.begins, h.rows, fun e he => (h.sound e he).mono ht⟩

theorem DayKnown.restoreStats (h : s.DayKnown n u t) (told : s.Told) :
    (s.restoreStats true).DayKnown n u t := by
  refine ⟨h.newest.restoreStats told.tidy h.begins, ?_, h.rows.restoreStats h.newest told h.begins,
    ?_⟩
  · rw [beginTime_restoreStats]
    exact h.begins
  · rw [entryOf_restoreStats]
    exact h.sound

theorem DayKnown.memoryOnly (h : s.DayKnown n u t) (hm : MemoryOnly s s')
    (sound : ∀ e, s'.entryOf (getBundleUsageKey n u) .daily = some e → e.Sound t)
    (used : (∃ e, s.entryOf (getBundleUsageKey n u) .daily = some e ∧ e.Used) →
      ∃ e, s'.entryOf (getBundleUsageKey n u) .daily = some e ∧ e.Used) : s'.DayKnown n u t := by
  refine ⟨h.newest.memoryOnly hm, ?_, h.rows.memoryOnly hm used, sound⟩
  rw [hm.begins]
  exact h.begins

/-- The end of the day is a tick at its last millisecond. -/
theorem DayKnown.flushDataInMem (h : s.DayKnown n u t) (told : s.Told)
    (ht : s.dailyExpiryDate.time - 1 ≤ t) : s.flushDataInMem.2.DayKnown n u t := by
  have hentry := entryOf_flushDataInMem (told.held.entries .daily) (getBundleUsageKey n u)
  refine h.memoryOnly (flushed_flushDataInMem told.held.entries).toMemoryOnly (fun e he => ?_) ?_
  · rw [hentry] at he
    obtain ⟨e₀, he₀, rfl⟩ := Option.map_eq_some_iff.1 he
    exact (h.sound e₀ he₀).update ht
  · rintro ⟨e, he, hused⟩
    rw [hentry, he]
    exact ⟨_, rfl, hused.grows (h.sound e he) (e.grows_update ..)⟩

theorem foldl_continueBundle_memoryOnly (c : ContinueStats) (l : List String) (s : ServiceState) :
    MemoryOnly s (l.foldl (continueBundle c) s) :=
  List.foldlRecOn _ _ (.refl s) fun _ h n _ =>
    (keptInMemory_memoryOnly s).toKeptByStats.continueBundle c n h

theorem told_foldl_continueBundle (c : ContinueStats) (l : List String) (told : s.Told) :
    (l.foldl (continueBundle c) s).Told :=
  List.foldlRecOn _ _ told fun _ h n _ => keptByStats_told.continueBundle c n h

/-- What is left of the table of the period. -/
theorem rows_saveAndReload (s : ServiceState) (t x : ℤ) (i : IntervalType) :
    ((s.saveAndReload tz t).files.packageTables i).rows x = [] ∨
      ((s.saveAndReload tz t).files.packageTables i).rows x =
        ((s.restoreStats true).files.packageTables i).rows x := by
  have htables : (s.saveAndReload tz t).files.packageTables =
      ((s.restoreStats true).databaseState.removeOldData t).packageTables :=
    (samePackages_saveAndReload tz s t).tables
  rw [htables]
  rcases getElem?_removeOldData (s.restoreStats true).databaseState t i x with hnone | hsame
  · exact .inl (by rw [Tables.rows, hnone]; rfl)
  · exact .inr (Tables.rows_eq_of_getElem? _ _ hsame)

theorem userId_saveAndReload (s : ServiceState) (t : ℤ) :
    (s.saveAndReload tz t).userId = s.userId := by
  rw [saveAndReload_eq, (loadActiveStats_source tz (s.saved t) t false false).2.1]
  exact (restoreStats_user s true).1

/-- A day that is kept: its table stays unless it is overdue. -/
theorem DayKnown.saveAndReload_of_keeps (h : s.DayKnown n u t) (told : s.Told) {t' : ℤ}
    (same : (s.currentStats .daily).beginTime = truncate tz s.debugUserService .daily t')
    (due : overdueTime s.database.debugDatabase .daily t' ≤ (s.currentStats .daily).beginTime) :
    (s.saveAndReload tz t').DayKnown n u t ∧
      (s.saveAndReload tz t').entryOf (getBundleUsageKey n u) .daily =
        s.entryOf (getBundleUsageKey n u) .daily := by
  have hrestored := h.restoreStats told
  have hbegin : ((s.saveAndReload tz t').currentStats .daily).beginTime =
      (s.currentStats .daily).beginTime := (beginTime_saveAndReload tz s t' .daily).trans same.symm
  have hentry : (s.saveAndReload tz t').entryOf (getBundleUsageKey n u) .daily =
      s.entryOf (getBundleUsageKey n u) .daily := by
    have hkeeps : Keeps tz t' false (s.saved t') .daily := by
      refine ⟨rfl, ?_⟩
      rw [currentStats_saved, beginTime_restoreStats, debugUserService_saved]
      exact same
    rw [saveAndReload_eq, entryOf, currentStats_loadActiveStats, if_pos hkeeps, currentStats_saved]
    exact entryOf_restoreStats s true _ .daily
  have hnewest : NewestAt .daily (s.currentStats .daily).beginTime
      (s.saveAndReload tz t').databaseState := by
    have hremoved := NewestAt.removeOldData hrestored.newest t' fun _ => by
      rw [beginTime_restoreStats]
      exact (congrArg (overdueTime · .daily t') (debugDatabase_restoreStats s true)).trans_le due
    rw [beginTime_restoreStats] at hremoved
    have hpackages := samePackages_saveAndReload tz s t'
    exact hremoved.congr (by rw [hpackages.arrays]) fun x => by rw [hpackages.tables]
  refine ⟨⟨?_, ?_, ?_, ?_⟩, hentry⟩
  · unfold PeriodNewest
    rwa [hbegin]
  · rw [hbegin]
    exact h.begins
  · have hrows := hrestored.rows
    obtain ⟨hnodup, hused⟩ := hrows
    rw [beginTime_restoreStats] at hnodup hused
    rw [(restoreStats_user s true).1, entryOf_restoreStats] at hused
    constructor <;> rw [hbegin]
    · rcases rows_saveAndReload tz s t' (s.currentStats .daily).beginTime .daily with heq | heq <;>
        rw [heq]
      · exact List.nodup_nil
      · exact hnodup
    · rw [hentry, userId_saveAndReload]
      rcases rows_saveAndReload tz s t' (s.currentStats .daily).beginTime .daily with heq | heq <;>
        rw [heq]
      · exact fun row hrow => absurd hrow List.not_mem_nil
      · exact hused
  · rw [hentry]
    exact h.sound

/-- A day that is left is started anew. -/
theorem DayKnown.saveAndReload_of_leaves (h : s.DayKnown n u t) (told : s.Told) {t' : ℤ}
    (later : (s.currentStats .daily).beginTime < truncate tz s.debugUserService .daily t')
    (whole : (s.currentStats .daily).beginTime + periodLength s.debugUserService .daily ≤ t') :
    (s.saveAndReload tz t').DayKnown n u t ∧
      (s.saveAndReload tz t').entryOf (getBundleUsageKey n u) .daily = none := by
  have hrestored : NewestAt .daily (s.currentStats .daily).beginTime
      (s.restoreStats true).databaseState := by
    have hrestored := (h.restoreStats told).newest
    unfold PeriodNewest at hrestored
    rwa [beginTime_restoreStats] at hrestored
  have hbegin := beginTime_saveAndReload tz s t' .daily
  have hentry := entryOf_saveAndReload_of_whole tz h.newest told.tidy h.begins later.ne whole
    (getBundleUsageKey n u)
  have hempty : ((s.saveAndReload tz t').files.packageTables .daily).rows
      (truncate tz s.debugUserService .daily t') = [] := by
    rcases rows_saveAndReload tz s t' (truncate tz s.debugUserService .daily t') .daily with
      heq | heq
    · exact heq
    · exact heq.trans (hrestored.rows_later later)
  refine ⟨⟨?_, ?_, ?_, ?_⟩, hentry⟩
  · have hpackages := samePackages_saveAndReload tz s t'
    have hremoved := (hrestored.later later).removeOldData t' fun hcached =>
      absurd (hrestored.cached _ hcached) (not_le.2 later)
    unfold PeriodNewest
    rw [hbegin]
    exact hremoved.congr (by rw [hpackages.arrays]) fun x => by rw [hpackages.tables]
  · rw [hbegin]
    exact h.begins.trans later.le
  · constructor <;> rw [hbegin, hempty]
    · exact List.nodup_nil
    · exact fun row hrow => absurd hrow List.not_mem_nil
  · rw [hentry]
    exact fun e he => nomatch he

theorem DayKnown.renewStatsInMemory_of_keeps (h : s.DayKnown n u t) (told : s.Told)
    (known : s.Holds fun _ e => e.StatesKnown) (agree : s.SessionsAgree) (ht : 0 < t)
    (expired : s.dailyExpiryDate.time ≤ t)
    (same : (s.currentStats .daily).beginTime = truncate tz s.debugUserService .daily t)
    (begun : truncate tz s.debugUserService .daily t ≤ t)
    (due : overdueTime s.database.debugDatabase .daily t ≤ (s.currentStats .daily).beginTime) :
    (s.renewStatsInMemory tz t).DayKnown n u t ∧
      SameFrontTime (s.entryOf (getBundleUsageKey n u) .daily)
        ((s.renewStatsInMemory tz t).entryOf (getBundleUsageKey n u) .daily) := by
  have hflushed := flushed_flushDataInMem told.held.entries
  have hcaptured := statesCaptured_flushDataInMem told.held.entries known
  have hruns := captured_iff told.held.entries agree .daily (getBundleUsageKey n u)
  have hday := h.flushDataInMem told (by omega)
  have hentry := entryOf_flushDataInMem (told.held.entries .daily) (getBundleUsageKey n u)
  have htold : s.flushDataInMem.2.Told := keptByStats_told.flushDataInMem told
  unfold renewStatsInMemory
  generalize s.flushDataInMem = cs at *
  rw [← hflushed.debug] at begun same
  rw [← hflushed.begins] at same due
  rw [← hflushed.database] at due
  obtain ⟨hloaded, hkept⟩ := hday.saveAndReload_of_keeps tz htold same due
  have hstart : RunsOn cs.1 t (getBundleUsageKey n u)
      ((cs.2.saveAndReload tz t).entryOf (getBundleUsageKey n u) .daily)
      (cs.2.saveAndReload tz t) := by
    refine ⟨.refl _, hloaded.sound, id, fun a ha => ?_⟩
    rw [hflushed.begins, hflushed.debug] at same
    exact (runs_saveAndReload tz hflushed t).2 ⟨⟨rfl, same⟩, (hruns _).1 ha⟩
  have hreplayed := (keptByReplay_runsOn cs.1 ht.le begun (getBundleUsageKey n u) _).continueBundles
    hcaptured hstart (beginTime_saveAndReload tz cs.2 t .daily)
  have hreplay := hloaded.memoryOnly (foldl_continueBundle_memoryOnly cs.1 _ _) hreplayed.sound
    hreplayed.used
  refine ⟨hreplay.restoreStats (told_foldl_continueBundle _ _ (htold.saveAndReload tz ht)), ?_⟩
  rw [entryOf_restoreStats]
  refine .trans ?_ hreplayed.same
  rw [hkept, hentry]
  exact sameFrontTime_map_tick rfl ..

/-- A rollover that leaves the day starts the time of the bundle with the new day. -/
theorem DayKnown.renewStatsInMemory_of_leaves (h : s.DayKnown n u t) (told : s.Told)
    (known : s.Holds fun _ e => e.StatesKnown) (ht : 0 < t)
    (expired : s.dailyExpiryDate.time ≤ t)
    (later : (s.currentStats .daily).beginTime < truncate tz s.debugUserService .daily t)
    (begun : truncate tz s.debugUserService .daily t ≤ t)
    (whole : (s.currentStats .daily).beginTime + periodLength s.debugUserService .daily ≤ t) :
    (s.renewStatsInMemory tz t).DayKnown n u t ∧
      StartedAt (truncate tz s.debugUserService .daily t)
        ((s.renewStatsInMemory tz t).entryOf (getBundleUsageKey n u) .daily) := by
  have hflushed := flushed_flushDataInMem told.held.entries
  have hcaptured := statesCaptured_flushDataInMem told.held.entries known
  have hday := h.flushDataInMem told (by omega)
  have htold : s.flushDataInMem.2.Told := keptByStats_told.flushDataInMem told
  unfold renewStatsInMemory
  generalize s.flushDataInMem = cs at *
  rw [← hflushed.debug] at begun later whole ⊢
  rw [← hflushed.begins] at later whole
  obtain ⟨hloaded, hnone⟩ := hday.saveAndReload_of_leaves tz htold later whole
  have hstart : StartedAt (truncate tz cs.2.debugUserService .daily t)
      ((cs.2.saveAndReload tz t).entryOf (getBundleUsageKey n u) .daily) := by
    rw [hnone]
    exact ⟨fun _ => rfl, fun e he => nomatch he⟩
  have hreplayed := (keptByReplay_started cs.1 _ (getBundleUsageKey n u)).continueBundles
    hcaptured hstart (beginTime_saveAndReload tz cs.2 t .daily)
  have hsound : ∀ e, (cs.1.continueBundles.toList.foldl (continueBundle cs.1)
      (cs.2.saveAndReload tz t)).entryOf (getBundleUsageKey n u) .daily = some e → e.Sound t := by
    refine fun e he => (hreplayed.sound e he).mono ?_
    split_ifs
    · exact begun
    · omega
  have hreplay := hloaded.memoryOnly (foldl_continueBundle_memoryOnly cs.1 _ _) hsound
    fun ⟨e, he, _⟩ => by
      rw [hnone] at he
      cases he
  refine ⟨hreplay.restoreStats (told_foldl_continueBundle _ _ (htold.saveAndReload tz ht)), ?_⟩
  rw [entryOf_restoreStats]
  exact hreplayed

/-! ### The saved day -/

theorem dayFrontTime_savedRows (h : s.DayKnown n u t) (told : s.Told)
    (own : ∀ e, s.entryOf (getBundleUsageKey n u) .daily = some e → e.bundleName = n ∧ e.uid = u)
    (expired : s.dailyExpiryDate.time ≤ t)
    (closed : ∀ e, s.entryOf (getBundleUsageKey n u) .daily = some e → e.hasFrontAbility = true →
      e.lastTimeUsed < s.dailyExpiryDate.time) :
    dayFrontTime s.userId n u s.savedRows =
      frontTimeOf (s.entryOf (getBundleUsageKey n u) .daily) (s.dailyExpiryDate.time - 1) := by
  have hflushed := flushed_flushDataInMem told.held.entries
  have hday := h.flushDataInMem told (by omega)
  have htold : s.flushDataInMem.2.Told := keptByStats_told.flushDataInMem told
  have hentry := entryOf_flushDataInMem (told.held.entries .daily) (getBundleUsageKey n u)
  have hrows := dayFrontTime_flushPackageRows hday.rows htold.held fun e he => by
    rw [hentry] at he
    obtain ⟨e₀, he₀, rfl⟩ := Option.map_eq_some_iff.1 he
    have hgrows := e₀.grows_update "" (s.dailyExpiryDate.time - 1) .endOfTheDay ""
    rw [hgrows.bundleName, hgrows.uid]
    exact own e₀ he₀
  rw [← rows_restoreStats_beginTime hday.newest htold.tidy hday.begins, hflushed.userId,
    hflushed.begins, hentry] at hrows
  refine hrows.trans ?_
  cases he : s.entryOf (getBundleUsageKey n u) .daily with
  | none => rfl
  | some e =>
    exact BundleActivePackageStats.totalInFrontTime_update_of_isTick rfl fun hfront => by
      have hlast := closed e he hfront
      omega

theorem getElem?_renewStatsInMemory (told : s.Told) (ht : 0 < t) {x : ℤ} {rows : List PackageLogRow}
    (hx : x ≠ truncate tz s.debugUserService .daily t)
    (hrows : ((s.renewStatsInMemory tz t).files.packageTables .daily)[x]? = some rows) :
    x = (s.currentStats .daily).beginTime ∧ rows = s.savedRows ∨
      x ≠ (s.currentStats .daily).beginTime ∧
        (s.files.packageTables .daily)[x]? = some rows := by
  have hflushed := flushed_flushDataInMem told.held.entries
  have htold : s.flushDataInMem.2.Told := keptByStats_told.flushDataInMem told
  unfold renewStatsInMemory at hrows
  unfold savedRows
  generalize s.flushDataInMem = cs at *
  have hmemory := foldl_continueBundle_memoryOnly cs.1 cs.1.continueBundles.toList
    (cs.2.saveAndReload tz t)
  have hreplayed : (cs.1.continueBundles.toList.foldl (continueBundle cs.1)
      (cs.2.saveAndReload tz t)).Told :=
    told_foldl_continueBundle _ _ (htold.saveAndReload tz ht)
  have hbegin : ((cs.1.continueBundles.toList.foldl (continueBundle cs.1)
      (cs.2.saveAndReload tz t)).currentStats .daily).beginTime =
        truncate tz s.debugUserService .daily t := by
    rw [hmemory.begins, beginTime_saveAndReload, hflushed.debug]
  have hloaded : ((cs.2.saveAndReload tz t).files.packageTables .daily)[x]? = some rows := by
    rcases getElem?_restoreStats_of_ne hreplayed.tidy (hbegin ▸ hx) with hnone | hsame
    · rw [hnone] at hrows
      cases hrows
    · rw [← hmemory.files, ← hsame, hrows]
  have htables : (cs.2.saveAndReload tz t).files.packageTables =
      ((cs.2.restoreStats true).databaseState.removeOldData t).packageTables :=
    (samePackages_saveAndReload tz cs.2 t).tables
  have hsaved : ((cs.2.restoreStats true).files.packageTables .daily)[x]? = some rows := by
    rw [htables] at hloaded
    rcases getElem?_removeOldData (cs.2.restoreStats true).databaseState t .daily x with
      hnone | hsame
    · rw [hnone] at hloaded
      cases hloaded
    · exact hsame.symm.trans hloaded
  by_cases hold : x = (s.currentStats .daily).beginTime
  · subst hold
    refine .inl ⟨rfl, ?_⟩
    rw [Tables.rows, hsaved]
    rfl
  · refine .inr ⟨hold, ?_⟩
    rw [← hflushed.begins] at hold
    rcases getElem?_restoreStats_of_ne htold.tidy hold with hnone | hsame
    · rw [hnone] at hsaved
      cases hsaved
    · rw [← hflushed.files, ← hsame, hsaved]

end ServiceState
end DeviceUsageStats
