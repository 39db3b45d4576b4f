import DeviceUsageStats.Sanity.StoredRows

/-! What a load gives back of what a save wrote. The encoding of a last-used time keeps every time but
the one that it maps to its mark for never; a saved bundle is loaded again if the load takes up the
table of the save, which the clock decides. -/

namespace DeviceUsageStats

namespace DatabaseState

open PackageLogRow (ident userKey)

variable {d : DatabaseState} {p : BundleActivePeriodStats} {i : IntervalType}

/-! ### One table -/

structure SameCounters (e e' : BundleActivePackageStats) : Prop where
  bundleName : e'.bundleName = e.bundleName
  uid : e'.uid = e.uid
  lastTimeUsed : e'.lastTimeUsed = e.lastTimeUsed
  lastContiniousTaskUsed : e'.lastContiniousTaskUsed = e.lastContiniousTaskUsed
  totalInFrontTime : e'.totalInFrontTime = e.totalInFrontTime
  totalContiniousTaskUsedTime : e'.totalContiniousTaskUsedTime = e.totalContiniousTaskUsedTime
  startCount : e'.startCount = e.startCount

theorem sameCounters_loadedStats_iff (p : BundleActivePeriodStats) (e : BundleActivePackageStats) :
    SameCounters e (loadedStats p.beginTime (packageLogRow p e)) ↔
      StampKept p.beginTime e.lastTimeUsed ∧ StampKept p.beginTime e.lastContiniousTaskUsed := by
  constructor
  · intro h
    exact ⟨(decode_encode_iff _ _).1 h.lastTimeUsed, (decode_encode_iff _ _).1 h.lastContiniousTaskUsed⟩
  · rintro ⟨hfront, htask⟩
    exact ⟨rfl, rfl, (decode_encode_iff _ _).2 hfront, (decode_encode_iff _ _).2 htask, rfl, rfl, rfl⟩

/-- A load after the flush into an empty newest table gives back every used bundle and no other
exactly if no used bundle was last used one millisecond before the start of the table. -/
theorem getCurrentUsageData_flushPackageInfo_iff (hp : Keyed p.bundleStats)
    (empty : (d.packageTables i)[p.beginTime]? = some [])
    (newest : (d.sortedTableArray i).getLast? = some p.beginTime) (uids : PackageContainUidMap) :
    (∃ loaded, ((d.flushPackageInfo i p).getCurrentUsageData uids i p.userId).1 = some loaded ∧
      ∀ k : String, Option.Rel SameCounters ((p.bundleStats[k]?).filter (·.Used))
        loaded.bundleStats[k]?) ↔
      ∀ (k : String) e, p.bundleStats[k]? = some e → e.Used →
        StampKept p.beginTime e.lastTimeUsed ∧ StampKept p.beginTime e.lastContiniousTaskUsed := by
  have hrows : ((d.flushPackageInfo i p).packageTables i).rows p.beginTime = flushedValues p := by
    rw [Tables.rows, getElem?_flushPackageInfo, if_pos ⟨rfl, rfl⟩, empty, Option.map_some,
      Option.getD_some, flushPackageRows_eq hp]
    simp [Upsert.upsert, Upsert.fresh]
  have hload : ((d.flushPackageInfo i p).getCurrentUsageData uids i p.userId).1 =
      some { userId := p.userId, beginTime := p.beginTime
             bundleStats := loadedBundleStats p.beginTime
              ((flushedValues p).filter (·.userId = p.userId)) } := by
    have hnewest : ((d.flushPackageInfo i p).sortedTableArray i).getLast? = some p.beginTime :=
      newest
    simp only [getCurrentUsageData, hnewest, hrows]
  have hread : ∀ k : String, (loadedBundleStats p.beginTime
      ((flushedValues p).filter (·.userId = p.userId)))[k]? =
      ((p.bundleStats[k]?).filter (·.Used)).map fun e =>
        loadedStats p.beginTime (packageLogRow p e) := fun k => by
    rw [getElem?_loadedBundleStats_filter, find?_flushedValues_eq hp, Option.map_map]
    rfl
  simp only [hload, Option.some.injEq, exists_eq_left', hread]
  constructor
  · intro h k e hk hused
    have hkey := h k
    rw [hk, Option.filter_some, if_pos (by simpa using hused)] at hkey
    cases hkey with
    | some hsame => exact (sameCounters_loadedStats_iff p e).1 hsame
  · intro h k
    cases hk : (p.bundleStats[k]?).filter (·.Used) with
    | none => exact .none
    | some e =>
      obtain ⟨hk', hused⟩ := Option.filter_eq_some_iff.1 hk
      exact .some ((sameCounters_loadedStats_iff p e).2 (h k e hk' (by simpa using hused)))

/-- A bundle last used one millisecond before the period that it is saved in. -/
def boundaryPeriod : BundleActivePeriodStats :=
  { userId := 100
    beginTime := 1709280000000
    bundleStats := ({} : Std.TreeMap String BundleActivePackageStats).insert
      (getBundleUsageKey "com.example.mail" 20010001)
      { bundleName := "com.example.mail", uid := 20010001
        lastTimeUsed := 1709279999999, totalInFrontTime := 60000 } }

def boundaryDatabase : DatabaseState :=
  { sortedTableArray := fun _ => [1709280000000]
    packageTables := fun _ => ({} : Tables PackageLogRow).insert 1709280000000 [] }

theorem keyed_boundaryPeriod : Keyed boundaryPeriod.bundleStats := by
  unfold boundaryPeriod
  exact Keyed.empty.insert rfl

theorem getCurrentUsageData_flushPackageInfo_boundary :
    (∃ loaded, ((boundaryDatabase.flushPackageInfo .daily boundaryPeriod).getCurrentUsageData {}
        .daily boundaryPeriod.userId).1 = some loaded ∧
      ∀ k : String, Option.Rel SameCounters ((boundaryPeriod.bundleStats[k]?).filter (·.Used))
        loaded.bundleStats[k]?) ↔
      ∀ (k : String) e, boundaryPeriod.bundleStats[k]? = some e → e.Used →
        StampKept boundaryPeriod.beginTime e.lastTimeUsed ∧
          StampKept boundaryPeriod.beginTime e.lastContiniousTaskUsed :=
  getCurrentUsageData_flushPackageInfo_iff keyed_boundaryPeriod (by decide +kernel)
    (by decide +kernel) {}

/-- The bundle comes back as never used. -/
theorem not_loaded_boundary :
    ¬ ∃ loaded, ((boundaryDatabase.flushPackageInfo .daily boundaryPeriod).getCurrentUsageData {}
        .daily boundaryPeriod.userId).1 = some loaded ∧
      ∀ k : String, Option.Rel SameCounters ((boundaryPeriod.bundleStats[k]?).filter (·.Used))
        loaded.bundleStats[k]? := by
  rintro ⟨loaded, hload, hrel⟩
  have hread : ((boundaryDatabase.flushPackageInfo .daily boundaryPeriod).getCurrentUsageData {}
      .daily boundaryPeriod.userId).1.bind (fun loaded =>
        (loaded.bundleStats[getBundleUsageKey "com.example.mail" 20010001]?).map (·.lastTimeUsed)) =
      some (-1) := by decide +kernel
  have hsaved : ((boundaryPeriod.bundleStats[getBundleUsageKey "com.example.mail" 20010001]?).filter
      (·.Used)).map (·.lastTimeUsed) = some 1709279999999 := by decide +kernel
  have hkey := hrel (getBundleUsageKey "com.example.mail" 20010001)
  rw [hload, Option.bind_some] at hread
  generalize (boundaryPeriod.bundleStats[getBundleUsageKey "com.example.mail" 20010001]?).filter
    (·.Used) = saved at hsaved hkey
  generalize loaded.bundleStats[getBundleUsageKey "com.example.mail" 20010001]? = read
    at hread hkey
  cases hkey with
  | none => cases hsaved
  | some hsame =>
    rw [Option.map_some, Option.some.injEq] at hread hsaved
    rw [hsame.lastTimeUsed, hsaved] at hread
    cases hread

/-! ### The tables after a save -/

theorem flushPackageRows_of_isEmpty (hp : p.bundleStats.isEmpty = true) (rows : List PackageLogRow) :
    flushPackageRows p rows = rows := by
  have hnil : p.bundleStats.toList = [] :=
    List.isEmpty_iff.1 (Std.TreeMap.isEmpty_toList.trans hp)
  simp [flushPackageRows, hnil]

theorem rows_updateBundleUsageData (hd : d.ArraysSorted) {x : ℤ}
    (hx : x ∈ (d.updateBundleUsageData i p).sortedTableArray i ∨
      x ∈ (d.updateBundleUsageData i p).packageTables i)
    (saved : x = p.beginTime → x ∈ (d.updateBundleUsageData i p).packageTables i) :
    ((d.updateBundleUsageData i p).packageTables i).rows x =
      if x = p.beginTime then flushPackageRows p ((d.packageTables i).rows x)
      else (d.packageTables i).rows x := by
  rw [updateBundleUsageData_eq hd] at hx saved ⊢
  have hadd : ∀ y : ℤ, (((if p.beginTime ∈ d.sortedTableArray i then d
        else d.addPackageTable i p.beginTime).packageTables i)[y]? = none ∧
        y ∉ (if p.beginTime ∈ d.sortedTableArray i then d
          else d.addPackageTable i p.beginTime).sortedTableArray i) ∨
      ((if p.beginTime ∈ d.sortedTableArray i then d
        else d.addPackageTable i p.beginTime).packageTables i)[y]? = (d.packageTables i)[y]? ∨
      y = p.beginTime ∧ ((if p.beginTime ∈ d.sortedTableArray i then d
        else d.addPackageTable i p.beginTime).packageTables i)[y]? =
          some ((d.packageTables i).rows y) := by
    intro y
    split_ifs with hmem
    · exact .inr (.inl rfl)
    · obtain ⟨harray, htables⟩ := addPackageTable_spec d i p.beginTime
      rw [htables, harray, Function.update_self]
      split_ifs with htake hnew
      · refine .inl ⟨rfl, fun hdrop => ?_⟩
        exact List.disjoint_take_drop ((pairwise_withTable (hd i) hmem).imp ne_of_lt) le_rfl
          htake.2 hdrop
      · exact .inr (.inr ⟨hnew.2.1, rfl⟩)
      · exact .inr (.inl rfl)
  set d' := if p.beginTime ∈ d.sortedTableArray i then d else d.addPackageTable i p.beginTime
  have hget := getElem?_flushPackageInfo d' i i p x
  by_cases hb : x = p.beginTime
  · rw [if_pos hb]
    rw [if_pos ⟨rfl, hb⟩] at hget
    have hsome := saved hb
    rw [Std.TreeMap.mem_iff_isSome_getElem?, hget, Option.isSome_map] at hsome
    rw [Tables.rows, hget]
    obtain ⟨hnone, -⟩ | heq | ⟨-, heq⟩ := hadd x
    · rw [hnone] at hsome
      cases hsome
    · rw [heq] at hsome ⊢
      obtain ⟨rows, hrows⟩ := Option.isSome_iff_exists.1 hsome
      rw [Tables.rows, hrows]
      rfl
    · rw [heq]
      rfl
  · rw [if_neg hb]
    rw [if_neg fun h => hb h.2] at hget
    obtain ⟨hnone, hnot⟩ | heq | ⟨hbegin, -⟩ := hadd x
    · rcases hx with hx | hx
      · exact absurd hx hnot
      · rw [Std.TreeMap.mem_iff_isSome_getElem?, hget, hnone] at hx
        cases hx
    · exact Tables.rows_eq_of_getElem? _ _ (hget.trans heq)
    · exact absurd hbegin hb

/-! ### Saved bundles in a table -/

structure SameUsage (e e' : BundleActivePackageStats) : Prop where
  bundleName : e'.bundleName = e.bundleName
  uid : e'.uid = e.uid
  totalInFrontTime : e'.totalInFrontTime = e.totalInFrontTime
  totalContiniousTaskUsedTime : e'.totalContiniousTaskUsedTime = e.totalContiniousTaskUsedTime

/-- A later period contains every used bundle of an earlier one, with its totals. -/
def KeepsSaved (p loaded : BundleActivePeriodStats) : Prop :=
  ∀ (k : String) e, p.bundleStats[k]? = some e → e.Used →
    ∃ e', loaded.bundleStats[k]? = some e' ∧ SameUsage e e'

/-- The first row of each used bundle's key is its own. -/
def NoKeyClash (p : BundleActivePeriodStats) (rows : List PackageLogRow) : Prop :=
  ∀ (k : String) e, p.bundleStats[k]? = some e → e.Used →
    ∀ row, (rows.find? fun row => userKey row.ident = (p.userId, k)) = some row →
      row.bundleName = e.bundleName ∧ row.uid = e.uid

/-- The first row of each used bundle's key is its own, with the totals of the bundle. -/
def HoldsTotals (p : BundleActivePeriodStats) (rows : List PackageLogRow) : Prop :=
  ∀ (k : String) e, p.bundleStats[k]? = some e → e.Used →
    ∃ row, (rows.find? fun row => userKey row.ident = (p.userId, k)) = some row ∧
      row.bundleName = e.bundleName ∧ row.uid = e.uid ∧ row.totalTime = e.totalInFrontTime ∧
      row.totalTimeContinuousTask = e.totalContiniousTaskUsedTime

theorem keepsSaved_loaded_iff (p : BundleActivePeriodStats) (t : ℤ) (rows : List PackageLogRow)
    {loaded : BundleActivePeriodStats}
    (hl : loaded.bundleStats = loadedBundleStats t (rows.filter (·.userId = p.userId))) :
    KeepsSaved p loaded ↔ HoldsTotals p rows := by
  refine forall_congr' fun k => forall_congr' fun e => forall_congr' fun _ =>
    forall_congr' fun _ => ?_
  rw [hl, getElem?_loadedBundleStats_filter]
  constructor
  · rintro ⟨e', he', hsame⟩
    obtain ⟨row, hrow, rfl⟩ := Option.map_eq_some_iff.1 he'
    exact ⟨row, hrow, hsame.bundleName, hsame.uid, hsame.totalInFrontTime,
      hsame.totalContiniousTaskUsedTime⟩
  · rintro ⟨row, hrow, hname, huid, hfront, htask⟩
    exact ⟨_, Option.map_eq_some_iff.2 ⟨row, hrow, rfl⟩, hname, huid, hfront, htask⟩

/-- A flush writes the totals of every used bundle; a load finds them unless another bundle's row
with the same key stands before. -/
theorem holdsTotals_flushPackageRows_iff (hp : Keyed p.bundleStats) (rows : List PackageLogRow) :
    HoldsTotals p (flushPackageRows p rows) ↔ NoKeyClash p rows := by
  refine forall_congr' fun k => forall_congr' fun e => forall_congr' fun hk =>
    forall_congr' fun hused => ?_
  rw [flushPackageRows_eq hp, Upsert.find?_upsert, find?_flushedValues hp hk hused]
  cases hrow : rows.find? fun row => userKey row.ident = (p.userId, k) with
  | none =>
    simp only [Option.map_none, Option.none_or, Option.some.injEq, reduceCtorEq, false_implies,
      implies_true, iff_true, exists_eq_left']
    exact ⟨rfl, rfl, rfl, rfl⟩
  | some row =>
    have hident : ident (Upsert.replace ident (flushedValues p) row) = ident row :=
      Upsert.ident_replace (flushedValues p) row
    simp only [Option.map_some, Option.some_or, Option.some.injEq, exists_eq_left',
      forall_eq']
    constructor
    · rintro ⟨hname, huid, -⟩
      have hid := Prod.mk.inj (Prod.mk.inj hident).2
      exact ⟨hid.1.symm.trans hname, hid.2.symm.trans huid⟩
    · rintro ⟨hname, huid⟩
      have huser : row.userId = p.userId := by
        have hkey := List.find?_some hrow
        exact (Prod.mk.inj (of_decide_eq_true hkey)).1
      have hsame : row.ident = (packageLogRow p e).ident :=
        Prod.ext huser (Prod.ext hname huid)
      have hvalue : Upsert.replace ident (flushedValues p) row = packageLogRow p e := by
        unfold Upsert.replace
        rw [hsame, Upsert.find?_of_nodup (nodup_ident_flushedValues hp)
          (mem_flushedValues.2 ⟨k, e, hk, hused, rfl⟩)]
        rfl
      rw [hvalue]
      exact ⟨rfl, rfl, rfl, rfl⟩

/-! ### The save after the load -/

/-- A later state of a loaded period. -/
def GrownFrom (loaded p' : BundleActivePeriodStats) : Prop :=
  ∀ (k : String) e, loaded.bundleStats[k]? = some e →
    ∃ e', p'.bundleStats[k]? = some e' ∧ BundleActivePackageStats.Grows e e'

/-- No row of a bundle is below its saved totals. -/
def NotBelow (p : BundleActivePeriodStats) (e : BundleActivePackageStats)
    (rows : List PackageLogRow) : Prop :=
  ∀ row ∈ rows, row.ident = (packageLogRow p e).ident →
    e.totalInFrontTime ≤ row.totalTime ∧
      e.totalContiniousTaskUsedTime ≤ row.totalTimeContinuousTask

/-- If the saved bundles are loaded, the next save puts no smaller total over a saved one. -/
theorem NotBelow.flushPackageRows {loaded p' : BundleActivePeriodStats} {k : String}
    {e : BundleActivePackageStats} {rows : List PackageLogRow} (h : NotBelow p e rows)
    (hkeeps : KeepsSaved p loaded) (hgrown : GrownFrom loaded p') (hp : Keyed p.bundleStats)
    (hp' : Keyed p'.bundleStats) (hk : p.bundleStats[k]? = some e) (hused : e.Used) :
    NotBelow p e (flushPackageRows p' rows) := by
  obtain ⟨e₁, hk₁, hsame⟩ := hkeeps k e hk hused
  obtain ⟨e₂, hk₂, hgrows⟩ := hgrown k e₁ hk₁
  have hvalue : ∀ row ∈ flushedValues p', row.ident = (packageLogRow p e).ident →
      e.totalInFrontTime ≤ row.totalTime ∧
        e.totalContiniousTaskUsedTime ≤ row.totalTimeContinuousTask := by
    intro row hrow hid
    obtain ⟨k', e', hk', -, rfl⟩ := mem_flushedValues.1 hrow
    obtain ⟨-, hnames⟩ := Prod.mk.inj hid
    obtain ⟨hname, huid⟩ := Prod.mk.inj hnames
    -- both entries carry the bundle's name and uid, so they are one entry
    have hkey : k' = k := by
      rw [← hp' k' e' hk', ← hp k e hk]
      exact congrArg₂ getBundleUsageKey hname huid
    subst hkey
    rw [hk₂] at hk'
    cases hk'
    exact ⟨hsame.totalInFrontTime ▸ hgrows.front, hsame.totalContiniousTaskUsedTime ▸ hgrows.task⟩
  rw [flushPackageRows_eq hp']
  intro row hrow hid
  rcases List.mem_append.1 hrow with hold | hnew
  · obtain ⟨row₀, hrow₀, rfl⟩ := List.mem_map.1 hold
    have hident : ident (Upsert.replace ident (flushedValues p') row₀) = ident row₀ :=
      Upsert.ident_replace (flushedValues p') row₀
    have hid₀ := hident.symm.trans hid
    cases hfind : (flushedValues p').find? (ident · = ident row₀) with
    | none =>
      have hkept : Upsert.replace ident (flushedValues p') row₀ = row₀ := by
        rw [Upsert.replace, hfind]
        rfl
      rw [hkept]
      exact h row₀ hrow₀ hid₀
    | some v =>
      have hput : Upsert.replace ident (flushedValues p') row₀ = v := by
        rw [Upsert.replace, hfind]
        rfl
      rw [hput] at hid ⊢
      exact hvalue v (List.mem_of_find?_eq_some hfind) hid
  · exact hvalue row (List.mem_of_mem_filter hnew) hid

end DatabaseState

namespace ServiceState

open DatabaseState

variable (tz : TimeZone) {s : ServiceState} {i : IntervalType} {t : ℤ}

/-! ### Reloads of a service -/

/-- The newest table that the service knows after a save of a period with bundles. -/
def newestCached (s : ServiceState) (i : IntervalType) : Option ℤ :=
  some ((s.database.sortedTableArray i).getLast?.elim (s.currentStats i).beginTime
    (max (s.currentStats i).beginTime))

/-- The newest table that a service started at a time finds: the tables over the cap and those from
the time on are dropped first. -/
def newestOpened (files : DatabaseFiles) (i : IntervalType) (t : ℤ) : Option ℤ :=
  (((files.packageTables i).keys.drop
    ((files.packageTables i).keys.length - maxFilesEveryIntervalType i)).filter (· < t)).getLast?

/-- Nothing is to be kept, or the load takes up the newest table: the clock stands inside one period
length from its start, and the bundles are found in it. -/
def Reloadable (s : ServiceState) (i : IntervalType) (t : ℤ) (newest : Option ℤ) : Prop :=
  (∀ (k : String) e, (s.currentStats i).bundleStats[k]? = some e → ¬ e.Used) ∨
    ∃ n, newest = some n ∧ n < t ∧ t < n + periodLength s.debugUserService i ∧
      if n = (s.currentStats i).beginTime then
        NoKeyClash (s.currentStats i) ((s.files.packageTables i).rows n)
      else HoldsTotals (s.currentStats i) ((s.files.packageTables i).rows n)

theorem keepsSaved_loadedPeriod_iff {p : BundleActivePeriodStats} (hu : p.userId = s.userId)
    (t : ℤ) (i : IntervalType) :
    KeepsSaved p (loadedPeriod tz t s i) ↔
      (∀ (k : String) e, p.bundleStats[k]? = some e → ¬ e.Used) ∨
        ∃ n, (s.database.sortedTableArray i).getLast? = some n ∧ n < t ∧
          t < n + periodLength s.debugUserService i ∧
          HoldsTotals p ((s.files.packageTables i).rows n) := by
  have hnone : ∀ loaded : BundleActivePeriodStats, loaded.bundleStats = {} →
      (KeepsSaved p loaded ↔ ∀ (k : String) e, p.bundleStats[k]? = some e → ¬ e.Used) := by
    intro loaded hl
    refine forall_congr' fun k => forall_congr' fun e => forall_congr' fun _ => ?_
    simp [hl]
  unfold loadedPeriod getCurrentUsageData
  change _ ↔ _ ∨ ∃ n, (s.databaseState.sortedTableArray i).getLast? = some n ∧ _
  cases hlast : (s.databaseState.sortedTableArray i).getLast? with
  | none => simp [hnone]
  | some n =>
    simp only [Option.filter_some]
    by_cases htaken : t > n ∧ t < n + periodLength s.debugUserService i
    · rw [if_pos (by simpa using htaken)]
      simp only [Option.some.injEq, exists_eq_left']
      rw [keepsSaved_loaded_iff p n _ (by rw [hu])]
      constructor
      · exact fun h => .inr ⟨htaken.1, htaken.2, h⟩
      · rintro (h | h)
        · exact fun k e hk hused => absurd hused (h k e hk)
        · exact h.2.2
    · rw [if_neg (by simpa using htaken)]
      simp only [Option.some.injEq, exists_eq_left']
      rw [hnone _ rfl]
      exact ⟨.inl, fun h => h.resolve_right fun h' => htaken ⟨h'.1, h'.2.1⟩⟩

theorem rows_restoreStats (tidy : s.Tidy) {x : ℤ}
    (hx : x ∈ (s.restoreStats true).database.sortedTableArray i ∨
      x ∈ (s.restoreStats true).files.packageTables i)
    (saved : x = (s.currentStats i).beginTime →
      x ∈ (s.restoreStats true).files.packageTables i) :
    ((s.restoreStats true).files.packageTables i).rows x =
      if x = (s.currentStats i).beginTime then
        flushPackageRows (s.currentStats i) ((s.files.packageTables i).rows x)
      else (s.files.packageTables i).rows x := by
  obtain ⟨harray, htables⟩ := restoreStats_packages s i
  have hmem : x ∈ (s.restoreStats true).files.packageTables i ↔
      x ∈ (s.savedPackages i).packageTables i := by
    rw [Std.TreeMap.mem_iff_isSome_getElem?, Std.TreeMap.mem_iff_isSome_getElem?, ← htables]
    rfl
  have hrows : ((s.restoreStats true).files.packageTables i).rows x =
      ((s.savedPackages i).packageTables i).rows x := Tables.rows_eq_of_getElem? _ _ (htables x)
  have hx' : x ∈ (s.savedPackages i).sortedTableArray i ∨
      x ∈ (s.savedPackages i).packageTables i := hx.imp (fun h => harray ▸ h) hmem.1
  have saved' := fun h => hmem.1 (saved h)
  rw [hrows]
  unfold savedPackages at hx' saved' ⊢
  by_cases hempty : (s.currentStats i).bundleStats.isEmpty = true
  · rw [if_pos hempty, flushPackageRows_of_isEmpty hempty, ite_self]
    rfl
  · rw [if_neg hempty] at hx' saved' ⊢
    exact rows_updateBundleUsageData tidy.arrays hx' saved'

theorem getLast?_eq_of_greatest {l : List ℤ} (hl : l.Pairwise (· < ·)) {x : ℤ} (hx : x ∈ l)
    (hmax : ∀ y ∈ l, y ≤ x) : l.getLast? = some x := by
  rcases List.eq_nil_or_concat l with rfl | ⟨ys, a, rfl⟩
  · cases hx
  · rw [List.concat_eq_append] at hl hx hmax ⊢
    rw [List.pairwise_append] at hl
    rw [List.getLast?_concat]
    rcases List.mem_append.1 hx with hys | ha
    · have hlt := hl.2.2 x hys a (List.mem_singleton_self a)
      exact absurd (hmax a (List.mem_append_right _ (List.mem_singleton_self a))) (not_le.2 hlt)
    · rw [List.mem_singleton.1 ha]

theorem le_of_getLast? {l : List ℤ} (hl : l.Pairwise (· < ·)) {x y : ℤ} (hy : l.getLast? = some y)
    (hx : x ∈ l) : x ≤ y := by
  obtain ⟨ys, rfl⟩ := List.getLast?_eq_some_iff.1 hy
  rw [List.pairwise_append] at hl
  rcases List.mem_append.1 hx with hys | ha
  · exact (hl.2.2 x hys y (List.mem_singleton_self y)).le
  · exact (List.mem_singleton.1 ha).le

theorem getLast?_restoreStats (tidy : s.Tidy)
    (bundles : (s.currentStats i).bundleStats.isEmpty = false) :
    ((s.restoreStats true).database.sortedTableArray i).getLast? = s.newestCached i := by
  have hsorted := tidy.arrays i
  set a := s.databaseState.sortedTableArray i with ha
  set b := (s.currentStats i).beginTime with hb
  have hle : ∀ x ∈ a, x ≤ a.getLast?.elim b (max b) := fun x hx => by
    cases hlast : a.getLast? with
    | none =>
      rw [List.getLast?_eq_none_iff.1 hlast] at hx
      cases hx
    | some y => exact (le_of_getLast? hsorted hlast hx).trans (le_max_right b y)
  have hbegin : b ≤ a.getLast?.elim b (max b) := by
    cases a.getLast? with
    | none => exact le_rfl
    | some y => exact le_max_left b y
  have hmem : a.getLast?.elim b (max b) = b ∨ a.getLast?.elim b (max b) ∈ a := by
    cases hlast : a.getLast? with
    | none => exact .inl rfl
    | some y =>
      rcases max_cases b y with ⟨h, -⟩ | ⟨h, -⟩
      · exact .inl h
      · exact .inr (by simpa only [Option.elim_some, h] using List.mem_of_getLast? hlast)
  change ((s.restoreStats true).databaseState.sortedTableArray i).getLast? = some _
  rw [(restoreStats_packages s i).1, savedPackages, if_neg (by simp [bundles]),
    updateBundleUsageData_eq tidy.arrays]
  change ((if b ∈ a then s.databaseState
    else s.databaseState.addPackageTable i b).sortedTableArray i).getLast? = _
  split_ifs with hin
  · exact getLast?_eq_of_greatest hsorted (hmem.elim (fun h => h ▸ hin) id) hle
  · rw [(addPackageTable_spec _ i b).1, Function.update_self, ← ha, List.getLast?_drop, if_neg]
    · refine getLast?_eq_of_greatest (pairwise_withTable hsorted hin)
        (mem_withTable.2 hmem.symm) fun x hx => ?_
      rcases mem_withTable.1 hx with hx | rfl
      · exact hle x hx
      · exact hbegin
    · have hlen : 0 < (withTable a b).length :=
        List.length_pos_of_mem (mem_withTable.2 (.inr rfl))
      have hcap : 0 < maxFilesEveryIntervalType i := by cases i <;> decide
      omega

/-! ### What a reload keeps -/

/-- Whatever tables a reload finds, if it knows the newest and reads what the save left in it. -/
theorem reloadable_iff (owned : s.Owned) {last newest : Option ℤ} {rows : ℤ → List PackageLogRow}
    (hlast : (s.currentStats i).bundleStats.isEmpty = false → last = newest)
    (hrows : ∀ n, last = some n → rows n =
      if n = (s.currentStats i).beginTime then
        flushPackageRows (s.currentStats i) ((s.files.packageTables i).rows n)
      else (s.files.packageTables i).rows n) (t : ℤ) :
    ((∀ (k : String) e, (s.currentStats i).bundleStats[k]? = some e → ¬ e.Used) ∨
      ∃ n, last = some n ∧ n < t ∧ t < n + periodLength s.debugUserService i ∧
        HoldsTotals (s.currentStats i) (rows n)) ↔ s.Reloadable i t newest := by
  cases hempty : (s.currentStats i).bundleStats.isEmpty with
  | true =>
    have hunused : ∀ (k : String) e, (s.currentStats i).bundleStats[k]? = some e → ¬ e.Used := by
      intro k e hk
      rw [Std.TreeMap.getElem?_of_isEmpty hempty] at hk
      cases hk
    exact iff_of_true (.inl hunused) (.inl hunused)
  | false =>
    rw [Reloadable, ← hlast hempty]
    refine or_congr_right <| exists_congr fun n => and_congr_right fun hn => and_congr_right fun _ =>
      and_congr_right fun _ => ?_
    rw [hrows n hn]
    split_ifs
    · exact holdsTotals_flushPackageRows_iff (owned.keyed i) _
    · rfl

theorem keepsSaved_loadActiveStats_iff (tidy : s.Tidy) (owned : s.Owned)
    (saved : (s.currentStats i).beginTime ∈ (s.restoreStats true).files.packageTables i)
    (t : ℤ) (timeChanged : Bool) :
    KeepsSaved (s.currentStats i)
        (((s.restoreStats true).loadActiveStats tz t true timeChanged).currentStats i) ↔
      s.Reloadable i t (s.newestCached i) := by
  obtain ⟨huser, hdebug, -⟩ := restoreStats_user s true
  have hkeeps : ¬ Keeps tz t true (s.restoreStats true) i := fun h => by cases h.1
  rw [currentStats_loadActiveStats, if_neg hkeeps,
    keepsSaved_loadedPeriod_iff tz ((owned.users i).trans huser.symm), hdebug]
  refine reloadable_iff owned (getLast?_restoreStats tidy) (fun n hn => ?_) t
  exact rows_restoreStats tidy (.inl (List.mem_of_getLast? hn)) fun h => h ▸ saved

theorem keepsSaved_init_iff (tidy : s.Tidy) (owned : s.Owned) (t : ℤ) :
    KeepsSaved (s.currentStats i) ((init tz (s.restoreStats true).toProcessState s.userId
        s.debugUserService t).currentStats i) ↔
      s.Reloadable i t (newestOpened (s.restoreStats true).files i t) := by
  set p := (s.restoreStats true).toProcessState with hp
  set s' := openDatabase p s.userId s.debugUserService t with hs'
  obtain ⟨harray, htables⟩ := initDatabaseTableInfo_spec (i := i)
    (d := { debugDatabase := s.debugUserService, toDatabaseFiles := p.files }) rfl t
  change s'.database.sortedTableArray i = _ at harray
  have hbundles : ((init tz p s.userId s.debugUserService t).currentStats i).bundleStats =
      (loadedPeriod tz t s' i).bundleStats := by
    unfold init
    rw [bundleStats_addDailyEvent]
    change ((s'.loadActiveStats tz t true false).currentStats i).bundleStats = _
    rw [currentStats_loadActiveStats, if_neg fun h => by cases h.1]
  have hkeeps : KeepsSaved (s.currentStats i)
        ((init tz p s.userId s.debugUserService t).currentStats i) ↔
      KeepsSaved (s.currentStats i) (loadedPeriod tz t s' i) := by
    unfold KeepsSaved
    rw [hbundles]
  rw [hkeeps, keepsSaved_loadedPeriod_iff tz (s := s') (owned.users i)]
  refine reloadable_iff owned (fun _ => by rw [harray]; rfl) (fun n hn => ?_) t
  have hmem := List.mem_of_getLast? hn
  have hrows : (s'.files.packageTables i).rows n = (p.files.packageTables i).rows n :=
    Tables.rows_eq_of_getElem? _ _ (htables n hmem)
  rw [hrows]
  rw [harray] at hmem
  have htable : n ∈ p.files.packageTables i :=
    Std.TreeMap.mem_keys.1 (List.mem_of_mem_drop (List.mem_of_mem_filter hmem))
  exact rows_restoreStats tidy (.inr htable) fun _ => htable

/-- In every state of a run whose period is saved, a reload gives back every used bundle with its
totals exactly if it is `Reloadable`; and then the next save puts no smaller total over a saved one. -/
theorem reload_keeps_saved {Allowed : ServiceState → ServiceOp → Prop} (run : Run tz Allowed s)
    (saved : (s.currentStats i).beginTime ∈ (s.restoreStats true).files.packageTables i) (t : ℤ) :
    (∀ timeChanged, KeepsSaved (s.currentStats i)
        (((s.restoreStats true).loadActiveStats tz t true timeChanged).currentStats i) ↔
      s.Reloadable i t (s.newestCached i)) ∧
    (KeepsSaved (s.currentStats i) ((init tz (s.restoreStats true).toProcessState s.userId
        s.debugUserService t).currentStats i) ↔
      s.Reloadable i t (newestOpened (s.restoreStats true).files i t)) ∧
    ∀ loaded p', KeepsSaved (s.currentStats i) loaded → GrownFrom loaded p' →
      Keyed p'.bundleStats → ∀ (k : String) e, (s.currentStats i).bundleStats[k]? = some e →
        e.Used → ∀ rows, NotBelow (s.currentStats i) e rows →
          NotBelow (s.currentStats i) e (flushPackageRows p' rows) := by
  have tidy := tidy_run tz run
  have owned := owned_run tz run
  refine ⟨keepsSaved_loadActiveStats_iff tz tidy owned saved t,
    keepsSaved_init_iff tz tidy owned t, ?_⟩
  intro loaded p' hkeeps hgrown hp' k e hk hused rows hrows
  exact hrows.flushPackageRows hkeeps hgrown (owned.keyed i) hp' hk hused

def usedOnLastDay : List ServiceOp :=
  [.reportEvent
      { bundleName := "com.example.mail", abilityId := "1", eventId := .abilityForeground
        timeStamp := 1711879201000, uid := 20010001 },
    .reportEvent
      { bundleName := "com.example.mail", abilityId := "1", eventId := .abilityBackground
        timeStamp := 1711879261000, uid := 20010001 }]

def lastDay : ServiceState :=
  usedOnLastDay.foldl (ServiceState.apply utc) (init utc {} 100 false 1711879200000)

theorem run_lastDay : Run utc (fun _ _ => True) lastDay :=
  (Run.init {} 100 false 1711879200000 (by decide)).foldl utc usedOnLastDay (by decide)

theorem reload_keeps_saved_lastDay :
    KeepsSaved (lastDay.currentStats .daily) (((lastDay.restoreStats true).loadActiveStats utc
        1711882800000 true false).currentStats .daily) ↔
      lastDay.Reloadable .daily 1711882800000 (lastDay.newestCached .daily) :=
  (reload_keeps_saved utc run_lastDay (i := .daily) (by decide +kernel) 1711882800000).1 false

/-- The month is saved, and a reload an hour later in the month starts it anew. -/
theorem not_keepsSaved_lastDay :
    truncate utc false .monthly 1711882800000 = (lastDay.currentStats .monthly).beginTime ∧
      (lastDay.currentStats .monthly).beginTime ∈
        (lastDay.restoreStats true).files.packageTables .monthly ∧
      ¬ KeepsSaved (lastDay.currentStats .monthly) (((lastDay.restoreStats true).loadActiveStats utc
        1711882800000 true false).currentStats .monthly) := by
  refine ⟨by decide +kernel, by decide +kernel, fun h => ?_⟩
  have hused : ∃ e ∈ (lastDay.currentStats .monthly).bundleStats[getBundleUsageKey
      "com.example.mail" 20010001]?, e.Used := by decide +kernel
  have hlost : (((lastDay.restoreStats true).loadActiveStats utc 1711882800000 true
      false).currentStats .monthly).bundleStats[getBundleUsageKey "com.example.mail" 20010001]?.isNone =
      true := by decide +kernel
  obtain ⟨e, hk, he⟩ := hused
  obtain ⟨e', hk', -⟩ := h _ e hk he
  rw [hk'] at hlost
  cases hlost

end ServiceState

end DeviceUsageStats
