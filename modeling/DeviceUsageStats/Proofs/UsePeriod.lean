import DeviceUsageStats.Proofs.TableSelection
import DeviceUsageStats.Sanity.CivilDays
import DeviceUsageStats.Spec.UsePeriod

/-! The periodic-use test counts the entries of the last week that are in the range of the configuration,
and so the days of use as long as no day has two of them. -/

namespace DeviceUsageStats

variable {tz : TimeZone}

/-- An entry has a use in its own day, before the clock. -/
def UsedOnDay (tz : TimeZone) (now day : ℤ) (e : BundleActivePackageStats) : Prop :=
  (e.totalInFrontTime ≠ 0 ∨ e.totalContiniousTaskUsedTime ≠ 0) ∧
    getIntervalTypeStartTime tz e.lastTimeUsed .daily = day ∧ day < e.lastTimeUsed ∧
    e.lastTimeUsed ≤ now

/-- The tables and the current period are local days, and every entry was used in its own. -/
structure WellDated (tz : TimeZone) (s : ServiceState) (now : ℤ) : Prop where
  sorted : (s.database.sortedTableArray .daily).Pairwise (· < ·)
  tables : ∀ t ∈ s.database.sortedTableArray .daily, getIntervalTypeStartTime tz t .daily = t
  rows : ∀ t ∈ s.database.sortedTableArray .daily,
    ∀ row ∈ (s.files.packageTables .daily).rows t,
      UsedOnDay tz now t (DatabaseState.loadedStats t row)
  begins : getIntervalTypeStartTime tz (s.currentStats .daily).beginTime .daily =
    (s.currentStats .daily).beginTime
  memory : ∀ (key : String) e, (s.currentStats .daily).bundleStats[key]? = some e →
    UsedOnDay tz now (s.currentStats .daily).beginTime e ∧
      e.lastTimeUsed ≤ (s.currentStats .daily).endTime
  ends : 0 < (s.currentStats .daily).endTime
  period : (s.currentStats .daily).beginTime ≤ (s.currentStats .daily).endTime

/-! ### Days -/

namespace TimeZone.DayStarts

variable (hd : tz.DayStarts) {t t' : ℤ}
include hd

theorem mono (ht : 0 < t) (h : t ≤ t') :
    getIntervalTypeStartTime tz t .daily ≤ getIntervalTypeStartTime tz t' .daily := by
  by_cases hday : getIntervalTypeStartTime tz t' .daily ≤ t
  · exact (hd.same t t' ht h hday).le
  · exact (hd.le t ht).trans (by omega)

theorem start_le_iff (ht : 0 < t) (ht' : 0 < t') :
    getIntervalTypeStartTime tz t' .daily ≤ t ↔
      getIntervalTypeStartTime tz t' .daily ≤ getIntervalTypeStartTime tz t .daily := by
  refine ⟨fun h => ?_, fun h => h.trans (hd.le t ht)⟩
  by_cases hle : t ≤ t'
  · exact (hd.same t t' ht hle h).ge
  · exact hd.mono ht' (by omega)

omit hd in
theorem start_of_nonpos (ht : t ≤ 0) : getIntervalTypeStartTime tz t .daily = 0 := if_pos ht

omit hd in
theorem start_nonneg (ht : getIntervalTypeStartTime tz t .daily = t) : 0 ≤ t := by
  by_contra hneg
  rw [start_of_nonpos (by omega)] at ht
  omega

theorem lt_of_day_lt {day day' : ℤ} (hday : getIntervalTypeStartTime tz day .daily = day)
    (hday' : getIntervalTypeStartTime tz day' .daily = day') (h : day < day')
    (ht : getIntervalTypeStartTime tz t .daily = day) : t < day' := by
  have hpos : 0 < day' := (start_nonneg hday).trans_lt h
  by_contra hle
  have hmono := hd.mono hpos (not_lt.1 hle)
  omega

end TimeZone.DayStarts

namespace UsedOnDay

variable {now day : ℤ} {e : BundleActivePackageStats}

theorem pos (he : UsedOnDay tz now day e) (hday : getIntervalTypeStartTime tz day .daily = day) :
    0 < e.lastTimeUsed :=
  (TimeZone.DayStarts.start_nonneg hday).trans_lt he.2.2.1

/-- An entry was used from the day of a time on exactly if its day is that or a later one. -/
theorem le_used_iff (he : UsedOnDay tz now day e) (hd : tz.DayStarts)
    (hday : getIntervalTypeStartTime tz day .daily = day) {t : ℤ} (ht : 0 < t) :
    getIntervalTypeStartTime tz t .daily ≤ e.lastTimeUsed ↔
      getIntervalTypeStartTime tz t .daily ≤ day := by
  rw [hd.start_le_iff (he.pos hday) ht, he.2.1]

theorem day_le_today (he : UsedOnDay tz now day e) (hd : tz.DayStarts)
    (hday : getIntervalTypeStartTime tz day .daily = day) :
    day ≤ getIntervalTypeStartTime tz now .daily := by
  rw [← he.2.1]
  exact hd.mono (he.pos hday) he.2.2.2

theorem lastTimeUsed_loadedStats {t : ℤ} {row : PackageLogRow}
    (he : UsedOnDay tz now t (DatabaseState.loadedStats t row))
    (hday : getIntervalTypeStartTime tz t .daily = t) :
    row.lastTime ≠ -1 ∧ (DatabaseState.loadedStats t row).lastTimeUsed = row.lastTime + t := by
  have hpos := he.pos hday
  unfold DatabaseState.loadedStats at hpos ⊢
  simp only at hpos ⊢
  split_ifs at hpos ⊢ with hnever
  · omega
  · exact ⟨hnever, rfl⟩

end UsedOnDay

theorem flatMap_filter_of_nil {α β : Type} {l : List α} {p q : α → Bool} {g : α → List β}
    (hpq : ∀ x ∈ l, p x = true → q x = true)
    (hnil : ∀ x ∈ l, q x = true → p x = false → g x = []) :
    (l.filter p).flatMap g = (l.filter q).flatMap g := by
  induction l with
  | nil => rfl
  | cons x l ih =>
    have hrest := ih (fun y hy => hpq y (List.mem_cons_of_mem _ hy))
      fun y hy => hnil y (List.mem_cons_of_mem _ hy)
    have hx := hpq x (List.mem_cons_self ..)
    have hxnil := hnil x (List.mem_cons_self ..)
    cases hp : p x with
    | true => simp [hp, hx hp, hrest]
    | false =>
      cases hq : q x with
      | true => simp [hp, hq, hrest, hxnil hq hp]
      | false => simp [hp, hq, hrest]

namespace WellDated

variable {s : ServiceState} {now : ℤ} (hs : WellDated tz s now) (hd : tz.DayStarts)
include hs hd

theorem rowsInPeriod : DatabaseState.RowsInPeriod s.databaseState .daily := by
  intro t ht row hrow
  have hday := hs.tables t ht
  have hused := hs.rows t ht row hrow
  obtain ⟨-, hlast⟩ := hused.lastTimeUsed_loadedStats hday
  have hafter := hused.2.2.1
  refine .inr ⟨by omega, fun t' ht' hlt => ?_⟩
  have hbefore := hd.lt_of_day_lt hday (hs.tables t' ht') hlt hused.2.1
  omega

omit hd in
theorem noNeverUsed (b e userId : ℤ) (bundleName : String) :
    DatabaseState.NoNeverUsed s.databaseState .daily b e userId bundleName :=
  fun t ht _ _ _ row hrow _ _ =>
    ((hs.rows t ht row hrow).lastTimeUsed_loadedStats (hs.tables t ht)).1

theorem countP_selectedTable {a t : ℤ} (ha : 0 < a) (config : AppUsePeriodicallyConfig)
    (userId : ℤ) {bundleName : String} (hname : bundleName ≠ "")
    (ht : t ∈ s.database.sortedTableArray .daily) (hlt : t < (s.currentStats .daily).beginTime) :
    (s.databaseState.selectedTable .daily (getIntervalTypeStartTime tz a .daily)
        (min (s.currentStats .daily).beginTime now) userId bundleName t).countP
          (fun item => item.startCount ≥ config.minUseTimes ∧ item.startCount ≤ config.maxUseTimes) =
      ((((s.files.packageTables .daily).rows t).filter fun row =>
        row.userId = userId ∧ row.bundleName = bundleName).map fun row =>
          (t, DatabaseState.loadedStats t row)).countP
            (fun entry => getIntervalTypeStartTime tz a .daily ≤ entry.1 ∧
              entry.1 ≤ getIntervalTypeStartTime tz now .daily ∧
              config.minUseTimes ≤ entry.2.startCount ∧
              entry.2.startCount ≤ config.maxUseTimes) := by
  rw [DatabaseState.selectedTable, List.countP_map, List.countP_filter, List.countP_map,
    List.countP_filter]
  refine List.countP_congr fun row hrow => ?_
  have hday := hs.tables t ht
  have hused := hs.rows t ht row hrow
  obtain ⟨hnever, hlast⟩ := hused.lastTimeUsed_loadedStats hday
  have hfrom := hused.le_used_iff hd hday ha
  have htoday := hused.day_le_today hd hday
  have hbefore := hd.lt_of_day_lt hday hs.begins hlt hused.2.1
  have hnow := hused.2.2.2
  rw [hlast] at hfrom hbefore hnow
  simp only [Bool.and_eq_true, Function.comp_apply, decide_eq_true_eq, DatabaseState.selectedRow]
  refine ⟨?_, ?_⟩
  · rintro ⟨hcount, huser, hbundle, -, hb, -⟩
    exact ⟨⟨hfrom.1 hb, htoday, hcount⟩, huser, hbundle hname⟩
  · rintro ⟨⟨hb, -, hcount⟩, huser, hbundle⟩
    exact ⟨hcount, huser, fun _ => hbundle, hnever, hfrom.2 hb, le_min hbefore.le hnow⟩

/-- The tables before the current day give the query their entries of the days from one on. -/
theorem countP_queryDatabaseUsageStats {a : ℤ} (ha : 0 < a) (han : a < now)
    (config : AppUsePeriodicallyConfig) (userId : ℤ) {bundleName : String} (hname : bundleName ≠ "") :
    (s.databaseState.queryDatabaseUsageStats .daily (getIntervalTypeStartTime tz a .daily)
        (min (s.currentStats .daily).beginTime now) userId bundleName).countP
          (fun item => item.startCount ≥ config.minUseTimes ∧ item.startCount ≤ config.maxUseTimes) =
      (((s.database.sortedTableArray .daily).filter (· < (s.currentStats .daily).beginTime)).flatMap
        (fun t => (((s.files.packageTables .daily).rows t).filter fun row =>
          row.userId = userId ∧ row.bundleName = bundleName).map fun row =>
            (t, DatabaseState.loadedStats t row))).countP
          (fun entry => getIntervalTypeStartTime tz a .daily ≤ entry.1 ∧
            entry.1 ≤ getIntervalTypeStartTime tz now .daily ∧
            config.minUseTimes ≤ entry.2.startCount ∧ entry.2.startCount ≤ config.maxUseTimes) := by
  set b := getIntervalTypeStartTime tz a .daily with hb
  set beginTime := (s.currentStats .daily).beginTime
  have hba : b ≤ a := hd.le a ha
  by_cases hbe : b < min beginTime now
  · rw [((DatabaseState.queryDatabaseUsageStats_perm_iff hs.sorted (hs.rowsInPeriod hd) hbe userId
      bundleName).2 (hs.noNeverUsed b _ userId bundleName)).countP_eq]
    unfold DatabaseState.selectedStats
    rw [flatMap_filter_of_nil (p := (· < min beginTime now)) (q := (· < beginTime))
      (g := s.databaseState.selectedTable .daily b (min beginTime now) userId bundleName)]
    · rw [List.countP_flatMap, List.countP_flatMap]
      congr 1
      refine List.map_congr_left fun t ht => ?_
      obtain ⟨ht, hlt⟩ := List.mem_filter.1 ht
      exact hs.countP_selectedTable hd ha config userId hname ht (of_decide_eq_true hlt)
    · intro t ht hlt
      simp only [decide_eq_true_eq] at hlt ⊢
      omega
    · intro t ht hlt hge
      simp only [decide_eq_true_eq, decide_eq_false_iff_not] at hlt hge
      rw [DatabaseState.selectedTable, List.map_eq_nil_iff, List.filter_eq_nil_iff]
      intro row hrow _
      obtain ⟨-, -, hafter, hnow⟩ := hs.rows t ht row hrow
      omega
  · -- the range is empty, and so are the days from its begin to the current one
    have hbegin : beginTime ≤ b := by omega
    have hnone : s.databaseState.queryDatabaseUsageStats .daily b (min beginTime now) userId
        bundleName = [] := by
      unfold DatabaseState.queryDatabaseUsageStats DatabaseState.getDbIndex
      rw [if_pos (not_lt.1 hbe)]
    rw [hnone, List.countP_nil, eq_comm, List.countP_eq_zero]
    intro entry hentry
    obtain ⟨t, ht, hentry⟩ := List.mem_flatMap.1 hentry
    obtain ⟨row, -, rfl⟩ := List.mem_map.1 hentry
    have hlt := of_decide_eq_true (List.mem_filter.1 ht).2
    simp only [decide_eq_true_eq]
    omega

/-- The entries in memory give the query their day, unless it is before the first. -/
theorem countP_memoryStats {a : ℤ} (ha : 0 < a) (config : AppUsePeriodicallyConfig) (userId : ℤ)
    {bundleName : String} (hname : bundleName ≠ "") :
    (ServiceState.memoryStats (s.currentStats .daily) (getIntervalTypeStartTime tz a .daily) now
        userId bundleName).countP
          (fun item => item.startCount ≥ config.minUseTimes ∧ item.startCount ≤ config.maxUseTimes) =
      ((((s.currentStats .daily).bundleStats.toList.map Prod.snd).filter fun usageStats =>
        usageStats.bundleName = bundleName).map fun usageStats =>
          ((s.currentStats .daily).beginTime, usageStats)).countP
            (fun entry => getIntervalTypeStartTime tz a .daily ≤ entry.1 ∧
              entry.1 ≤ getIntervalTypeStartTime tz now .daily ∧
              config.minUseTimes ≤ entry.2.startCount ∧
              entry.2.startCount ≤ config.maxUseTimes) := by
  rw [ServiceState.memoryStats, List.countP_filter, List.countP_map, List.countP_map,
    List.countP_filter, List.countP_map]
  refine List.countP_congr fun entry hentry => ?_
  have hused := (hs.memory entry.1 entry.2
    (Std.TreeMap.mem_toList_iff_getElem?_eq_some.1 hentry)).1
  have hfrom := hused.le_used_iff hd hs.begins ha
  have htoday := hused.day_le_today hd hs.begins
  simp only [Bool.and_eq_true, Function.comp_apply, decide_eq_true_eq, ServiceState.isTimeLegal]
  refine ⟨?_, ?_⟩
  · rintro ⟨hcount, hbundle, -, hb, -⟩
    exact ⟨⟨hfrom.1 hb, htoday, hcount⟩, hbundle.resolve_left hname⟩
  · rintro ⟨⟨hb, -, hcount⟩, hbundle⟩
    exact ⟨hcount, .inr hbundle, hused.1, hfrom.2 hb, hused.2.2.2⟩

omit hd in
theorem memory_day_lt {key : String} {e : BundleActivePackageStats}
    (he : (s.currentStats .daily).bundleStats[key]? = some e) :
    (s.currentStats .daily).beginTime < now ∧
      (s.currentStats .daily).beginTime < (s.currentStats .daily).endTime := by
  obtain ⟨⟨-, -, hafter, hnow⟩, hend⟩ := hs.memory key e he
  exact ⟨hafter.trans_le hnow, hafter.trans_le hend⟩

/-- What a query of the daily statistics puts out has as many entries in the range of the configuration
as there are counted days, one for each entry. -/
theorem countP_queryBundleStatsInfos {a : ℤ} (ha : 0 < a) (han : a < now)
    (config : AppUsePeriodicallyConfig) (userId : ℤ) {bundleName : String} (hname : bundleName ≠ "") :
    (BundleActiveCore.putOut (s.queryBundleStatsInfos BundleActiveCore.periodDaily
        (getIntervalTypeStartTime tz a .daily) now userId bundleName).1).countP
          (fun item => item.startCount ≥ config.minUseTimes ∧ item.startCount ≤ config.maxUseTimes) =
      (s.countedDays config (getIntervalTypeStartTime tz a .daily)
        (getIntervalTypeStartTime tz now .daily) userId bundleName).length := by
  have htables := hs.countP_queryDatabaseUsageStats hd ha han config userId hname
  have hmemory := hs.countP_memoryStats hd ha config userId hname
  have hinterval : s.queriedInterval BundleActiveCore.periodDaily
      (getIntervalTypeStartTime tz a .daily) = some .daily := rfl
  rw [ServiceState.countedDays, List.length_map, ← List.countP_eq_length_filter,
    ServiceState.dailyEntries, List.countP_append, ← htables]
  set b := getIntervalTypeStartTime tz a .daily
  unfold ServiceState.queryBundleStatsInfos
  simp only [hinterval, if_neg hs.ends.ne']
  split_ifs with hlate hnow
  · -- the period ended by the start of the range, and with it all tables and entries
    have hperiod := hs.period
    have hnone : s.databaseState.queryDatabaseUsageStats .daily b
        (min (s.currentStats .daily).beginTime now) userId bundleName = [] := by
      unfold DatabaseState.queryDatabaseUsageStats DatabaseState.getDbIndex
      rw [if_pos (by omega)]
    rw [BundleActiveCore.putOut, hnone, List.countP_nil, Nat.zero_add, eq_comm,
      List.countP_eq_zero]
    intro entry hentry
    obtain ⟨e, he, rfl⟩ := List.mem_map.1 hentry
    obtain ⟨x, hx, -⟩ := List.mem_map.1 (List.mem_filter.1 he).1
    have hbefore := (hs.memory_day_lt (Std.TreeMap.mem_toList_iff_getElem?_eq_some.1 hx)).2
    simp only [decide_eq_true_eq]
    omega
  · rw [← hmemory]
    exact List.countP_append
  · -- the period begins at the moment of the query or later
    have hnil : (s.currentStats .daily).bundleStats.toList = [] := by
      rw [List.eq_nil_iff_forall_not_mem]
      intro x hx
      exact hnow (hs.memory_day_lt (Std.TreeMap.mem_toList_iff_getElem?_eq_some.1 hx)).1
    rw [hnil]
    rfl

end WellDated

/-! ### The count -/

theorem length_eq_card_iff_nodup (l : List ℤ) : l.length = l.toFinset.card ↔ l.Nodup := by
  refine ⟨fun h => ?_, fun h => (List.toFinset_card_of_nodup h).symm⟩
  rw [List.card_toFinset] at h
  exact List.dedup_eq_self.1 ((List.dedup_sublist l).eq_of_length h.symm)

namespace BundleActiveCore

variable {core : BundleActiveCore} {service : BundleActiveUserService} {userId : ℤ} {clock : Clock}

/-- The test answers by the number of days of use, whatever the least number of days is. -/
def CountsDays (tz : TimeZone) (core : BundleActiveCore) (history : HistoryState)
    (s : ServiceState) (minUseTimes maxUseTimes : ℤ) (bundleName : String) (userId : ℤ)
    (clock : Clock) : Prop :=
  ∀ minUseDays, let config : AppUsePeriodicallyConfig :=
      { minUseTimes := minUseTimes, maxUseTimes := maxUseTimes, minUseDays := minUseDays }
    (core.isBundleUsePeriod tz history config true bundleName userId clock).1 = true ↔
      minUseDays ≤ (s.countedDays config
        (getIntervalTypeStartTime tz (clock.systemTime - oneWeekTime) .daily)
        (getIntervalTypeStartTime tz clock.systemTime .daily) userId bundleName).toFinset.card

/-- No two entries in the range of the counts are of the same day of the last week. -/
def OneEntryADay (tz : TimeZone) (s : ServiceState) (minUseTimes maxUseTimes : ℤ)
    (bundleName : String) (userId : ℤ) (clock : Clock) : Prop :=
  (s.countedDays { minUseTimes := minUseTimes, maxUseTimes := maxUseTimes, minUseDays := 0 }
    (getIntervalTypeStartTime tz (clock.systemTime - oneWeekTime) .daily)
    (getIntervalTypeStartTime tz clock.systemTime .daily) userId bundleName).Nodup

theorem checkTimeChange_time (core : BundleActiveCore) (userId : ℤ) {clock : Clock}
    (hsystem : clock.systemTime ≠ -1) (hreal : clock.realTime ≠ -1) :
    (core.checkTimeChangeAndGetWallTime tz userId clock).1 = clock.systemTime := by
  unfold checkTimeChangeAndGetWallTime
  simp only [hsystem, hreal, or_self, if_false]
  split_ifs <;> rfl

theorem queryBundleStatsInfos_fst (hweek : oneWeekTime < clock.systemTime)
    (hreal : clock.realTime ≠ -1)
    (hservice : (core.prepareService tz userId clock).userStatServices[userId]? = some service)
    {b : ℤ} (hb : b < clock.systemTime) (intervalType : ℤ) (bundleName : String) :
    (core.queryBundleStatsInfos tz userId intervalType b clock.systemTime bundleName clock).1 =
      putOut (((core.prepareService tz userId clock).serviceState service).queryBundleStatsInfos
        intervalType b clock.systemTime userId bundleName).1 := by
  have hread : clock.systemTime ≠ -1 ∧ clock.systemTime ≠ errTimeOperationFailed := by
    unfold oneWeekTime oneDayTime at hweek
    unfold errTimeOperationFailed
    omega
  have htime := @checkTimeChange_time tz core userId clock hread.1 hreal
  unfold prepareService at hservice ⊢
  unfold queryBundleStatsInfos
  simp only [htime, if_neg hread.2] at hservice ⊢
  rw [if_neg (by omega), hservice]

/-- For a bundle that is not used over one week, the test counts days for every least number of days
exactly if no day has two entries in the range. -/
theorem countsDays_iff (hd : tz.DayStarts) {bundleName : String} (hname : bundleName ≠ "")
    (hweek : oneWeekTime < clock.systemTime) (hreal : clock.realTime ≠ -1)
    (hservice : (core.prepareService tz userId clock).userStatServices[userId]? = some service)
    (hdated : WellDated tz ((core.prepareService tz userId clock).serviceState service)
      clock.systemTime) {history : HistoryState}
    (hover : history.isUsedOverOneWeek bundleName userId clock.systemTime = false)
    (minUseTimes maxUseTimes : ℤ) :
    CountsDays tz core history ((core.prepareService tz userId clock).serviceState service)
        minUseTimes maxUseTimes bundleName userId clock ↔
      OneEntryADay tz ((core.prepareService tz userId clock).serviceState service)
        minUseTimes maxUseTimes bundleName userId clock := by
  have hpos : 0 < clock.systemTime - oneWeekTime := by omega
  have hlt : clock.systemTime - oneWeekTime < clock.systemTime := by
    unfold oneWeekTime oneDayTime
    omega
  have hquery := queryBundleStatsInfos_fst hweek hreal hservice
    (b := getIntervalTypeStartTime tz (clock.systemTime - oneWeekTime) .daily)
    ((hd.le _ hpos).trans_lt hlt) periodDaily bundleName
  -- the test compares the number of entries
  have htest : ∀ minUseDays, (core.isBundleUsePeriod tz history
      { minUseTimes := minUseTimes, maxUseTimes := maxUseTimes, minUseDays := minUseDays } true
        bundleName userId clock).1 = true ↔
      minUseDays ≤ (((core.prepareService tz userId clock).serviceState service).countedDays
        { minUseTimes := minUseTimes, maxUseTimes := maxUseTimes, minUseDays := minUseDays }
        (getIntervalTypeStartTime tz (clock.systemTime - oneWeekTime) .daily)
        (getIntervalTypeStartTime tz clock.systemTime .daily) userId bundleName).length := by
    intro minUseDays
    unfold isBundleUsePeriod
    simp only [Bool.true_eq_false, if_false, hover, Bool.false_eq_true, decide_eq_true_eq]
    rw [hquery]
    exact iff_of_eq (congrArg (fun n : ℕ => minUseDays ≤ (n : ℤ))
      (hdated.countP_queryBundleStatsInfos hd hpos hlt
        { minUseTimes := minUseTimes, maxUseTimes := maxUseTimes, minUseDays := minUseDays } userId
          hname))
  unfold OneEntryADay
  rw [← length_eq_card_iff_nodup]
  refine ⟨fun h => ?_, fun h minUseDays => ?_⟩
  · -- ask for as many days as there are entries
    refine le_antisymm ?_ (List.toFinset_card_le _)
    exact Int.ofNat_le.1 ((h _).1 ((htest _).2 le_rfl))
  · refine (htest minUseDays).trans ?_
    exact iff_of_eq (congrArg (fun n : ℕ => minUseDays ≤ (n : ℤ)) h)

def useOps (bundleName : String) (uid boot : ℤ) : List CoreOp :=
  [.report { bundleName := bundleName, abilityId := "1", eventId := .abilityForeground
             timeStamp := boot, uid := uid } 100 false
      { systemTime := 1709280000000 + boot, realTime := boot },
    .report { bundleName := bundleName, abilityId := "1", eventId := .abilityBackground
              timeStamp := boot + 1000, uid := uid } 100 false
      { systemTime := 1709280001000 + boot, realTime := boot + 1000 }]

/-- The mail bundle and its clone on one day, with another bundle in between. -/
def mailAndClone : BundleActiveCore :=
  (useOps "com.example.mail" 20010001 2000 ++ useOps "com.example.maps" 20010003 4000 ++
    useOps "com.example.mail" 20010002 6000).foldl (apply utc)
      (init { systemTime := 1709280000000, realTime := 0 } {} false)

def eveningClock : Clock := { systemTime := 1709283600000, realTime := 3600000 }

def mailService : BundleActiveUserService :=
  ((mailAndClone.prepareService utc 100 eveningClock).userStatServices[(100 : ℤ)]?).getD
    { userId := 100 }

theorem getElem?_mailService :
    (mailAndClone.prepareService utc 100 eveningClock).userStatServices[(100 : ℤ)]? =
      some mailService := by
  have hsome : ((mailAndClone.prepareService utc 100 eveningClock).userStatServices[
      (100 : ℤ)]?).isSome := by decide +kernel
  obtain ⟨service, hservice⟩ := Option.isSome_iff_exists.1 hsome
  rw [mailService, hservice]
  rfl

def mailState : ServiceState :=
  (mailAndClone.prepareService utc 100 eveningClock).serviceState mailService

theorem wellDated_mailState : WellDated utc mailState eveningClock.systemTime := by
  have htables : mailState.database.sortedTableArray .daily = [] := by decide +kernel
  have hmemory : ∀ x ∈ (mailState.currentStats .daily).bundleStats.toList,
      UsedOnDay utc eveningClock.systemTime (mailState.currentStats .daily).beginTime x.2 ∧
        x.2.lastTimeUsed ≤ (mailState.currentStats .daily).endTime := by
    unfold UsedOnDay
    decide +kernel
  have hnone : ∀ t, t ∉ mailState.database.sortedTableArray .daily := by
    rw [htables]
    exact fun t => List.not_mem_nil
  refine ⟨?_, fun t ht => absurd ht (hnone t), fun t ht => absurd ht (hnone t), by decide +kernel,
    fun key e he => ?_, by decide +kernel, by decide +kernel⟩
  · rw [htables]
    exact .nil
  · exact hmemory (key, e) (Std.TreeMap.mem_toList_iff_getElem?_eq_some.2 he)

def reported (history : HistoryState) (boot : ℤ) (uses : List (String × ℤ × ℤ)) : HistoryState :=
  uses.foldl (fun history use => (BundleActiveGroupController.init false).reportEvent history
    { bundleName := use.1, abilityId := "1", eventId := .abilityForeground, uid := use.2.1
      timeStamp := use.2.2 } boot 100 true) history

/-- The two bundles were used two weeks ago; after a restart come the uses of the day. -/
def mailHistory : HistoryState :=
  reported ((reported (.new {} 0) 5000 [("com.example.mail", 20010001, 1708000000000),
    ("com.example.maps", 20010003, 1708000001000)]).apply (.init false) (.restart [100] 0)) 2000
      [("com.example.mail", 20010001, 1709280002000), ("com.example.maps", 20010003, 1709280004000),
        ("com.example.mail", 20010002, 1709280006000)]

theorem countsDays_maps :
    CountsDays utc mailAndClone mailHistory mailState 1 20 "com.example.maps" 100 eveningClock ↔
      OneEntryADay utc mailState 1 20 "com.example.maps" 100 eveningClock :=
  countsDays_iff dayStarts_utc (by decide) (by decide) (by decide) getElem?_mailService
    wellDated_mailState (by decide +kernel) 1 20

/-- Two uids of a bundle on one day pass for two days. -/
theorem clone_counts_twice :
    WellDated utc mailState eveningClock.systemTime ∧
      (mailAndClone.prepareService utc 100 eveningClock).userStatServices[(100 : ℤ)]? =
        some mailService ∧
      mailHistory.getFirstUseTime "com.example.mail" 100 = 1708000000000 ∧
      mailHistory.isUsedOverOneWeek "com.example.mail" 100 eveningClock.systemTime = false ∧
      ¬ CountsDays utc mailAndClone mailHistory mailState 1 20 "com.example.mail" 100
        eveningClock := by
  refine ⟨wellDated_mailState, getElem?_mailService, by decide +kernel, by decide +kernel, fun h => ?_⟩
  have htest := (h 2).1 (by decide +kernel)
  revert htest
  decide +kernel

end BundleActiveCore

end DeviceUsageStats
