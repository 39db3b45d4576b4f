import DeviceUsageStats.Proofs.DailyTables

/-! The daily time in front of a bundle over runs of reports. What the saved days and the daily entry
hold is the measure of the time that the bundle's events have it in front, but for the last millisecond
of every day that is left, as long as every rollover that leaves a day abuts the next one. -/

namespace DeviceUsageStats

open BundleActivePackageStats (lastAbilityEvent SomeAbilityInFront lastAbilityEvent_snoc
  not_someAbilityInFront_nil)

/-! ### The time line of a bundle -/

def bundleCalls (n : String) (u : ℤ) (events : List BundleActiveEvent) : List UpdateCall :=
  (events.filter fun e => e.bundleName = n ∧ e.uid = u).map fun e =>
    { longTimeTaskName := e.continuousTaskAbilityName, timeStamp := e.timeStamp
      eventId := e.eventId, abilityId := e.abilityId }

/-- The last event of some ability of the bundle took it to the foreground. -/
def InFront (n : String) (u : ℤ) (events : List BundleActiveEvent) : Prop :=
  SomeAbilityInFront (bundleCalls n u events)

/-- How long some ability of the bundle was in front up to an instant. -/
noncomputable def foregroundLength (n : String) (u : ℤ) (events : List BundleActiveEvent) (t : ℤ) : ℝ :=
  Timeline.activeLength BundleActiveEvent.timeStamp (InFront n u) events t

variable {n : String} {u : ℤ} {events : List BundleActiveEvent} {event : BundleActiveEvent}

theorem not_inFront_nil : ¬ InFront n u [] := not_someAbilityInFront_nil

theorem lastAbilityEvent_bundleCalls_snoc (a : String) :
    lastAbilityEvent (bundleCalls n u (events ++ [event])) a =
      if (event.bundleName = n ∧ event.uid = u) ∧ event.eventId.isAppStateEvent = true ∧
          a = event.abilityId then some event.eventId
      else lastAbilityEvent (bundleCalls n u events) a := by
  unfold bundleCalls
  rw [List.filter_append, List.map_append]
  by_cases hown : event.bundleName = n ∧ event.uid = u
  · rw [List.filter_cons_of_pos (by simpa using hown), List.filter_nil, List.map_singleton,
      lastAbilityEvent_snoc]
    simp only [hown, and_self, true_and]
  · rw [List.filter_cons_of_neg (by simpa using hown), List.filter_nil, List.map_nil,
      List.append_nil, if_neg fun h => hown h.1]

namespace ServiceState

theorem beginTime_renewStatsInMemory (tz : TimeZone) {s : ServiceState} (told : s.Told) (t : ℤ) :
    ((s.renewStatsInMemory tz t).currentStats .daily).beginTime =
      truncate tz s.debugUserService .daily t := by
  have hflushed := flushed_flushDataInMem told.held.entries
  unfold renewStatsInMemory
  rw [beginTime_restoreStats, (foldl_continueBundle_memoryOnly _ _ _).begins,
    beginTime_saveAndReload, hflushed.debug]

theorem userId_renewStatsInMemory (tz : TimeZone) {s : ServiceState} (told : s.Told) (t : ℤ) :
    (s.renewStatsInMemory tz t).userId = s.userId := by
  have hflushed := flushed_flushDataInMem told.held.entries
  unfold renewStatsInMemory
  rw [(restoreStats_user _ true).1, (foldl_continueBundle_memoryOnly _ _ _).userId,
    userId_saveAndReload, hflushed.userId]

theorem openDatabase_fresh {p : ProcessState} (fresh : p.files.packageTables = fun _ => {})
    (userId : ℤ) (debug : Bool) (t : ℤ) (i : IntervalType) :
    (openDatabase p userId debug t).databaseState.sortedTableArray i = [] ∧
      ∀ x : ℤ, ((openDatabase p userId debug t).files.packageTables i)[x]? = none := by
  obtain ⟨harray, htables⟩ := DatabaseState.getElem?_initDatabaseTableInfo (i := i)
    (d := { debugDatabase := debug, toDatabaseFiles := p.files }) rfl t
  simp only [fresh] at harray htables
  exact ⟨harray.trans (by simp), fun x => (htables x).trans (by simp)⟩

variable (tz : TimeZone) {p : ProcessState}

theorem init_fresh (fresh : p.files.packageTables = fun _ => {}) (userId : ℤ) (debug : Bool) (t : ℤ)
    (i : IntervalType) :
    (init tz p userId debug t).databaseState.sortedTableArray i = [] ∧
      (∀ x : ℤ, ((init tz p userId debug t).files.packageTables i)[x]? = none) ∧
      (∀ k, (init tz p userId debug t).entryOf k i = none) ∧
      ((init tz p userId debug t).currentStats i).beginTime = truncate tz debug i t := by
  obtain ⟨harray, htables⟩ := openDatabase_fresh fresh userId debug t i
  set s := openDatabase p userId debug t
  have hpackages := (loadActiveStats_source tz s t true false).1
  have hmemory : MemoryOnly (s.loadActiveStats tz t true false) (init tz p userId debug t) :=
    (keptInMemory_memoryOnly _).addDailyEvent _ (memoryOnly_loadModuleAndFormStats _)
  have hnot : ¬ Keeps tz t true s i := fun h => by cases h.1
  have hloaded : (loadedPeriod tz t s i).bundleStats = {} := by
    unfold loadedPeriod DatabaseState.getCurrentUsageData
    rw [harray]
    rfl
  refine ⟨?_, fun x => ?_, fun k => ?_, ?_⟩
  · rw [hmemory.databaseState, hpackages.arrays, harray]
  · have hfiles : (s.loadActiveStats tz t true false).files.packageTables = s.files.packageTables :=
      hpackages.tables
    rw [hmemory.files, hfiles, htables]
  · unfold init entryOf
    rw [bundleStats_addDailyEvent, currentStats_loadModuleAndFormStats, currentStats_loadActiveStats,
      if_neg hnot, hloaded]
    simp
  · rw [hmemory.begins, currentStats_loadActiveStats, if_neg hnot]
    exact (loadedPeriod_bounds tz t s i).1

open PackageContainUidMap (getPackageUidSet)

theorem mem_uids_init (fresh : p.files.packageTables = fun _ => {}) (userId : ℤ) (debug : Bool) (t : ℤ)
    {n : String} {v : ℤ}
    (hv : v ∈ getPackageUidSet (init tz p userId debug t).packageContainUidMap n) :
    v ∈ getPackageUidSet p.packageContainUidMap n := by
  rcases (uidsFrom_loadActiveStats tz (openDatabase p userId debug t) t true false).from_fresh n v hv
    with hv | ⟨i, -, x, hlast, -⟩
  · exact hv
  · rw [(openDatabase_fresh fresh userId debug t i).1] at hlast
    cases hlast

end ServiceState

namespace DailyHistory

variable (tz : TimeZone) {bundles : Set (String × ℤ)} {h : DailyHistory}

def lastStamp (h : DailyHistory) : ℤ := (h.reported.getLast?.map (·.timeStamp)).getD 0

def entry (h : DailyHistory) (n : String) (u : ℤ) : Option BundleActivePackageStats :=
  h.service.entryOf (getBundleUsageKey n u) .daily

def savedFrontTime (h : DailyHistory) (n : String) (u : ℤ) : ℤ :=
  (h.savedDays.map fun day => ServiceState.dayFrontTime h.service.userId n u day.2).sum

def currentFrontTime (h : DailyHistory) (n : String) (u : ℤ) : ℤ :=
  (h.entry n u).elim 0 (·.totalInFrontTime)

/-- The time since the last update of a bundle that has an ability in front. -/
def openFrontTime (h : DailyHistory) (n : String) (u : ℤ) : ℤ :=
  (h.entry n u).elim 0 fun e => if e.hasFrontAbility then h.lastStamp - e.lastTimeUsed else 0

/-- A rollover leaves the day after its whole length. If the bundle has an ability in front, the new
day starts where the old one is closed, which is after all reports. -/
structure LeavesAbutting (n : String) (u : ℤ) (h : DailyHistory) (event : BundleActiveEvent) :
    Prop where
  later : h.beginTime < h.dayOf tz event
  whole : h.beginTime + periodLength h.service.debugUserService .daily ≤ event.timeStamp
  abuts : InFront n u h.reported → h.dayOf tz event = h.service.dailyExpiryDate.time ∧
    h.lastStamp < h.service.dailyExpiryDate.time

/-- A rollover stays in the day of the daily period, whose table is not overdue, or leaves it for the
day that follows. -/
def Abuts (n : String) (u : ℤ) (h : DailyHistory) (event : BundleActiveEvent) : Prop :=
  h.Expired event → h.dayOf tz event ≤ event.timeStamp ∧
    ((h.dayOf tz event = h.beginTime ∧
        overdueTime h.service.database.debugDatabase .daily event.timeStamp ≤ h.beginTime) ∨
      h.LeavesAbutting tz n u event)

/-- The saved days, the daily entry and the time that is open there make up the time in front of a bundle,
but for a millisecond for each day that was left. -/
def Balanced (h : DailyHistory) (n : String) (u : ℤ) : Prop :=
  (0 : ℝ) ≤ foregroundLength n u h.reported h.lastStamp -
      (h.savedFrontTime n u + h.currentFrontTime n u + h.openFrontTime n u : ℤ) ∧
    foregroundLength n u h.reported h.lastStamp -
      (h.savedFrontTime n u + h.currentFrontTime n u + h.openFrontTime n u : ℤ) ≤
        h.savedDays.length

/-- The saved days and the daily entry hold the time in front of a bundle up to the last report, but for a
millisecond for each day that was left. -/
def Conserved (h : DailyHistory) (n : String) (u : ℤ) : Prop :=
  (0 : ℝ) ≤ foregroundLength n u h.reported h.lastStamp -
      (h.savedFrontTime n u + h.currentFrontTime n u : ℤ) ∧
    foregroundLength n u h.reported h.lastStamp -
      (h.savedFrontTime n u + h.currentFrontTime n u : ℤ) ≤ h.savedDays.length

/-- The last report closes every session or is of an ability of the bundle that was in front, or the bundle
was not in front before it. -/
def Settled (n : String) (u : ℤ) (events : List BundleActiveEvent) : Prop :=
  ∀ event ∈ events.getLast?, event.eventId = .flush ∨ event.eventId = .shutdown ∨
    ¬ InFront n u events.dropLast ∨
    (event.bundleName = n ∧ event.uid = u) ∧ event.eventId.isAppStateEvent = true ∧
      lastAbilityEvent (bundleCalls n u events.dropLast) event.abilityId = some .abilityForeground

/-! ### One step -/

/-- What is known of a bundle in every state of a run. -/
structure Accounted (bundles : Set (String × ℤ)) (n : String) (u : ℤ) (h : DailyHistory) : Prop where
  run : ServiceState.Run tz (ServiceState.RolloverReached tz) h.service
  told : h.service.Told
  within : h.service.UidsWithin bundles
  day : h.service.DayKnown n u h.lastStamp
  runs : ∀ a, (h.service.currentStats .daily).Runs (getBundleUsageKey n u) (.ability a) ↔
    lastAbilityEvent (bundleCalls n u h.reported) a = some .abilityForeground
  past : ∀ e ∈ h.reported, e.timeStamp ≤ h.lastStamp
  stored : ∀ x rows, x ≠ h.beginTime →
    (h.service.files.packageTables .daily)[x]? = some rows → (x, rows) ∈ h.savedDays
  balanced : h.Balanced n u

theorem lastStamp_report (h : DailyHistory) (event : BundleActiveEvent) :
    (h.report tz event).lastStamp = event.timeStamp := by
  simp [lastStamp, report]

theorem frontTimeOf_entry (h : DailyHistory) (n : String) (u : ℤ) :
    frontTimeOf (h.entry n u) h.lastStamp = h.currentFrontTime n u + h.openFrontTime n u := by
  unfold currentFrontTime openFrontTime
  cases h.entry n u with
  | none => rfl
  | some e => exact rfl

theorem entryOf_report (h : DailyHistory) (event : BundleActiveEvent) (k : String) :
    ∃ launch, (h.report tz event).service.entryOf k .daily = reportedEntry k event launch
      ((h.service.renewIfExpired tz event.timeStamp).entryOf k .daily) :=
  ⟨_, ServiceState.entryOf_reportEvent tz h.service event k .daily⟩

theorem lastStamp_le {t : ℤ} (ht : 0 ≤ t) (ordered : ∀ e ∈ h.reported, e.timeStamp ≤ t) :
    h.lastStamp ≤ t := by
  unfold lastStamp
  cases hlast : h.reported.getLast? with
  | none => exact ht
  | some e => exact ordered e (List.mem_of_getLast? hlast)

theorem balanced_iff : h.Balanced n u ↔
    (0 : ℝ) ≤ foregroundLength n u h.reported h.lastStamp -
        (h.savedFrontTime n u + frontTimeOf (h.entry n u) h.lastStamp : ℤ) ∧
      foregroundLength n u h.reported h.lastStamp -
        (h.savedFrontTime n u + frontTimeOf (h.entry n u) h.lastStamp : ℤ) ≤
          h.savedDays.length := by
  rw [Balanced, frontTimeOf_entry, add_assoc]

theorem userId_report (h : DailyHistory) (event : BundleActiveEvent) (told : h.service.Told) :
    (h.report tz event).service.userId = h.service.userId := by
  have hrenewed : (h.service.renewIfExpired tz event.timeStamp).userId = h.service.userId := by
    unfold ServiceState.renewIfExpired
    split_ifs
    · exact ServiceState.userId_renewStatsInMemory tz told _
    · rfl
  refine (ServiceState.MemoryOnly.userId ?_).trans hrenewed
  exact (ServiceState.keptInMemory_memoryOnly _).reportEvent tz event (.refl _)

section Step

variable (acc : h.Accounted tz bundles n u)
  (oneUid : ∀ n v v', (n, v) ∈ bundles → (n, v') ∈ bundles → v = v')
  (apart : ∀ n' v', (n', v') ∈ bundles → getBundleUsageKey n' v' = getBundleUsageKey n u → n' = n)
include acc

theorem Accounted.inFront_iff : InFront n u h.reported ↔ frontOf (h.entry n u) = true := by
  rw [entry, ServiceState.frontOf_iff]
  exact exists_congr fun a => (acc.runs a).symm

include oneUid in
theorem Accounted.sameRuns (t : ℤ) :
    ServiceState.SameRuns h.service (h.service.renewIfExpired tz t) :=
  (ServiceState.sessionsTidy_run tz acc.run).renewIfExpired tz fun _ =>
    acc.within.sessionsReached tz oneUid acc.told t

include oneUid apart in
/-- A rollover takes the time of a bundle into the saved day and the new entry. -/
theorem Accounted.renewed (stamped : 0 < event.timeStamp) (ordered : h.lastStamp ≤ event.timeStamp)
    (abuts : h.Abuts tz n u event) :
    (h.service.renewIfExpired tz event.timeStamp).DayKnown n u event.timeStamp ∧
      ∃ lost : ℤ, 0 ≤ lost ∧
        lost + h.savedDays.length ≤ (h.report tz event).savedDays.length ∧
        frontTimeOf (h.entry n u) event.timeStamp =
          (h.report tz event).savedFrontTime n u - h.savedFrontTime n u +
            frontTimeOf ((h.service.renewIfExpired tz event.timeStamp).entryOf
              (getBundleUsageKey n u) .daily) event.timeStamp + lost := by
  have hday := acc.day.mono ordered
  have hsaved : ∀ days, (h.report tz event).savedDays = h.savedDays ++ days →
      (h.report tz event).savedFrontTime n u - h.savedFrontTime n u =
        (days.map fun day => ServiceState.dayFrontTime h.service.userId n u day.2).sum := by
    intro days hdays
    rw [savedFrontTime, hdays, userId_report tz h event acc.told, List.map_append, List.sum_append,
      savedFrontTime]
    ring
  by_cases hexpired : h.Expired event
  · have hrenew : h.service.renewIfExpired tz event.timeStamp =
        h.service.renewStatsInMemory tz event.timeStamp := if_pos hexpired
    have htidy := ServiceState.sessionsTidy_run tz acc.run
    obtain ⟨hbegun, ⟨hsame, hdue⟩ | hleaves⟩ := abuts hexpired
    · have hdays : (h.report tz event).savedDays = h.savedDays ++ [] := by
        rw [report, if_neg fun hne => hne.2 hsame, List.append_nil]
      obtain ⟨hknown, hfront⟩ := hday.renewStatsInMemory_of_keeps tz acc.told htidy.known htidy.agree
        stamped hexpired hsame.symm hbegun hdue
      rw [hsaved [] hdays, hrenew, hdays]
      refine ⟨hknown, 0, le_rfl, by simp, ?_⟩
      rw [hfront.time, List.map_nil, List.sum_nil]
      exact (by ring_nf; rfl)
    · have hdays : (h.report tz event).savedDays =
          h.savedDays ++ [(h.beginTime, h.service.savedRows)] :=
        if_pos ⟨hexpired, hleaves.later.ne'⟩
      obtain ⟨hknown, hstarted⟩ := hday.renewStatsInMemory_of_leaves tz acc.told htidy.known stamped
        hexpired hleaves.later hbegun hleaves.whole
      have hrows := ServiceState.dayFrontTime_savedRows hday acc.told
        (fun e he => acc.within.own acc.told apart he) hexpired fun e he hfront =>
          (acc.day.sound e he).last.trans_lt
            (hleaves.abuts ((acc.inFront_iff tz).2 ((congrArg frontOf he).trans hfront))).2
      rw [hsaved _ hdays, hrenew, hdays]
      refine ⟨hknown, if frontOf (h.entry n u) then 1 else 0, by split_ifs <;> decide, ?_, ?_⟩
      · rw [List.length_append, List.length_singleton]
        push_cast
        split_ifs <;> omega
      · have hruns := acc.sameRuns tz oneUid event.timeStamp .daily
        rw [hrenew] at hruns
        have hfront : frontOf ((h.service.renewStatsInMemory tz event.timeStamp).entryOf
            (getBundleUsageKey n u) .daily) = frontOf (h.entry n u) := by
          rw [Bool.eq_iff_iff, entry, ServiceState.frontOf_iff, ServiceState.frontOf_iff, hruns]
          rfl
        rw [hstarted.time, hfront, List.map_singleton, List.sum_singleton, hrows]
        change frontTimeOf (h.entry n u) _ = frontTimeOf (h.entry n u) _ + _ + _
        rw [frontTimeOf_later _ (h.service.dailyExpiryDate.time - 1) event.timeStamp]
        split_ifs with hin
        · have habuts : truncate tz h.service.debugUserService .daily event.timeStamp =
              h.service.dailyExpiryDate.time := (hleaves.abuts ((acc.inFront_iff tz).2 hin)).1
          omega
        · ring
  · have hrenew : h.service.renewIfExpired tz event.timeStamp = h.service := if_neg hexpired
    have hdays : (h.report tz event).savedDays = h.savedDays ++ [] := by
      rw [report, if_neg fun h => hexpired h.1, List.append_nil]
    rw [hsaved [] hdays, hrenew, hdays]
    refine ⟨hday, 0, le_rfl, by simp, ?_⟩
    rw [List.map_nil, List.sum_nil]
    exact (by ring_nf; rfl)

include oneUid apart in
theorem Accounted.runs_report
    (within : event.eventId.isBundleEvent = true → (event.bundleName, event.uid) ∈ bundles)
    (a : String) :
    ((h.report tz event).service.currentStats .daily).Runs (getBundleUsageKey n u) (.ability a) ↔
      lastAbilityEvent (bundleCalls n u (h.report tz event).reported) a =
        some .abilityForeground := by
  have hruns := ServiceState.runsAfter_reportEvent tz h.service event .daily
  rw [acc.sameRuns tz oneUid event.timeStamp .daily] at hruns
  change ((h.service.reportEvent tz event).currentStats .daily).Runs _ _ ↔
    lastAbilityEvent (bundleCalls n u (h.reported ++ [event])) a = _
  rw [hruns, lastAbilityEvent_bundleCalls_snoc]
  unfold Session.afterUpdate
  rw [id, acc.runs]
  by_cases hev : event.eventId.isAppStateEvent = true
  · have hbundle : event.eventId.isBundleEvent = true := by
      rcases BundleActivePackageStats.isAppStateEvent_iff.1 hev with he | he | he <;> rw [he] <;> rfl
    have hmem := within hbundle
    have hown : getBundleUsageKey n u = getBundleUsageKey event.bundleName event.uid ↔
        event.bundleName = n ∧ event.uid = u := by
      constructor
      · intro hkey
        have hname := apart _ _ hmem hkey.symm
        rw [hname] at hkey
        exact ⟨hname, (getBundleUsageKey_uid_inj hkey).symm⟩
      · rintro ⟨rfl, rfl⟩
        rfl
    rw [hown]
    by_cases hsame : (event.bundleName = n ∧ event.uid = u) ∧ a = event.abilityId
    · rw [if_pos ⟨hsame.1, hev, hsame.2⟩]
      rcases BundleActivePackageStats.isAppStateEvent_iff.1 hev with he | he | he <;>
        simp [Session.Started, Session.Ended, hsame, he]
    · rw [if_neg fun h => hsame ⟨h.1, h.2.2⟩]
      have hstarted : ¬ ((event.bundleName = n ∧ event.uid = u) ∧ Session.Started event.eventId
          event.continuousTaskAbilityName event.abilityId (.ability a)) :=
        fun h => hsame ⟨h.1, h.2.2⟩
      have hended : ¬ ((event.bundleName = n ∧ event.uid = u) ∧ Session.Ended event.eventId
          event.continuousTaskAbilityName event.abilityId (.ability a)) :=
        fun h => hsame ⟨h.1, h.2.2⟩
      simp only [hstarted, hended, not_false_eq_true, and_true, false_or]
  · rw [if_neg fun h => hev h.2.1]
    have hstarted : ¬ Session.Started event.eventId event.continuousTaskAbilityName event.abilityId
        (.ability a) := fun h => hev (by rw [h.1]; rfl)
    have hended : ¬ Session.Ended event.eventId event.continuousTaskAbilityName event.abilityId
        (.ability a) := fun h => by rcases h.1 with he | he <;> exact hev (by rw [he]; rfl)
    simp only [hstarted, hended, and_false, not_false_eq_true, and_true, false_or]

theorem Accounted.stored_report (stamped : 0 < event.timeStamp)
    {x : ℤ} {rows : List PackageLogRow} (hx : x ≠ (h.report tz event).beginTime)
    (hrows : ((h.report tz event).service.files.packageTables .daily)[x]? = some rows) :
    (x, rows) ∈ (h.report tz event).savedDays := by
  have hmemory : ServiceState.MemoryOnly (h.service.renewIfExpired tz event.timeStamp)
      (h.report tz event).service :=
    (ServiceState.keptInMemory_memoryOnly _).reportEvent tz event (.refl _)
  rw [hmemory.files] at hrows
  rw [beginTime, hmemory.begins] at hx
  have hkept : ∀ day ∈ h.savedDays, day ∈ (h.report tz event).savedDays := by
    intro day hday
    unfold report
    simp only
    split_ifs
    · exact List.mem_append_left _ hday
    · exact hday
  by_cases hexpired : h.Expired event
  · have hrenew : h.service.renewIfExpired tz event.timeStamp =
        h.service.renewStatsInMemory tz event.timeStamp := if_pos hexpired
    rw [hrenew] at hx hrows
    rw [ServiceState.beginTime_renewStatsInMemory tz acc.told] at hx
    rcases ServiceState.getElem?_renewStatsInMemory tz acc.told stamped hx hrows with
      ⟨hbegin, hsaved⟩ | ⟨hold, hrows⟩
    · have hdays : (h.report tz event).savedDays =
          h.savedDays ++ [(h.beginTime, h.service.savedRows)] :=
        if_pos ⟨hexpired, fun hsame => hx (hbegin.trans hsame.symm)⟩
      rw [hdays, hbegin, hsaved]
      exact List.mem_append_right _ (List.mem_singleton_self _)
    · exact hkept _ (acc.stored x rows hold hrows)
  · have hrenew : h.service.renewIfExpired tz event.timeStamp = h.service := if_neg hexpired
    rw [hrenew] at hx hrows
    exact hkept _ (acc.stored x rows hx hrows)

include oneUid apart in
theorem Accounted.balanced_report (stamped : 0 < event.timeStamp)
    (ordered : h.lastStamp ≤ event.timeStamp) (abuts : h.Abuts tz n u event) :
    (h.report tz event).Balanced n u := by
  classical
  obtain ⟨hday, lost, hlost, hdays, htime⟩ := acc.renewed tz oneUid apart stamped ordered abuts
  obtain ⟨launch, hentry⟩ := entryOf_report tz h event (getBundleUsageKey n u)
  have hreported : frontTimeOf ((h.report tz event).entry n u) event.timeStamp =
      frontTimeOf ((h.service.renewIfExpired tz event.timeStamp).entryOf
        (getBundleUsageKey n u) .daily) event.timeStamp := by
    rw [entry, hentry]
    exact frontTimeOf_reportedEntry stamped.le hday.sound
  have hlength : foregroundLength n u (h.report tz event).reported event.timeStamp =
      foregroundLength n u h.reported h.lastStamp +
        if InFront n u h.reported then (event.timeStamp - h.lastStamp : ℝ) else 0 :=
    Timeline.activeLength_step not_inFront_nil ordered acc.past
  have hlater := frontTimeOf_later (h.entry n u) h.lastStamp event.timeStamp
  obtain ⟨hlow, hhigh⟩ := balanced_iff.1 acc.balanced
  rw [balanced_iff, lastStamp_report, hreported, hlength, if_congr (acc.inFront_iff tz) rfl rfl]
  rw [htime] at hlater
  have hlost' : (0 : ℝ) ≤ lost := by exact_mod_cast hlost
  have hdays' : (lost + h.savedDays.length : ℝ) ≤ (h.report tz event).savedDays.length := by
    exact_mod_cast hdays
  have htotal : ((h.report tz event).savedFrontTime n u + frontTimeOf
      ((h.service.renewIfExpired tz event.timeStamp).entryOf (getBundleUsageKey n u) .daily)
        event.timeStamp : ℤ) =
      ((h.savedFrontTime n u + frontTimeOf (h.entry n u) h.lastStamp : ℤ) : ℝ) +
        (if frontOf (h.entry n u) = true then (event.timeStamp - h.lastStamp : ℝ) else 0) - lost := by
    have heq : (h.report tz event).savedFrontTime n u + frontTimeOf
        ((h.service.renewIfExpired tz event.timeStamp).entryOf (getBundleUsageKey n u) .daily)
          event.timeStamp =
        h.savedFrontTime n u + frontTimeOf (h.entry n u) h.lastStamp +
          (if frontOf (h.entry n u) = true then event.timeStamp - h.lastStamp else 0) - lost := by
      omega
    rw [heq]
    push_cast
    split_ifs <;> simp
  rw [htotal]
  constructor <;> linarith

include oneUid apart in
theorem Accounted.report (stamped : 0 < event.timeStamp)
    (ordered : ∀ e ∈ h.reported, e.timeStamp ≤ event.timeStamp)
    (within : event.eventId.isBundleEvent = true → (event.bundleName, event.uid) ∈ bundles)
    (abuts : h.Abuts tz n u event) : (h.report tz event).Accounted tz bundles n u := by
  have hordered := lastStamp_le stamped.le ordered
  have hknown := (ServiceState.sessionsTidy_run tz acc.run).known
  obtain ⟨hday, -⟩ := acc.renewed tz oneUid apart stamped hordered abuts
  obtain ⟨launch, hentry⟩ := entryOf_report tz h event (getBundleUsageKey n u)
  refine
    { run := acc.run.step (.reportEvent event) stamped fun _ =>
        acc.within.sessionsReached tz oneUid acc.told event.timeStamp
      told := acc.told.reportEvent tz stamped
      within := acc.within.reportEvent tz acc.told hknown within
      day := ?_
      runs := acc.runs_report tz oneUid apart within
      past := fun e he => ?_
      stored := fun x rows hx hrows => acc.stored_report tz stamped hx hrows
      balanced := acc.balanced_report tz oneUid apart stamped hordered abuts }
  · rw [lastStamp_report]
    refine hday.memoryOnly ((ServiceState.keptInMemory_memoryOnly _).reportEvent tz event (.refl _))
      (fun e he => ?_) fun hused => ?_
    · rw [hentry] at he
      exact sound_reportedEntry stamped.le hday.sound he
    · rw [hentry]
      exact used_reportedEntry hday.sound hused
  · rw [lastStamp_report]
    rcases List.mem_append.1 he with he | he
    · exact ordered e he
    · exact (List.mem_singleton.1 he).symm ▸ le_rfl

end Step

/-! ### Runs -/

theorem accounted_init {p : ProcessState} {userId : ℤ} {debug : Bool} {t : ℤ} (stamped : 0 < t)
    (begins : 0 ≤ truncate tz debug .daily t) (fresh : p.files.packageTables = fun _ => {})
    (within : ∀ n, ∀ v ∈ p.packageContainUidMap.getPackageUidSet n, (n, v) ∈ bundles) (n : String)
    (u : ℤ) : Accounted tz bundles n u { service := .init tz p userId debug t } := by
  have hfresh := ServiceState.init_fresh tz fresh userId debug t
  have hrows : ∀ i x, ((ServiceState.init tz p userId debug t).files.packageTables i).rows x = [] :=
    fun i x => by rw [Tables.rows, (hfresh i).2.1]; rfl
  have hnone : ∀ i (k : String),
      ((ServiceState.init tz p userId debug t).currentStats i).bundleStats[k]? = none :=
    fun i => (hfresh i).2.2.1
  have hday : (ServiceState.init tz p userId debug t).DayKnown n u 0 := by
    obtain ⟨harray, htables, hentry, hbegin⟩ := hfresh .daily
    refine ⟨⟨?_, ?_, ?_⟩, ?_, ⟨?_, ?_⟩, ?_⟩
    · rw [harray]
      exact fun x hx => absurd hx List.not_mem_nil
    · intro x hx
      rw [Std.TreeMap.mem_iff_isSome_getElem?] at hx
      have hget := congrArg Option.isSome (htables x)
      exact absurd (hget.symm.trans hx) Bool.false_ne_true
    · rw [harray]
      exact fun hx => absurd hx List.not_mem_nil
    · rw [hbegin]
      exact begins
    · rw [hrows]
      exact List.nodup_nil
    · rw [hrows]
      exact fun row hrow => absurd hrow List.not_mem_nil
    · intro e he
      rw [hentry] at he
      cases he
  refine
    { run := .init p userId debug t stamped
      told := ⟨ServiceState.tidy_init tz p userId debug stamped,
        entryKept_key.init tz p userId debug t, ⟨fun i k e hk => ?_, fun i x row hrow => ?_⟩⟩
      within := fun n v hv => within n v (ServiceState.mem_uids_init tz fresh userId debug t hv)
      day := hday
      runs := fun a => ⟨fun hruns => ?_, fun ha => absurd ⟨a, ha⟩ not_inFront_nil⟩
      past := fun e he => absurd he List.not_mem_nil
      stored := fun x rows _ hrows => ?_
      balanced := ?_ }
  · rw [hnone] at hk
    cases hk
  · rw [hrows] at hrow
    cases hrow
  · obtain ⟨e, hk, -⟩ := hruns
    rw [hnone] at hk
    cases hk
  · rw [(hfresh .daily).2.1] at hrows
    cases hrows
  · have hentry : entry { service := .init tz p userId debug t } n u = none :=
      (hfresh .daily).2.2.1 _
    have hlength : foregroundLength n u [] (lastStamp { service := .init tz p userId debug t }) = 0 :=
      Timeline.activeLength_nil not_inFront_nil _
    rw [balanced_iff, hentry, hlength]
    simp [savedFrontTime, frontTimeOf]

theorem accounted_run (oneUid : ∀ n v v', (n, v) ∈ bundles → (n, v') ∈ bundles → v = v')
    (apart : ∀ n' v', (n', v') ∈ bundles → getBundleUsageKey n' v' = getBundleUsageKey n u → n' = n)
    (run : Run tz bundles (Abuts tz n u) h) : h.Accounted tz bundles n u := by
  induction run with
  | init p userId debug t stamped begins fresh within =>
    exact accounted_init tz stamped begins fresh within n u
  | step event _ stamped ordered within allowed ih =>
    exact ih.report tz oneUid apart stamped ordered within allowed

/-- A report that closes every session leaves nothing open. -/
theorem openFrontTime_of_closes {o : Option BundleActivePackageStats} {k : String} {launch : Bool}
    (closes : event.eventId = .flush ∨ event.eventId = .shutdown)
    (sound : ∀ e, o = some e → e.Sound event.timeStamp) {e : BundleActivePackageStats}
    (he : reportedEntry k event launch o = some e) (hfront : e.hasFrontAbility = true) :
    e.lastTimeUsed = event.timeStamp := by
  have htick : event.eventId.isTick = true := by rcases closes with h | h <;> rw [h] <;> rfl
  have htracker : ¬ event.eventId.isTrackerEvent = true := by
    rcases closes with h | h <;> rw [h] <;> decide
  have hupdated : updatedEntry k event o =
      o.map (·.update "" event.timeStamp event.eventId event.abilityId) :=
    if_pos closes.symm
  have htime : ∀ e₀, o = some e₀ → ∀ a,
      (e₀.update "" event.timeStamp event.eventId a).hasFrontAbility = true →
        (e₀.update "" event.timeStamp event.eventId a).lastTimeUsed = event.timeStamp := by
    intro e₀ he₀ a hfront
    have hsame : BundleActivePackageStats.SameFront (e₀.tick event.timeStamp)
        (e₀.update "" event.timeStamp event.eventId a) :=
      BundleActivePackageStats.update_of_isTick htick
    have hfront₀ : e₀.hasFrontAbility = true := by
      refine (BundleActivePackageStats.hasFrontAbility_congr ?_).symm.trans hfront
      exact hsame.abilities.trans BundleActivePackageStats.tick_maps.1
    rw [hsame.last, (e₀.sameFront_tick event.timeStamp).last, if_pos hfront₀,
      (e₀.incrementTimeUsed_maps event.timeStamp).2]
    exact max_eq_right (sound e₀ he₀).last
  unfold reportedEntry at he
  rw [if_neg htracker, hupdated] at he
  split_ifs at he
  · obtain ⟨e₁, he₁, rfl⟩ := Option.map_eq_some_iff.1 he
    obtain ⟨e₀, he₀, rfl⟩ := Option.map_eq_some_iff.1 he₁
    exact htime e₀ he₀ event.abilityId hfront
  · obtain ⟨e₀, he₀, rfl⟩ := Option.map_eq_some_iff.1 he
    exact htime e₀ he₀ event.abilityId hfront

/-- A report of an ability that is in front, or that brings the bundle to the front, leaves nothing open. -/
theorem openFrontTime_of_ability {o : Option BundleActivePackageStats} {k : String} {launch : Bool}
    (hkey : getBundleUsageKey event.bundleName event.uid = k)
    (hstate : event.eventId.isAppStateEvent = true) (stamped : 0 ≤ event.timeStamp)
    (sound : ∀ e, o = some e → e.Sound event.timeStamp)
    (hopen : (∃ e, o = some e ∧ e.Runs (.ability event.abilityId)) ∨ ¬ frontOf o = true)
    {e : BundleActivePackageStats} (he : reportedEntry k event launch o = some e)
    (hfront : e.hasFrontAbility = true) : e.lastTimeUsed = event.timeStamp := by
  have hids := BundleActivePackageStats.isAppStateEvent_iff.1 hstate
  have htracker : ¬ event.eventId.isTrackerEvent = true := by
    rcases hids with h | h | h <;> rw [h] <;> decide
  have hclosing : ¬ (event.eventId = .shutdown ∨ event.eventId = .flush) := by
    rcases hids with h | h | h <;> rw [h] <;> decide
  have hbundle : event.eventId.isBundleEvent = true := by
    rcases hids with h | h | h <;> rw [h] <;> rfl
  have hlast : (o.getD { bundleName := event.bundleName, uid := event.uid }).lastTimeUsed ≤
      event.timeStamp := by
    cases ho : o with
    | none => exact (show (-1 : ℤ) ≤ 0 by decide).trans stamped
    | some e₀ => exact (sound e₀ ho).last
  have hbefore : (o.getD { bundleName := event.bundleName, uid := event.uid }).abilities[
      event.abilityId]? = some .abilityForeground ∨
        ¬ (o.getD { bundleName := event.bundleName, uid := event.uid }).hasFrontAbility = true := by
    cases ho : o with
    | none => exact .inr (by simp [BundleActivePackageStats.hasFrontAbility_iff])
    | some e₀ =>
      rw [ho] at hopen
      rcases hopen with ⟨e₁, he₁, hruns⟩ | hout
      · obtain rfl := Option.some.inj he₁
        exact .inl hruns
      · exact .inr hout
  have hupdated : updatedEntry k event o =
      some ((o.getD { bundleName := event.bundleName, uid := event.uid }).update
        event.continuousTaskAbilityName event.timeStamp event.eventId event.abilityId) := by
    rw [updatedEntry, if_neg hclosing, if_pos ⟨hbundle, hkey⟩]
  generalize o.getD { bundleName := event.bundleName, uid := event.uid } = s at hlast hbefore hupdated
  have hupdate : s.update event.continuousTaskAbilityName event.timeStamp event.eventId
      event.abilityId = { s.updateAbility event.timeStamp event.eventId event.abilityId with
        endTimeStamp := event.timeStamp } := by
    rcases hids with h | h | h <;> rw [h] <;> rfl
  have htime := BundleActivePackageStats.updateAbility_lastTimeUsed_eq hlast hstate hbefore
  rw [reportedEntry, if_neg htracker, hupdated, hupdate] at he
  split_ifs at he
  · obtain rfl := Option.some.inj he
    exact htime hfront
  · obtain rfl := Option.some.inj he
    exact htime hfront

theorem own_of_inFront (h : InFront n u (events ++ [event])) (hbefore : ¬ InFront n u events) :
    (event.bundleName = n ∧ event.uid = u) ∧ event.eventId.isAppStateEvent = true := by
  obtain ⟨a, ha⟩ := h
  rw [lastAbilityEvent_bundleCalls_snoc] at ha
  split_ifs at ha with hown
  · exact ⟨hown.1, hown.2.1⟩
  · exact absurd ⟨a, ha⟩ hbefore

theorem openFrontTime_eq_zero (oneUid : ∀ n v v', (n, v) ∈ bundles → (n, v') ∈ bundles → v = v')
    (apart : ∀ n' v', (n', v') ∈ bundles → getBundleUsageKey n' v' = getBundleUsageKey n u → n' = n)
    (run : Run tz bundles (Abuts tz n u) h) (settled : Settled n u h.reported) :
    h.openFrontTime n u = 0 := by
  have hafter := accounted_run tz oneUid apart run
  unfold openFrontTime
  cases he : h.entry n u with
  | none => rfl
  | some e =>
    rw [Option.elim_some]
    split_ifs with hfront
    · have hin : InFront n u h.reported :=
        (hafter.inFront_iff tz).2 ((congrArg frontOf he).trans hfront)
      cases run with
      | init => exact absurd hin not_inFront_nil
      | @step h event run stamped ordered within allowed =>
        have hacc := accounted_run tz oneUid apart run
        obtain ⟨hday, -⟩ := hacc.renewed tz oneUid apart stamped (lastStamp_le stamped.le ordered)
          allowed
        obtain ⟨launch, hentry⟩ := entryOf_report tz h event (getBundleUsageKey n u)
        rw [entry, hentry] at he
        have hruns := hacc.sameRuns tz oneUid event.timeStamp .daily
        have hsettled := settled event (by simp [report])
        rw [report, List.dropLast_concat] at hsettled
        rw [lastStamp_report, sub_eq_zero, eq_comm]
        rcases or_assoc.2 hsettled with hcloses | hout | ⟨⟨rfl, rfl⟩, hstate, hlast⟩
        · exact openFrontTime_of_closes hcloses hday.sound he hfront
        · obtain ⟨⟨rfl, rfl⟩, hstate⟩ := own_of_inFront hin hout
          refine openFrontTime_of_ability rfl hstate stamped.le hday.sound (.inr ?_) he hfront
          rw [ServiceState.frontOf_iff, hruns]
          rwa [hacc.inFront_iff tz, entry, ServiceState.frontOf_iff] at hout
        · refine openFrontTime_of_ability rfl hstate stamped.le hday.sound (.inl ?_) he hfront
          have hopen := (hacc.runs event.abilityId).2 hlast
          rw [← id_eq (h.service.currentStats .daily).Runs, ← hruns] at hopen
          exact hopen
    · rfl

/-- In a run whose rollovers stay in the day or abut the next one, the saved days and the daily entry of
a bundle that the last report settles hold the time that it was in front, but for a millisecond for each
day that was left, and every table of another day is one of the saved days. -/
theorem front_time_conserved (oneUid : ∀ n v v', (n, v) ∈ bundles → (n, v') ∈ bundles → v = v')
    (apart : ∀ n' v', (n', v') ∈ bundles → getBundleUsageKey n' v' = getBundleUsageKey n u → n' = n)
    (run : Run tz bundles (Abuts tz n u) h) (settled : Settled n u h.reported) :
    h.Conserved n u ∧
      ∀ x rows, x ≠ h.beginTime → (h.service.files.packageTables .daily)[x]? = some rows →
        (x, rows) ∈ h.savedDays := by
  have hacc := accounted_run tz oneUid apart run
  have hbalanced := hacc.balanced
  rw [Balanced, openFrontTime_eq_zero tz oneUid apart run settled, add_zero] at hbalanced
  exact ⟨hbalanced, hacc.stored⟩

def mail : Set (String × ℤ) := {("com.example.mail", 20010001)}

/-- A service on the first of March 2024, with the mail bundle in front from noon on. -/
def noon : DailyHistory :=
  DailyHistory.report utc { service := .init utc {} 100 false 1709251200000 }
    { bundleName := "com.example.mail", abilityId := "1", eventId := .abilityForeground
      timeStamp := 1709294400000, uid := 20010001 }

/-- A flush half an hour after the next midnight. -/
def nextDay : DailyHistory := noon.report utc { eventId := .flush, timeStamp := 1709339400000 }

/-- A flush half an hour after the third midnight instead. -/
def thirdDay : DailyHistory := noon.report utc { eventId := .flush, timeStamp := 1709512200000 }

theorem mail_oneUid (n : String) (v v' : ℤ) (h : (n, v) ∈ mail) (h' : (n, v') ∈ mail) : v = v' := by
  obtain ⟨-, hv⟩ := Prod.mk.inj h
  obtain ⟨-, hv'⟩ := Prod.mk.inj h'
  exact hv.trans hv'.symm

theorem run_noon {Allowed : DailyHistory → BundleActiveEvent → Prop}
    (allowed : ∀ h event, ¬ h.Expired event → Allowed h event) : Run utc mail Allowed noon := by
  refine .step _ (.init {} 100 false 1709251200000 (by decide) (by decide +kernel) rfl ?_)
    (by decide) (fun e he => absurd he List.not_mem_nil) (fun _ => rfl)
    (allowed _ _ (by decide +kernel))
  intro n v hv
  simp [PackageContainUidMap.getPackageUidSet] at hv

theorem run_nextDay : Run utc mail (Abuts utc "com.example.mail" 20010001) nextDay := by
  refine .step _ (run_noon fun h event hexpired h' => absurd h' hexpired) (by decide)
    (by decide +kernel) (fun h => by cases h) fun _ => ⟨by decide +kernel, .inr ?_⟩
  exact ⟨by decide +kernel, by decide +kernel, fun _ => ⟨by decide +kernel, by decide +kernel⟩⟩

theorem front_time_conserved_nextDay : nextDay.Conserved "com.example.mail" 20010001 :=
  (front_time_conserved utc mail_oneUid (fun _ _ h _ => (Prod.mk.inj h).1) run_nextDay
    fun _ hlast => .inl (Option.some.inj hlast ▸ rfl)).1

/-- The bundle is in front all the time, and two days of it are neither saved nor in memory. -/
theorem not_conserved_thirdDay :
    Run utc mail (fun _ _ => True) thirdDay ∧
      thirdDay.openFrontTime "com.example.mail" 20010001 = 0 ∧
      foregroundLength "com.example.mail" 20010001 thirdDay.reported thirdDay.lastStamp -
        (thirdDay.savedFrontTime "com.example.mail" 20010001 +
          thirdDay.currentFrontTime "com.example.mail" 20010001 : ℤ) = 2 * oneDayTime + 1 := by
  classical
  have hrun : Run utc mail (fun _ _ => True) thirdDay :=
    .step _ (run_noon fun _ _ _ => trivial) (by decide) (by decide +kernel) (fun h => by cases h)
      trivial
  have htotal : thirdDay.savedFrontTime "com.example.mail" 20010001 +
      thirdDay.currentFrontTime "com.example.mail" 20010001 = 44999999 := by decide +kernel
  have hlength : foregroundLength "com.example.mail" 20010001 thirdDay.reported thirdDay.lastStamp =
      217800000 := by
    have hnoon : foregroundLength "com.example.mail" 20010001 noon.reported 1709294400000 = 0 :=
      (Timeline.activeLength_snoc [] _).trans (Timeline.activeLength_nil not_inFront_nil _)
    have hfront : InFront "com.example.mail" 20010001 noon.reported := ⟨"1", by decide +kernel⟩
    have hstep : foregroundLength "com.example.mail" 20010001 thirdDay.reported thirdDay.lastStamp =
        foregroundLength "com.example.mail" 20010001 noon.reported 1709294400000 +
          if InFront "com.example.mail" 20010001 noon.reported then
            (((1709512200000 : ℤ) : ℝ) - (1709294400000 : ℤ)) else 0 :=
      Timeline.activeLength_step not_inFront_nil (by decide) (by decide +kernel)
    rw [hstep, hnoon, if_pos hfront]
    norm_num
  refine ⟨hrun, by decide +kernel, ?_⟩
  rw [htotal, hlength]
  norm_num [oneDayTime]

end DailyHistory
end DeviceUsageStats
