import DeviceUsageStats.Spec.GroupQueries
import DeviceUsageStats.Spec.ServiceQuery

/-! `IsBundleUsePeriod` of the core (`bundle_active_core.cpp`): whether a bundle is used on enough days of
the last week. One reading of the clocks stands for those of the call. -/

namespace DeviceUsageStats

structure AppUsePeriodicallyConfig where
  minUseTimes : ℤ
  maxUseTimes : ℤ
  minUseDays : ℤ

namespace BundleActiveCore

variable (tz : TimeZone)

/-- The statistics that a query puts out: none where it returns an error. -/
def putOut : Except QueryError (List BundleActivePackageStats) → List BundleActivePackageStats
  | .ok packageStats => packageStats
  | .error _ => []

def queryBundleStatsInfos (core : BundleActiveCore) (userId intervalType beginTime endTime : ℤ)
    (bundleName : String) (clock : Clock) : List BundleActivePackageStats × BundleActiveCore :=
  let (timeNow, core) := core.checkTimeChangeAndGetWallTime tz userId clock
  if timeNow = errTimeOperationFailed then ([], core)
  else if beginTime > timeNow ∨ beginTime ≥ endTime then ([], core)
  else
    let core := core.getUserDataAndInitializeIfNeeded tz userId timeNow
    match core.userStatServices[userId]? with
    | none => ([], core)
    | some service =>
      let (result, s) := (core.serviceState service).queryBundleStatsInfos intervalType beginTime
        endTime userId bundleName
      (putOut result, core.putService userId s)

def periodDaily : ℤ := 0

def isBundleUsePeriod (core : BundleActiveCore) (history : HistoryState)
    (config : AppUsePeriodicallyConfig) (isBundleInstalled : Bool) (bundleName : String)
    (userId : ℤ) (clock : Clock) : Bool × BundleActiveCore :=
  if isBundleInstalled = false then (false, core)
  else if history.isUsedOverOneWeek bundleName userId clock.systemTime then (true, core)
  else
    let currentSystemTime := clock.systemTime
    let aWeekAgo := currentSystemTime - oneWeekTime
    let startTime := getIntervalTypeStartTime tz aWeekAgo .daily
    let (packageStats, core) := core.queryBundleStatsInfos tz userId periodDaily startTime
      currentSystemTime bundleName clock
    let useDayPeriod := packageStats.countP fun item =>
      item.startCount ≥ config.minUseTimes ∧ item.startCount ≤ config.maxUseTimes
    (useDayPeriod ≥ config.minUseDays, core)

end BundleActiveCore

/-! ### The days of use -/

namespace ServiceState

/-- What the service knows of a bundle day by day: the rows of its user in the tables before the current
day, and the entries in memory. -/
def dailyEntries (s : ServiceState) (userId : ℤ) (bundleName : String) :
    List (ℤ × BundleActivePackageStats) :=
  let stats := s.currentStats .daily
  ((s.database.sortedTableArray .daily).filter (· < stats.beginTime)).flatMap (fun t =>
      (((s.files.packageTables .daily).rows t).filter fun row =>
        row.userId = userId ∧ row.bundleName = bundleName).map fun row =>
          (t, DatabaseState.loadedStats t row)) ++
    ((stats.bundleStats.toList.map Prod.snd).filter fun usageStats =>
      usageStats.bundleName = bundleName).map fun usageStats => (stats.beginTime, usageStats)

/-- The days, from one on, of the entries with a start count in the range of the configuration. -/
def countedDays (s : ServiceState) (config : AppUsePeriodicallyConfig) (startTime today userId : ℤ)
    (bundleName : String) : List ℤ :=
  ((s.dailyEntries userId bundleName).filter fun entry =>
    startTime ≤ entry.1 ∧ entry.1 ≤ today ∧ config.minUseTimes ≤ entry.2.startCount ∧
      entry.2.startCount ≤ config.maxUseTimes).map Prod.fst

end ServiceState

/-- What the code relies on in the time zone: a day starts before each of its times, and all times from
there on belong to it. -/
structure TimeZone.DayStarts (tz : TimeZone) : Prop where
  le : ∀ t, 0 < t → getIntervalTypeStartTime tz t .daily ≤ t
  same : ∀ t t', 0 < t → t ≤ t' → getIntervalTypeStartTime tz t' .daily ≤ t →
    getIntervalTypeStartTime tz t .daily = getIntervalTypeStartTime tz t' .daily

end DeviceUsageStats
