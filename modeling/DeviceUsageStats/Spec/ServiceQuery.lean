import DeviceUsageStats.Spec.Core

/-! The queries of a user's service (`bundle_active_user_service.cpp`): each answers the past from
the database and the current period from memory. The module ends with the runs of one service among
the others of the process. -/

namespace DeviceUsageStats

namespace ServiceState

open DatabaseState (countEvent)

variable (tz : TimeZone)

/-- The interval type that a query is about; `PERIOD_BEST` asks the database. -/
def queriedInterval (s : ServiceState) (intervalType beginTime : ℤ) : Option IntervalType :=
  if intervalType = periodBest then
    some ((s.databaseState.getOptimalIntervalType beginTime).getD .daily)
  else IntervalType.ofIndex intervalType

def isTimeLegal (beginTime endTime : ℤ) (usageStats : BundleActivePackageStats) : Bool :=
  (usageStats.totalInFrontTime ≠ 0 ∨ usageStats.totalContiniousTaskUsedTime ≠ 0) ∧
    usageStats.lastTimeUsed ≥ beginTime ∧ usageStats.lastTimeUsed ≤ endTime

def memoryStats (stats : BundleActivePeriodStats) (beginTime endTime userId : ℤ)
    (bundleName : String) : List BundleActivePackageStats :=
  (stats.bundleStats.toList.map fun entry => { entry.2 with userId := userId }).filter
    fun usageStats => (bundleName = "" ∨ usageStats.bundleName = bundleName) ∧
      isTimeLegal beginTime endTime usageStats

/-- `QueryBundleStatsInfos`; its memory half leaves the user id in every entry it meets. -/
def queryBundleStatsInfos (s : ServiceState) (intervalType beginTime endTime userId : ℤ)
    (bundleName : String) :
    Except QueryError (List BundleActivePackageStats) × ServiceState :=
  match s.queriedInterval intervalType beginTime with
  | none => (.error .intervalNumber, s)
  | some i =>
    let stats := s.currentStats i
    if stats.endTime = 0 then
      if beginTime > stats.beginTime + periodLength s.debugUserService i then
        (.error .timeOutOfRange, s)
      else
        (.ok (s.databaseState.queryDatabaseUsageStats i beginTime endTime userId bundleName), s)
    else if beginTime ≥ stats.endTime then (.error .timeOutOfRange, s)
    else
      let truncatedEndTime := min stats.beginTime endTime
      let packageStats := s.databaseState.queryDatabaseUsageStats i beginTime truncatedEndTime
        userId bundleName
      if endTime > stats.beginTime then
        (.ok (packageStats ++ memoryStats stats beginTime endTime userId bundleName),
          s.setStats i
            { stats with
              bundleStats := Entries.mapEntries
                (fun _ usageStats => { usageStats with userId := userId }) stats.bundleStats })
      else (.ok packageStats, s)

def cachedEvents (stats : BundleActivePeriodStats) (beginTime endTime : ℤ) :
    List BundleActiveEvent :=
  (stats.events.events.drop (stats.events.findBestIndex beginTime).toNat).filter
    fun event => event.timeStamp ≤ endTime

def queryBundleEvents (s : ServiceState) (beginTime endTime userId : ℤ) (bundleName : String) :
    Except QueryError (List BundleActiveEvent) :=
  let stats := s.currentStats .daily
  if beginTime ≥ stats.endTime then .error .timeOutOfRange
  else
    let events := s.databaseState.queryDatabaseEvents beginTime endTime userId bundleName
    if stats.endTime ≠ 0 ∧ endTime > stats.beginTime then
      .ok (events ++ (cachedEvents stats beginTime endTime).filter fun event =>
        bundleName = "" ∨ event.bundleName = bundleName)
    else .ok events

/-- `DeleteOutOfLimitEvents` of the service interface (`bundle_active_service.cpp`): the events at the
front go. -/
def deleteOutOfLimitEvents (bundleActiveEvents : List BundleActiveEvent) (reserveCount : ℕ) :
    List BundleActiveEvent :=
  if bundleActiveEvents.length > reserveCount then
    bundleActiveEvents.drop (bundleActiveEvents.length - reserveCount)
  else bundleActiveEvents

def systemEvents : List EventId := [.systemLock, .systemUnlock, .systemSleep, .systemWakeup]

def getCachedSystemEvents (stats : BundleActivePeriodStats) (beginTime endTime : ℤ)
    (systemEventStats : Std.TreeMap String BundleActiveEventStats) :
    Std.TreeMap String BundleActiveEventStats :=
  ((cachedEvents stats beginTime endTime).filter fun event => event.eventId ∈ systemEvents).foldl
    (fun m event => countEvent { name := event.bundleName, eventId := event.eventId } m)
    systemEventStats

def queryDeviceEventStats (s : ServiceState) (beginTime endTime userId : ℤ) :
    Except QueryError (List BundleActiveEventStats) :=
  let stats := s.currentStats .daily
  if beginTime ≥ stats.endTime then .error .timeOperationFailed
  else
    let systemEventStats := systemEvents.foldl (fun m eventId =>
      s.databaseState.queryDeviceEventStats eventId beginTime endTime m userId) {}
    let systemEventStats :=
      if stats.endTime ≠ 0 ∧ endTime > stats.beginTime then
        getCachedSystemEvents stats beginTime endTime systemEventStats
      else systemEventStats
    .ok (systemEventStats.toList.map Prod.snd)

def getCachedNotificationEvents (stats : BundleActivePeriodStats) (beginTime endTime : ℤ)
    (notificationEventStats : Std.TreeMap String BundleActiveEventStats) :
    Std.TreeMap String BundleActiveEventStats :=
  ((cachedEvents stats beginTime endTime).filter
    fun event => event.eventId = .notificationSeen).foldl
      (fun m event => countEvent { name := event.bundleName, eventId := .notificationSeen } m)
      notificationEventStats

def queryNotificationEventStats (s : ServiceState) (beginTime endTime userId : ℤ) :
    Except QueryError (List BundleActiveEventStats) :=
  let stats := s.currentStats .daily
  if beginTime ≥ stats.endTime then .error .timeOperationFailed
  else
    let notificationEventStats := s.databaseState.queryNotificationEventStats .notificationSeen
      beginTime endTime {} userId
    let notificationEventStats :=
      if stats.endTime ≠ 0 ∧ endTime > stats.beginTime then
        getCachedNotificationEvents stats beginTime endTime notificationEventStats
      else notificationEventStats
    .ok (notificationEventStats.toList.map Prod.snd)

end ServiceState

/-! ### Runs of one service -/

/-- What happens to a service: its own operations, and whatever the services of the other users
leave in the process. -/
inductive ServiceOp where
  | reportEvent (event : BundleActiveEvent)
  | reportForShutdown (event : BundleActiveEvent)
  | reportModuleEvent (event : BundleActiveEvent)
  | reportFormEvent (event : BundleActiveEvent)
  | restoreStats (forced : Bool)
  | handleTimeChange (expectedSystemTime actualSystemTime : ℤ)
  | deleteUninstalledBundleStats (bundleName : String) (uid appIndex : ℤ)
  | deleteExcessiveEventTableData (deleteDays : ℤ)
  | queryBundleStatsInfos (intervalType beginTime endTime userId : ℤ) (bundleName : String)
  | otherServices (p : ProcessState)

/-- The wall-clock stamps of a step are positive, as they are after 1970. -/
def ServiceOp.Stamped : ServiceOp → Prop
  | .reportEvent event => 0 < event.timeStamp
  | .reportForShutdown event => 0 < event.timeStamp
  | .handleTimeChange expectedSystemTime actualSystemTime =>
    0 < expectedSystemTime ∧ 0 < actualSystemTime
  | _ => True

instance : DecidablePred ServiceOp.Stamped
  | .reportEvent event => inferInstanceAs (Decidable (0 < event.timeStamp))
  | .reportForShutdown event => inferInstanceAs (Decidable (0 < event.timeStamp))
  | .handleTimeChange expectedSystemTime actualSystemTime =>
    inferInstanceAs (Decidable (0 < expectedSystemTime ∧ 0 < actualSystemTime))
  | .reportModuleEvent _ | .reportFormEvent _ | .restoreStats _
  | .deleteUninstalledBundleStats .. | .deleteExcessiveEventTableData _
  | .queryBundleStatsInfos .. | .otherServices _ => isTrue trivial

namespace ServiceState

variable (tz : TimeZone)

def apply (s : ServiceState) : ServiceOp → ServiceState
  | .reportEvent event => s.reportEvent tz event
  | .reportForShutdown event => s.reportForShutdown tz event
  | .reportModuleEvent event => s.reportModuleEvent event
  | .reportFormEvent event => s.reportFormEvent event
  | .restoreStats forced => s.restoreStats forced
  | .handleTimeChange expectedSystemTime actualSystemTime =>
    BundleActiveCore.handleTimeChange tz expectedSystemTime actualSystemTime s
  | .deleteUninstalledBundleStats bundleName uid appIndex =>
    s.deleteUninstalledBundleStats bundleName uid appIndex
  | .deleteExcessiveEventTableData deleteDays => s.deleteExcessiveEventTableData deleteDays
  | .queryBundleStatsInfos intervalType beginTime endTime userId bundleName =>
    (s.queryBundleStatsInfos intervalType beginTime endTime userId bundleName).2
  | .otherServices p => { s with toProcessState := p }

inductive Run (Allowed : ServiceState → ServiceOp → Prop) : ServiceState → Prop where
  | init (p : ProcessState) (userId : ℤ) (debug : Bool) (timeStamp : ℤ)
    (stamped : 0 < timeStamp) : Run Allowed (init tz p userId debug timeStamp)
  | step {s : ServiceState} (op : ServiceOp) (run : Run Allowed s) (stamped : op.Stamped)
    (allowed : Allowed s op) : Run Allowed (s.apply tz op)

theorem Run.foldl {s : ServiceState} (run : Run tz (fun _ _ => True) s) (ops : List ServiceOp)
    (stamped : ∀ op ∈ ops, op.Stamped) :
    Run tz (fun _ _ => True) (ops.foldl (ServiceState.apply tz) s) := by
  induction ops generalizing s with
  | nil => exact run
  | cons op ops ih =>
    exact ih (run.step op (stamped op (List.mem_cons_self ..)) trivial)
      fun op' h => stamped op' (List.mem_cons_of_mem _ h)

end ServiceState

end DeviceUsageStats
