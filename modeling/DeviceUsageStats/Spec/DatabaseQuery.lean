import DeviceUsageStats.Spec.Database

/-! The queries of the database object (`bundle_active_usage_database.cpp`). -/

namespace DeviceUsageStats

structure BundleActiveEventStats where
  eventId : EventId := .defaultEventId
  name : String := ""
  count : ℤ := 0
  uid : ℤ := defaultUidId
  deriving DecidableEq, Repr

namespace DatabaseState

/-- `GetDbIndex`: the first and the last table of the range, `none` where it returns false. -/
def getDbIndex (d : DatabaseState) (beginTime endTime : ℤ) (i : IntervalType) : Option (ℤ × ℤ) :=
  if endTime ≤ beginTime then none
  else
    let startIndex := nearIndexOnOrBeforeCurrentTime beginTime (d.sortedTableArray i)
    let startIndex := if startIndex < 0 then 0 else startIndex
    let endIndex := nearIndexOnOrBeforeCurrentTime endTime (d.sortedTableArray i)
    if endIndex < 0 then none
    else if (d.sortedTableArray i).getD endIndex.toNat 0 = endTime then
      if endIndex - 1 < 0 then none else some (startIndex, endIndex - 1)
    else some (startIndex, endIndex)

def querySqlCondition (beginTime endTime packageTableTime index startIndex endIndex userId : ℤ)
    (row : PackageLogRow) : Bool :=
  let diff := beginTime - packageTableTime
  let lower := if diff ≥ 0 then diff else 0
  if startIndex = endIndex then
    row.userId = userId ∧ row.lastTime ≥ lower ∧ row.lastTime ≤ endTime - packageTableTime
  else if index = startIndex then row.userId = userId ∧ row.lastTime ≥ lower
  else if index = endIndex then
    row.userId = userId ∧ row.lastTime ≤ endTime - packageTableTime
  else row.userId = userId

def queryTable (d : DatabaseState) (i : IntervalType)
    (beginTime endTime startIndex endIndex userId : ℤ) (bundleName : String) (index : ℤ) :
    List BundleActivePackageStats :=
  let packageTableTime := (d.sortedTableArray i).getD index.toNat 0
  let rows := ((d.packageTables i).rows packageTableTime).filter fun row =>
    querySqlCondition beginTime endTime packageTableTime index startIndex endIndex userId row ∧
      (bundleName ≠ "" → row.bundleName = bundleName)
  rows.map fun row => { loadedStats packageTableTime row with userId := userId }

def queryDatabaseUsageStats (d : DatabaseState) (i : IntervalType) (beginTime endTime userId : ℤ)
    (bundleName : String) : List BundleActivePackageStats :=
  match d.getDbIndex beginTime endTime i with
  | none => []
  | some (startIndex, endIndex) =>
    (List.range (endIndex + 1 - startIndex).toNat).flatMap fun (k : ℕ) =>
      d.queryTable i beginTime endTime startIndex endIndex userId bundleName (startIndex + k)

/-- `JudgeQueryCondition`, with the event table and its start time where the query is valid. -/
def judgeQueryCondition (d : DatabaseState) (beginTime endTime : ℤ) : Option (ℤ × ℤ) :=
  match d.eventTableName with
  | none => none
  | some eventTable =>
    if endTime ≤ beginTime then none
    else if endTime < parseStartTime eventTable then none
    else some (eventTable, parseStartTime eventTable)

/-- `timeStamp >= ? and timeStamp <= ? and userId = ?` of the three event queries. -/
def eventCondition (beginTime endTime eventTableTime userId : ℤ) (row : EventLogRow) : Bool :=
  let diff := beginTime - eventTableTime
  row.timeStamp ≥ (if diff ≥ 0 then diff else 0) ∧ row.timeStamp ≤ endTime - eventTableTime ∧
    row.userId = userId

def loadedEvent (eventTableTime : ℤ) (row : EventLogRow) : BundleActiveEvent :=
  { bundleName := row.bundleName
    eventId := row.eventId
    timeStamp := row.timeStamp + eventTableTime
    abilityId := row.abilityId
    uid := row.uid }

def queryDatabaseEvents (d : DatabaseState) (beginTime endTime userId : ℤ) (bundleName : String) :
    List BundleActiveEvent :=
  match d.judgeQueryCondition beginTime endTime with
  | none => []
  | some (eventTable, eventTableTime) =>
    let rows := (d.eventTables.rows eventTable).filter fun row =>
      eventCondition beginTime endTime eventTableTime userId row ∧
        (bundleName ≠ "" → row.bundleName = bundleName)
    (rows.mergeSort fun row row' => row.timeStamp ≤ row'.timeStamp).map (loadedEvent eventTableTime)

def getSystemEventName : EventId → String
  | .systemLock => operationSystemLock
  | .systemUnlock => operationSystemUnlock
  | .systemSleep => operationSystemSleep
  | .systemWakeup => operationSystemWakeup
  | _ => ""

/-- `QueryDeviceEventStats` of one event id: `insert` keeps an entry that is there already. -/
def queryDeviceEventStats (d : DatabaseState) (eventId : EventId) (beginTime endTime : ℤ)
    (eventStats : Std.TreeMap String BundleActiveEventStats) (userId : ℤ) :
    Std.TreeMap String BundleActiveEventStats :=
  match d.judgeQueryCondition beginTime endTime with
  | none => eventStats
  | some (eventTable, eventTableTime) =>
    let tableRowNumber := (d.eventTables.rows eventTable).countP fun row =>
      eventCondition beginTime endTime eventTableTime userId row ∧ row.eventId = eventId
    if tableRowNumber = 0 then eventStats
    else
      eventStats.insertIfNew (getSystemEventName eventId)
        { name := getSystemEventName eventId, count := tableRowNumber, eventId := eventId }

def countEvent (first : BundleActiveEventStats)
    (eventStats : Std.TreeMap String BundleActiveEventStats) :
    Std.TreeMap String BundleActiveEventStats :=
  match eventStats[first.name]? with
  | some stats => eventStats.insert first.name { stats with count := stats.count + 1 }
  | none => eventStats.insert first.name { first with count := 1 }

def queryNotificationEventStats (d : DatabaseState) (eventId : EventId) (beginTime endTime : ℤ)
    (notificationEventStats : Std.TreeMap String BundleActiveEventStats) (userId : ℤ) :
    Std.TreeMap String BundleActiveEventStats :=
  match d.judgeQueryCondition beginTime endTime with
  | none => notificationEventStats
  | some (eventTable, eventTableTime) =>
    let rows := (d.eventTables.rows eventTable).filter fun row =>
      eventCondition beginTime endTime eventTableTime userId row ∧ row.eventId = eventId
    rows.foldl (fun stats row =>
      countEvent { name := row.bundleName, eventId := row.eventId, uid := row.uid } stats)
      notificationEventStats

/-- `GetOptimalIntervalType`, from the yearly tables down; a later type must be strictly closer. -/
def getOptimalIntervalType (d : DatabaseState) (beginTime : ℤ) : Option IntervalType :=
  (IntervalType.all.reverse.foldl (fun (optimal : Option IntervalType × ℤ) i =>
    let index := nearIndexOnOrBeforeCurrentTime beginTime (d.sortedTableArray i)
    if 0 ≤ index ∧ index < (d.sortedTableArray i).length then
      let diff := |(d.sortedTableArray i).getD index.toNat 0 - beginTime|
      if diff < optimal.2 then (some i, diff) else optimal
    else optimal) (none, int64Max)).1

end DatabaseState

end DeviceUsageStats
