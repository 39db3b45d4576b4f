import DeviceUsageStats.Spec.PeriodStats
import DeviceUsageStats.Spec.Tables

/-! The database object of a user service (`bundle_active_usage_database.cpp`,
`bundle_active_binary_search.cpp`). Each object caches the start times of the package tables and the
names of the event, module and form tables; the files under it are shared by all services of the
process. A cached name is the start time in it, `none` is `unknownTableName`. -/

namespace DeviceUsageStats

def maxFilesEveryIntervalType : IntervalType → ℕ
  | .daily => 30
  | .weekly => 30
  | .monthly => 12
  | .yearly => 10

def eventBeginTimeInitialValue : ℤ := -1

structure BundleActiveUsageDatabase where
  sortedTableArray : IntervalType → List ℤ := fun _ => []
  eventTableName : Option ℤ := none
  moduleRecordsTableName : Option ℤ := none
  formRecordsTableName : Option ℤ := none
  eventBeginTime : ℤ := eventBeginTimeInitialValue
  debugDatabase : Bool := false

structure DatabaseState extends BundleActiveUsageDatabase, DatabaseFiles

/-- `ParseStartTime` of a cached name: a sign is not a digit. -/
def parseStartTime (startTime : ℤ) : ℤ := |startTime|

/-! ### Searches in the sorted start times -/

/-- The loop of `NearIndexOnOrAfterCurrentTime`, with the last probe `mid` and its `tableTime`. -/
def nearIndexLoop (currentTime : ℤ) (sortedTableArray : List ℤ) (low high mid tableTime : ℤ) : ℤ :=
  if low ≤ high then
    let mid := (high + low) / 2
    let tableTime := sortedTableArray.getD mid.toNat 0
    if currentTime > tableTime then
      nearIndexLoop currentTime sortedTableArray (mid + 1) high mid tableTime
    else if currentTime < tableTime then
      nearIndexLoop currentTime sortedTableArray low (mid - 1) mid tableTime
    else mid
  else if currentTime < tableTime then mid
  else if currentTime > tableTime ∧ low < sortedTableArray.length then low
  else -1
termination_by (high + 1 - low).toNat
decreasing_by all_goals omega

def nearIndexOnOrAfterCurrentTime (currentTime : ℤ) (sortedTableArray : List ℤ) : ℤ :=
  nearIndexLoop currentTime sortedTableArray 0 (sortedTableArray.length - 1) (-1) (-1)

def nearIndexOnOrBeforeCurrentTime (currentTime : ℤ) (sortedTableArray : List ℤ) : ℤ :=
  let index := nearIndexOnOrAfterCurrentTime currentTime sortedTableArray
  if index < 0 then sortedTableArray.length - 1
  else if sortedTableArray.getD index.toNat 0 = currentTime then index
  else index - 1

def binarySearchLoop (tableNameArray : List ℤ) (targetValue low high : ℤ) : ℤ :=
  if low ≤ high then
    let mid := (low + high) / 2
    let midValue := tableNameArray.getD mid.toNat 0
    if midValue < targetValue then binarySearchLoop tableNameArray targetValue (mid + 1) high
    else if midValue > targetValue then binarySearchLoop tableNameArray targetValue low (mid - 1)
    else mid
  else -1
termination_by (high + 1 - low).toNat
decreasing_by all_goals omega

def binarySearch (tableNameArray : List ℤ) (targetValue : ℤ) : ℤ :=
  binarySearchLoop tableNameArray targetValue 0 (tableNameArray.length - 1)

namespace DatabaseState

/-! ### Table maintenance -/

def deletePackageTable (d : DatabaseState) (i : IntervalType) (tableTime : ℤ) : DatabaseState :=
  { d with
    packageTables := Function.update d.packageTables i ((d.packageTables i).drop tableTime).1 }

/-- `HandleTableInfo` of a package database: with no table the cache stays as it was. -/
def handleTableInfo (d : DatabaseState) (i : IntervalType) : DatabaseState :=
  match (d.packageTables i).keys.getLast? with
  | none => d
  | some lastTable =>
    { d with
      sortedTableArray := Function.update d.sortedTableArray i (d.packageTables i).keys
      eventBeginTime := if i = .daily then lastTable else d.eventBeginTime }

/-- `HandleTableInfo` of the event database: the name is taken from a single table only. -/
def handleEventTableInfo (d : DatabaseState) : DatabaseState :=
  match d.eventTables.keys with
  | [startTime] => { d with eventTableName := some startTime }
  | _ => d

/-- `DeleteExcessiveTableData` of a package database: the oldest tables over the cap go. -/
def deleteExcessiveTableData (d : DatabaseState) (i : IntervalType) : DatabaseState :=
  let deleteNumber := (d.sortedTableArray i).length - maxFilesEveryIntervalType i
  let d := ((d.sortedTableArray i).take deleteNumber).foldl (·.deletePackageTable i) d
  { d with
    sortedTableArray :=
      Function.update d.sortedTableArray i ((d.sortedTableArray i).drop deleteNumber) }

def deleteEventRows (d : DatabaseState) (eventTable deleteTimePoint : ℤ) : DatabaseState :=
  if deleteTimePoint ≤ 0 then d
  else
    { d with
      eventTables := d.eventTables.modifyRows eventTable
        (·.filter fun row => ¬ row.timeStamp ≤ deleteTimePoint) }

/-- `DeleteExcessiveTableData` of the event database: events a week older than the newest daily
table go. -/
def deleteExcessiveEventData (d : DatabaseState) : DatabaseState :=
  match d.eventTableName with
  | none => d
  | some eventTable =>
    if d.eventBeginTime = eventBeginTimeInitialValue then d
    else
      d.deleteEventRows eventTable
        (d.eventBeginTime - (if d.debugDatabase then sixDayInMillisMaxDebug else sevenDayInMillisMax)
          - parseStartTime eventTable)

def deleteExcessiveEventTableData (d : DatabaseState) (deleteDays : ℤ) : DatabaseState :=
  match d.eventTableName with
  | none => d
  | some eventTable =>
    if d.eventBeginTime = eventBeginTimeInitialValue then d
    else
      d.deleteEventRows eventTable
        (d.eventBeginTime - (sevenDayInMillisMax - deleteDays * oneDayTime) -
          parseStartTime eventTable)

def createPackageLogTable (d : DatabaseState) (i : IntervalType) (currentTime : ℤ) :
    DatabaseState :=
  { d with
    packageTables := Function.update d.packageTables i ((d.packageTables i).create currentTime) }

/-- The name is cached before the statement runs. -/
def createEventLogTable (d : DatabaseState) (currentTime : ℤ) : DatabaseState :=
  { d with eventTableName := some currentTime, eventTables := d.eventTables.create currentTime }

/-- One round of the loop of `InitEventTable`, from the last name to the first. -/
def initEventTableStep (currentTime : ℤ) (d : DatabaseState) (eventTableTime : ℤ) :
    DatabaseState :=
  if d.eventTableName = none ∧ currentTime ≥ eventTableTime then
    { d with eventTableName := some eventTableTime }
  else { d with eventTables := (d.eventTables.drop eventTableTime).1 }

/-- `InitEventTable`; the table names are sorted as strings. -/
def initEventTable (d : DatabaseState) (currentTime : ℤ) : DatabaseState :=
  if d.eventTableName ≠ none then d
  else
    let eventTables := d.eventTables.keys.insertionSort fun s t => toString s ≤ toString t
    let d := eventTables.reverse.foldl (initEventTableStep currentTime) d
    if d.eventTableName = none then d.createEventLogTable currentTime else d

/-- The tables of a type that start at or after `currentTime` are dropped. The loop of the source
drops and erases at the fixed index `startIndex`. -/
def deleteFutureTables (currentTime : ℤ) (d : DatabaseState) (i : IntervalType) : DatabaseState :=
  let startIndex := nearIndexOnOrAfterCurrentTime currentTime (d.sortedTableArray i)
  if startIndex < 0 then d
  else
    let tableNumber := (d.sortedTableArray i).length
    (List.range (tableNumber - startIndex.toNat)).foldl (fun d _ =>
      let d := d.deletePackageTable i ((d.sortedTableArray i).getD startIndex.toNat 0)
      { d with
        sortedTableArray := Function.update d.sortedTableArray i
          ((d.sortedTableArray i).eraseIdx startIndex.toNat) }) d

def initDatabaseTableInfo (d : DatabaseState) (currentTime : ℤ) : DatabaseState :=
  let d := IntervalType.all.foldl (fun d i => (d.handleTableInfo i).deleteExcessiveTableData i) d
  let d := d.handleEventTableInfo.deleteExcessiveEventData
  let d := IntervalType.all.foldl (deleteFutureTables currentTime) d
  let d := match d.eventTableName with
    | none => d
    | some eventTable =>
      if currentTime < parseStartTime eventTable then
        { d with
          eventTables := (d.eventTables.drop (parseStartTime eventTable)).1
          eventTableName := none }
      else d
  d.initEventTable currentTime

/-- `GetOverdueTableCreateTime` and the drops after it in `RemoveOldData`. -/
def removeOverdueTables (currentTime : ℤ) (d : DatabaseState) (i : IntervalType) : DatabaseState :=
  let calendar : BundleActiveCalendar := { time := currentTime, debug := d.debugDatabase }
  let threshold := (calendar.increase i (-1 * maxFilesEveryIntervalType i)).time
  ((d.packageTables i).keys.filter (· < threshold)).foldl (·.deletePackageTable i) d

def removeOldData (d : DatabaseState) (currentTime : ℤ) : DatabaseState :=
  let d := [IntervalType.yearly, .monthly, .weekly, .daily].foldl (removeOverdueTables currentTime) d
  IntervalType.all.foldl (fun d i => (d.handleTableInfo i).deleteExcessiveTableData i) d

/-- `RenameTableName` of a package table; a failed rename is not noticed. -/
def renamePackageTable (d : DatabaseState) (i : IntervalType) (oldTime newTime : ℤ) :
    DatabaseState :=
  { d with
    packageTables :=
      Function.update d.packageTables i ((d.packageTables i).rename oldTime newTime).1 }

def renewPackageTable (timeDiff : ℤ) (i : IntervalType) (d : DatabaseState) (tableTime : ℤ) :
    DatabaseState :=
  if tableTime + timeDiff < 0 then d.deletePackageTable i tableTime
  else d.renamePackageTable i tableTime (tableTime + timeDiff)

def renewPackageTables (timeDiff : ℤ) (d : DatabaseState) (i : IntervalType) : DatabaseState :=
  if d.sortedTableArray i = [] then d
  else
    let d := (d.sortedTableArray i).foldl (renewPackageTable timeDiff i) d
    let d := { d with sortedTableArray := Function.update d.sortedTableArray i [] }
    (d.handleTableInfo i).deleteExcessiveTableData i

def renewEventTable (d : DatabaseState) (timeDiff : ℤ) : DatabaseState :=
  match d.eventTableName with
  | none => d
  | some eventTable =>
    let oldTime := parseStartTime eventTable
    let newTime := oldTime + timeDiff
    if newTime < 0 then
      let (eventTables, deleted) := d.eventTables.drop oldTime
      { d with
        eventTables := eventTables
        eventTableName := if deleted then none else d.eventTableName }
    else
      let (eventTables, renamed) := d.eventTables.rename oldTime newTime
      { d with
        eventTables := eventTables
        eventTableName := if renamed then some newTime else d.eventTableName }

/-- The module table is renamed first; the form table only after that has succeeded. -/
def renewRecordTables (d : DatabaseState) (timeDiff : ℤ) : DatabaseState :=
  match d.formRecordsTableName, d.moduleRecordsTableName with
  | some _, some moduleTable =>
    let oldTime := parseStartTime moduleTable
    let newTime := oldTime + timeDiff
    let (moduleTables, moduleRenamed) := CreatedTables.rename d.moduleTables oldTime newTime
    let (formTables, formRenamed) :=
      if moduleRenamed then CreatedTables.rename d.formTables oldTime newTime
      else (d.formTables, false)
    { d with
      moduleTables := moduleTables
      formTables := formTables
      moduleRecordsTableName := if formRenamed then some newTime else d.moduleRecordsTableName
      formRecordsTableName := if formRenamed then some newTime else d.formRecordsTableName }
  | _, _ => d

def renewTableTime (d : DatabaseState) (timeDiff : ℤ) : DatabaseState :=
  let d := IntervalType.all.foldl (renewPackageTables timeDiff) d
  (d.renewEventTable timeDiff).renewRecordTables timeDiff

/-! ### Flushes and loads -/

def packageLogRow (stats : BundleActivePeriodStats) (usageStats : BundleActivePackageStats) :
    PackageLogRow :=
  { userId := stats.userId
    bundleName := usageStats.bundleName
    bundleStartedCount := usageStats.startCount
    lastTime := if usageStats.lastTimeUsed = -1 then usageStats.lastTimeUsed
      else usageStats.lastTimeUsed - stats.beginTime
    lastTimeContinuousTask :=
      if usageStats.lastContiniousTaskUsed = -1 then usageStats.lastContiniousTaskUsed
      else usageStats.lastContiniousTaskUsed - stats.beginTime
    totalTime := usageStats.totalInFrontTime
    totalTimeContinuousTask := usageStats.totalContiniousTaskUsedTime
    uid := usageStats.uid }

/-- `userId = ? and bundleName = ? and uid = ?`. -/
def sameBundle (row row' : PackageLogRow) : Bool :=
  row.userId = row'.userId ∧ row.bundleName = row'.bundleName ∧ row.uid = row'.uid

/-- One round of the loop of `FlushPackageInfo` on the rows of the table and the rows collected for
the insert after the loop. -/
def flushPackageStep (stats : BundleActivePeriodStats)
    (rows : List PackageLogRow × List PackageLogRow) (usageStats : BundleActivePackageStats) :
    List PackageLogRow × List PackageLogRow :=
  if usageStats.totalInFrontTime = 0 ∧ usageStats.totalContiniousTaskUsedTime = 0 then rows
  else
    let values := packageLogRow stats usageStats
    if rows.1.any (sameBundle · values) then
      (rows.1.map fun row => if sameBundle row values then values else row, rows.2)
    else (rows.1, rows.2 ++ [values])

def flushPackageRows (stats : BundleActivePeriodStats) (rows : List PackageLogRow) :
    List PackageLogRow :=
  let (rows, inserted) :=
    (stats.bundleStats.toList.map Prod.snd).foldl (flushPackageStep stats) (rows, [])
  rows ++ inserted

def flushPackageInfo (d : DatabaseState) (i : IntervalType) (stats : BundleActivePeriodStats) :
    DatabaseState :=
  { d with
    packageTables := Function.update d.packageTables i
      ((d.packageTables i).modifyRows stats.beginTime (flushPackageRows stats)) }

def addPackageTable (d : DatabaseState) (i : IntervalType) (beginTime : ℤ) : DatabaseState :=
  let d := d.createPackageLogTable i beginTime
  let d :=
    if i = .daily then { d with eventBeginTime := beginTime }.deleteExcessiveEventData else d
  let d :=
    { d with
      sortedTableArray := Function.update d.sortedTableArray i
        ((d.sortedTableArray i ++ [beginTime]).insertionSort (· ≤ ·)) }
  d.deleteExcessiveTableData i

def updateBundleUsageData (d : DatabaseState) (i : IntervalType)
    (stats : BundleActivePeriodStats) : DatabaseState :=
  let packageTableIndex := binarySearch (d.sortedTableArray i) stats.beginTime
  let d := if packageTableIndex < 0 then d.addPackageTable i stats.beginTime else d
  d.flushPackageInfo i stats

def eventLogRow (stats : BundleActivePeriodStats) (eventTableTime : ℤ)
    (event : BundleActiveEvent) : EventLogRow :=
  { userId := stats.userId
    bundleName := event.bundleName
    eventId := event.eventId
    timeStamp := event.timeStamp - eventTableTime
    abilityId := event.abilityId
    uid := event.uid }

def updateEventData (d : DatabaseState) (stats : BundleActivePeriodStats) : DatabaseState :=
  if stats.events.events = [] then d
  else
    let d := d.initEventTable stats.beginTime
    match d.eventTableName with
    | none => d
    | some eventTable =>
      { d with
        eventTables := d.eventTables.modifyRows eventTable
          (· ++ stats.events.events.map (eventLogRow stats (parseStartTime eventTable))) }

/-- `GetCurrentBundleStats` on one row: an absolute time is rebuilt from the start of the table. -/
def loadedStats (currentPackageTime : ℤ) (row : PackageLogRow) : BundleActivePackageStats :=
  { bundleName := row.bundleName
    startCount := row.bundleStartedCount
    lastTimeUsed := if row.lastTime = -1 then -1 else row.lastTime + currentPackageTime
    lastContiniousTaskUsed :=
      if row.lastTimeContinuousTask = -1 then -1
      else row.lastTimeContinuousTask + currentPackageTime
    totalInFrontTime := row.totalTime
    totalContiniousTaskUsedTime := row.totalTimeContinuousTask
    uid := row.uid }

def loadedBundleStats (currentPackageTime : ℤ) (rows : List PackageLogRow) :
    Std.TreeMap String BundleActivePackageStats :=
  rows.foldl (fun m row =>
    m.insertIfNew (getBundleUsageKey row.bundleName row.uid)
      (loadedStats currentPackageTime row)) {}

/-- `GetCurrentUsageData`: the rows of the user in the newest table of the cache. -/
def getCurrentUsageData (d : DatabaseState) (uids : PackageContainUidMap) (i : IntervalType)
    (userId : ℤ) : Option BundleActivePeriodStats × DatabaseState × PackageContainUidMap :=
  match (d.sortedTableArray i).getLast? with
  | none => (none, d, uids)
  | some currentPackageTime =>
    let rows := ((d.packageTables i).rows currentPackageTime).filter (·.userId = userId)
    (some
      { userId := userId
        beginTime := currentPackageTime
        bundleStats := loadedBundleStats currentPackageTime rows },
      if i = .daily then { d with eventBeginTime := currentPackageTime } else d,
      rows.foldl (fun uids row => uids.insertPackageUid row.bundleName row.uid) uids)

end DatabaseState

end DeviceUsageStats
