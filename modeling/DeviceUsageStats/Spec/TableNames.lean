import DeviceUsageStats.Lib.LeadingInteger
import DeviceUsageStats.Spec.RecordTables
import DeviceUsageStats.Spec.SharedDatabase

/-! The tables as the database object knows them (`bundle_active_usage_database.cpp`): by names, which it
makes from start times and takes apart again. The names of a database stand in the order of
`sqlite_master`; what the tables hold is left out. -/

namespace DeviceUsageStats

/-! ### Names -/

inductive TimedTable where
  | packageLog
  | eventLog
  | moduleRecordLog
  | formRecordLog
  deriving DecidableEq, Repr

namespace TimedTable

def stem : TimedTable → String
  | packageLog => "PackageLog"
  | eventLog => "DeviceEventLog"
  | moduleRecordLog => "ModuleRecordLog"
  | formRecordLog => "FormRecordLog"

def tableName (table : TimedTable) (startTime : ℤ) : String := table.stem ++ toString startTime

end TimedTable

def unknownTableName : String := "unknownTableName"

def dbNameMaxLength : ℕ := 100

/-- The loop of `ParseStartTime`: the text from its first digit on, all of it if it has none. -/
def fromFirstDigit (text : List Char) : List Char :=
  if text.any Char.isDigit then text.dropWhile (!·.isDigit) else text

/-- `ParseStartTime`; `atoll` of a number that fits its type. -/
def parseTableName (tableName : String) : ℤ :=
  if tableName = "" then -1
  else if tableName.length > dbNameMaxLength then -1
  else LeadingInteger.value (fromFirstDigit tableName.toList)

def nameContains (text : String) (tableName : String) : Bool :=
  decide (text.toList <:+: tableName.toList)

/-! ### The object and its databases -/

structure NamedDatabases where
  packageNames : IntervalType → List String := fun _ => []
  eventNames : List String := []
  groupNames : List String := []

structure NamedState extends NamedDatabases where
  sortedTableArray : IntervalType → List ℤ := fun _ => []
  eventTableName : String := unknownTableName
  moduleRecordsTableName : String := unknownTableName
  formRecordsTableName : String := unknownTableName
  eventBeginTime : ℤ := eventBeginTimeInitialValue
  debugDatabase : Bool := false

/-- SQL takes a name without a sign. -/
def acceptedName (tableName : String) : Bool := '-' ∉ tableName.toList

namespace SqliteMaster

variable (names : List String) (tableName newName : String)

def create : List String :=
  if acceptedName tableName = true ∧ tableName ∉ names then names ++ [tableName] else names

def drop : List String × Bool := (names.erase tableName, names.contains tableName)

def rename : List String × Bool :=
  if tableName ∈ names ∧ newName ∉ names ∧ acceptedName newName = true then
    (names.map fun name => if name = tableName then newName else name, true)
  else (names, false)

end SqliteMaster

namespace NamedState

variable (n : NamedState)

def setPackageNames (i : IntervalType) (names : List String) : NamedState :=
  { n with packageNames := Function.update n.packageNames i names }

def deletePackageTable (i : IntervalType) (tableTime : ℤ) : NamedState :=
  n.setPackageNames i
    (SqliteMaster.drop (n.packageNames i) (TimedTable.packageLog.tableName tableTime)).1

def deleteEventTable (tableTime : ℤ) : NamedState × Bool :=
  let (eventNames, deleted) :=
    SqliteMaster.drop n.eventNames (TimedTable.eventLog.tableName tableTime)
  ({ n with eventNames := eventNames }, deleted)

def handleTableInfo (i : IntervalType) : NamedState :=
  if n.packageNames i = [] then n
  else
    let times := ((n.packageNames i).map parseTableName).insertionSort (· ≤ ·)
    { n with
      sortedTableArray := Function.update n.sortedTableArray i times
      eventBeginTime := if i = .daily then times.getLast?.getD n.eventBeginTime
        else n.eventBeginTime }

def handleEventTableInfo : NamedState :=
  match n.eventNames with
  | [tableName] => { n with eventTableName := tableName }
  | _ => n

def createPackageLogTable (i : IntervalType) (currentTime : ℤ) : NamedState :=
  n.setPackageNames i
    (SqliteMaster.create (n.packageNames i) (TimedTable.packageLog.tableName currentTime))

def createEventLogTable (currentTime : ℤ) : NamedState :=
  let eventTableName := TimedTable.eventLog.tableName currentTime
  { n with
    eventTableName := eventTableName
    eventNames := SqliteMaster.create n.eventNames eventTableName }

def initEventTableStep (currentTime : ℤ) (n : NamedState) (tableName : String) : NamedState :=
  let eventTableTime := parseTableName tableName
  if n.eventTableName = unknownTableName ∧ currentTime ≥ eventTableTime then
    { n with eventTableName := tableName }
  else (n.deleteEventTable eventTableTime).1

def initEventTable (currentTime : ℤ) : NamedState :=
  if n.eventTableName ≠ unknownTableName then n
  else
    let eventTables := n.eventNames.insertionSort (· ≤ ·)
    let n := eventTables.reverse.foldl (initEventTableStep currentTime) n
    if n.eventTableName = unknownTableName then n.createEventLogTable currentTime else n

/-- One round of the loop of `InitUsageGroupDatabase` for the records. -/
def initUsageGroupStep (n : NamedState) (tableName : String) : NamedState :=
  if nameContains TimedTable.moduleRecordLog.stem tableName then
    { n with moduleRecordsTableName := tableName }
  else if nameContains TimedTable.formRecordLog.stem tableName then
    { n with formRecordsTableName := tableName }
  else n

def initUsageGroupDatabase : NamedState := n.groupNames.foldl initUsageGroupStep n

def createModuleRecordTable (timeStamp : ℤ) : NamedState :=
  let moduleRecord := TimedTable.moduleRecordLog.tableName timeStamp
  { n with
    moduleRecordsTableName := moduleRecord
    groupNames := SqliteMaster.create n.groupNames moduleRecord }

def createFormRecordTable (timeStamp : ℤ) : NamedState :=
  let formRecord := TimedTable.formRecordLog.tableName timeStamp
  { n with
    formRecordsTableName := formRecord
    groupNames := SqliteMaster.create n.groupNames formRecord }

def createRecordTable (timeStamp : ℤ) : NamedState :=
  let n := if n.moduleRecordsTableName = unknownTableName then n.createModuleRecordTable timeStamp
    else n
  if n.formRecordsTableName = unknownTableName then n.createFormRecordTable timeStamp else n

def renewEventTable (timeDiff : ℤ) : NamedState :=
  if n.eventTableName = unknownTableName then n
  else
    let oldTime := parseTableName n.eventTableName
    let newTime := oldTime + timeDiff
    if newTime < 0 then
      let (n, deleted) := n.deleteEventTable oldTime
      if deleted then { n with eventTableName := unknownTableName } else n
    else
      let newName := TimedTable.eventLog.tableName newTime
      let (eventNames, renamed) :=
        SqliteMaster.rename n.eventNames (TimedTable.eventLog.tableName oldTime) newName
      { n with
        eventNames := eventNames
        eventTableName := if renamed then newName else n.eventTableName }

/-- `RenewTableTime` for the record tables, with `RenameTableName` of the application-group database. -/
def renewRecordTables (timeDiff : ℤ) : NamedState :=
  if n.formRecordsTableName = unknownTableName ∨ n.moduleRecordsTableName = unknownTableName then n
  else
    let oldTime := parseTableName n.moduleRecordsTableName
    let newTime := oldTime + timeDiff
    let newModule := TimedTable.moduleRecordLog.tableName newTime
    let newForm := TimedTable.formRecordLog.tableName newTime
    let (groupNames, moduleRenamed) :=
      SqliteMaster.rename n.groupNames (TimedTable.moduleRecordLog.tableName oldTime) newModule
    let (groupNames, formRenamed) :=
      if moduleRenamed then
        SqliteMaster.rename groupNames (TimedTable.formRecordLog.tableName oldTime) newForm
      else (groupNames, false)
    { n with
      groupNames := groupNames
      moduleRecordsTableName := if formRenamed then newModule else n.moduleRecordsTableName
      formRecordsTableName := if formRenamed then newForm else n.formRecordsTableName }

def deleteExcessiveTableData (i : IntervalType) : NamedState :=
  let deleteNumber := (n.sortedTableArray i).length - maxFilesEveryIntervalType i
  let n := ((n.sortedTableArray i).take deleteNumber).foldl (·.deletePackageTable i) n
  { n with
    sortedTableArray :=
      Function.update n.sortedTableArray i ((n.sortedTableArray i).drop deleteNumber) }

/-- The loop of `InitDatabaseTableInfo` over the tables of a type that start too late. -/
def deleteFutureTables (currentTime : ℤ) (n : NamedState) (i : IntervalType) : NamedState :=
  let startIndex := nearIndexOnOrAfterCurrentTime currentTime (n.sortedTableArray i)
  if startIndex < 0 then n
  else
    let tableNumber := (n.sortedTableArray i).length
    (List.range (tableNumber - startIndex.toNat)).foldl (fun n _ =>
      let n := n.deletePackageTable i ((n.sortedTableArray i).getD startIndex.toNat 0)
      { n with
        sortedTableArray := Function.update n.sortedTableArray i
          ((n.sortedTableArray i).eraseIdx startIndex.toNat) }) n

def initDatabaseTableInfo (currentTime : ℤ) : NamedState :=
  let n := IntervalType.all.foldl (fun n i => (n.handleTableInfo i).deleteExcessiveTableData i) n
  let n := n.handleEventTableInfo
  let n := IntervalType.all.foldl (deleteFutureTables currentTime) n
  let n :=
    if n.eventTableName ≠ unknownTableName ∧ currentTime < parseTableName n.eventTableName then
      { (n.deleteEventTable (parseTableName n.eventTableName)).1 with
        eventTableName := unknownTableName }
    else n
  n.initEventTable currentTime

/-- What `UpdateBundleUsageData` does for a start time without a table. -/
def addPackageTable (i : IntervalType) (beginTime : ℤ) : NamedState :=
  let n := n.createPackageLogTable i beginTime
  let n := if i = .daily then { n with eventBeginTime := beginTime } else n
  let n :=
    { n with
      sortedTableArray := Function.update n.sortedTableArray i
        ((n.sortedTableArray i ++ [beginTime]).insertionSort (· ≤ ·)) }
  n.deleteExcessiveTableData i

def updateBundleUsageData (i : IntervalType) (beginTime : ℤ) : NamedState :=
  if binarySearch (n.sortedTableArray i) beginTime < 0 then n.addPackageTable i beginTime else n

def getOverdueTableCreateTime (i : IntervalType) (currentTimeMillis : ℤ) : List ℤ :=
  ((n.packageNames i).filter fun tableName => parseTableName tableName < currentTimeMillis).map
    parseTableName

def removeOverdueTables (currentTime : ℤ) (n : NamedState) (i : IntervalType) : NamedState :=
  let calendar : BundleActiveCalendar := { time := currentTime, debug := n.debugDatabase }
  let threshold := (calendar.increase i (-1 * maxFilesEveryIntervalType i)).time
  (n.getOverdueTableCreateTime i threshold).foldl (·.deletePackageTable i) n

def removeOldData (currentTime : ℤ) : NamedState :=
  let n := [IntervalType.yearly, .monthly, .weekly, .daily].foldl (removeOverdueTables currentTime) n
  IntervalType.all.foldl (fun n i => (n.handleTableInfo i).deleteExcessiveTableData i) n

/-- The round of the loop of `RenewTableTime` for a package table. -/
def renewPackageTable (timeDiff : ℤ) (i : IntervalType) (n : NamedState) (tableTime : ℤ) :
    NamedState :=
  let newTime := tableTime + timeDiff
  if newTime < 0 then n.deletePackageTable i tableTime
  else n.setPackageNames i (SqliteMaster.rename (n.packageNames i)
    (TimedTable.packageLog.tableName tableTime) (TimedTable.packageLog.tableName newTime)).1

def renewPackageTables (timeDiff : ℤ) (n : NamedState) (i : IntervalType) : NamedState :=
  if n.sortedTableArray i = [] then n
  else
    let n := (n.sortedTableArray i).foldl (renewPackageTable timeDiff i) n
    let n := { n with sortedTableArray := Function.update n.sortedTableArray i [] }
    (n.handleTableInfo i).deleteExcessiveTableData i

def renewTableTime (timeDiff : ℤ) : NamedState :=
  let n := IntervalType.all.foldl (renewPackageTables timeDiff) n
  (n.renewEventTable timeDiff).renewRecordTables timeDiff

end NamedState

/-! ### Runs -/

/-- What the database object does with tables. -/
inductive TableOp where
  | database (op : DatabaseOp)
  | initUsageGroupDatabase
  | updateModuleData (moduleRecords : ModuleRecords) (timeStamp : ℤ)

def NamedState.applyTable (n : NamedState) : TableOp → NamedState
  | .database (.initDatabaseTableInfo currentTime debugDatabase) =>
    NamedState.initDatabaseTableInfo
      { debugDatabase := debugDatabase, toNamedDatabases := n.toNamedDatabases } currentTime
  | .database (.updateBundleUsageData i stats) => n.updateBundleUsageData i stats.beginTime
  | .database (.updateEventData stats) =>
    if stats.events.events = [] then n else n.initEventTable stats.beginTime
  | .database (.renewTableTime timeDiff) => n.renewTableTime timeDiff
  | .database (.removeOldData currentTime) => n.removeOldData currentTime
  | .initUsageGroupDatabase => n.initUsageGroupDatabase
  | .updateModuleData _ timeStamp => n.createRecordTable timeStamp

/-- The same where a table is known by its start time. -/
def DatabaseState.applyTable (d : DatabaseState) : TableOp → DatabaseState
  | .database op => d.apply op
  | .initUsageGroupDatabase => d.initUsageGroupDatabase
  | .updateModuleData moduleRecords timeStamp => d.updateModuleData moduleRecords timeStamp

end DeviceUsageStats
