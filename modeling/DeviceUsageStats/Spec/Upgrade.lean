import DeviceUsageStats.Lib.Restart
import DeviceUsageStats.Spec.FirstUseUpgrade
import DeviceUsageStats.Spec.TableNames

/-! The upgrade of the database files (`bundle_active_usage_database_upgrade.cpp`) and the version file that
says whether there is one to do. The statements of the upgrade are recorded: the process may end between any
two of them. Every store opens; a statement on a column that its table lacks fails and changes nothing. -/

namespace DeviceUsageStats

/-- The tables of the database files, without the duration table, which the upgrade leaves out. -/
inductive StoredTable where
  | packageLog (i : IntervalType) (startTime : ℤ)
  | eventLog (startTime : ℤ)
  | moduleRecordLog (startTime : ℤ)
  | formRecordLog (startTime : ℤ)
  | bundleHistoryLog
  deriving DecidableEq, Repr

/-- The columns of version 1 that the upgrade reads, beside user and bundle. -/
inductive FirstColumns where
  | packageLog (bundleStartedCount lastTime lastTimeContinuousTask totalTime totalTimeContinuousTask : ℤ)
  | eventLog (eventId : EventId) (timeStamp : ℤ) (abilityId : String)
  | others
  deriving DecidableEq, Repr

/-- A row; a column that its table lacks has no value. -/
structure StoredRow where
  userId : ℤ
  bundleName : String
  columns : FirstColumns := .others
  uid : Option ℤ := none
  firstUseTime : Option ℤ := none
  deriving DecidableEq, Repr

namespace StoredRow

variable (row : StoredRow)

/-- `GetInt` of the uid; what is read where the column is missing is only used in conditions that no row
meets. -/
def readUid : ℤ := row.uid.getD defaultUidId

def packageLogRow? : Option PackageLogRow :=
  match row.columns with
  | .packageLog bundleStartedCount lastTime lastTimeContinuousTask totalTime totalTimeContinuousTask =>
    some
      { userId := row.userId
        bundleName := row.bundleName
        bundleStartedCount := bundleStartedCount
        lastTime := lastTime
        lastTimeContinuousTask := lastTimeContinuousTask
        totalTime := totalTime
        totalTimeContinuousTask := totalTimeContinuousTask
        uid := row.readUid }
  | _ => none

def eventLogRow? : Option EventLogRow :=
  match row.columns with
  | .eventLog eventId timeStamp abilityId =>
    some
      { userId := row.userId
        bundleName := row.bundleName
        eventId := eventId
        timeStamp := timeStamp
        abilityId := abilityId
        uid := row.readUid }
  | _ => none

end StoredRow

structure UpgradeFiles where
  version : String
  rows : StoredTable → List StoredRow

/-- What the upgrade asks for: the table names of the stores, store by store in the order of
`sqlite_master`, the active accounts, and the uid of a bundle for a user. -/
structure UpgradeContext where
  allTableName : List StoredTable
  activatedOsAccountIds : List ℤ
  getApplicationInfo : String → ℤ → ℤ

inductive UpgradeStatement where
  | addUid (table : StoredTable)
  | updateUid (table : StoredTable) (userId : ℤ) (bundleName : String) (uid : ℤ)
  | addFirstUseTime
  | updateFirstUseTime (userId : ℤ) (bundleName : String) (uid firstUseTime : ℤ)
  | truncateVersion
  | writeVersion (fileVersion : String)

namespace UpgradeFiles

def modifyRows (files : UpgradeFiles) (table : StoredTable) (f : StoredRow → StoredRow) : UpgradeFiles :=
  { files with rows := fun t => if t = table then (files.rows t).map f else files.rows t }

def exec (files : UpgradeFiles) : UpgradeStatement → UpgradeFiles
  | .addUid table =>
    files.modifyRows table fun row => { row with uid := some (row.uid.getD (-1)) }
  | .updateUid table userId bundleName uid =>
    files.modifyRows table fun row =>
      if row.userId = userId ∧ row.bundleName = bundleName then
        { row with uid := row.uid.map fun _ => uid }
      else row
  | .addFirstUseTime =>
    files.modifyRows .bundleHistoryLog fun row =>
      { row with firstUseTime := some (row.firstUseTime.getD maxEndTime) }
  | .updateFirstUseTime userId bundleName uid firstUseTime =>
    files.modifyRows .bundleHistoryLog fun row =>
      if row.userId = userId ∧ row.bundleName = bundleName ∧ row.uid = some uid then
        { row with firstUseTime := row.firstUseTime.map fun _ => firstUseTime }
      else row
  | .truncateVersion => { files with version := "" }
  | .writeVersion fileVersion => { files with version := fileVersion }

end UpgradeFiles

abbrev Upgrading := Restart.Recorded UpgradeFiles UpgradeStatement

namespace UpgradeContext

variable (c : UpgradeContext)

/-- The database object over the files after `HandleTableInfo` of every store. -/
def database (files : UpgradeFiles) : DatabaseState :=
  let packageTable (i : IntervalType) (table : StoredTable) : Option (ℤ × List PackageLogRow) :=
    match table with
    | .packageLog j startTime =>
      if j = i then some (startTime, (files.rows table).filterMap StoredRow.packageLogRow?) else none
    | _ => none
  let eventTable (table : StoredTable) : Option (ℤ × List EventLogRow) :=
    match table with
    | .eventLog startTime => some (startTime, (files.rows table).filterMap StoredRow.eventLogRow?)
    | _ => none
  let d : DatabaseState :=
    { packageTables := fun i => Std.TreeMap.ofList (c.allTableName.filterMap (packageTable i))
      eventTables := Std.TreeMap.ofList (c.allTableName.filterMap eventTable) }
  (IntervalType.all.foldl (fun d i => d.handleTableInfo i) d).handleEventTableInfo

/-- One round of the loop of `UpdateOldDataUid`: the bundle manager is asked once for a key. -/
def updateOldDataUidStep (table : StoredTable) (userId : ℤ) (r : Upgrading × Std.TreeMap String ℤ)
    (bundleName : String) : Upgrading × Std.TreeMap String ℤ :=
  let (r, bundleNameUidMap) := r
  let bundleNameUserIdKey := bundleName ++ toString userId
  match bundleNameUidMap[bundleNameUserIdKey]? with
  | none =>
    let uid := c.getApplicationInfo bundleName userId
    (r.exec UpgradeFiles.exec (.updateUid table userId bundleName uid),
      bundleNameUidMap.insert bundleNameUserIdKey uid)
  | some uid => (r.exec UpgradeFiles.exec (.updateUid table userId bundleName uid), bundleNameUidMap)

def updateOldDataUid (table : StoredTable) (r : Upgrading × Std.TreeMap String ℤ) (userId : ℤ) :
    Upgrading × Std.TreeMap String ℤ :=
  ((r.1.state.rows table).map (·.bundleName)).foldl (c.updateOldDataUidStep table userId) r

def supportAppTwinStep (r : Upgrading × Std.TreeMap String ℤ) (table : StoredTable) :
    Upgrading × Std.TreeMap String ℤ :=
  c.activatedOsAccountIds.foldl (c.updateOldDataUid table)
    (r.1.exec UpgradeFiles.exec (.addUid table), r.2)

def supportAppTwin (r : Upgrading) : Upgrading := (c.allTableName.foldl c.supportAppTwinStep (r, {})).1

/-- One round of the loop of `UpdateFirstUseTime`; `firstUseTime` keeps its value from row to row. -/
def updateFirstUseTimeStep (allBundleFirstUseTime : Std.TreeMap String ℤ) (userId : ℤ) (r : ℤ × Upgrading)
    (row : StoredRow) : ℤ × Upgrading :=
  let bundleUidKey := getBundleUsageKey row.bundleName row.readUid
  let firstUseTime := (allBundleFirstUseTime[bundleUidKey]?).getD r.1
  (firstUseTime, r.2.exec UpgradeFiles.exec
    (.updateFirstUseTime userId row.bundleName row.readUid firstUseTime))

def updateFirstUseTime (r : Upgrading) (userId : ℤ) : Upgrading :=
  let allBundleFirstUseTime := (c.database r.state).getAllBundleFirstUseTime userId
  ((r.state.rows .bundleHistoryLog).foldl (updateFirstUseTimeStep allBundleFirstUseTime userId)
    (maxEndTime, r)).2

def supportFirstUseTime (r : Upgrading) : Upgrading :=
  if .bundleHistoryLog ∈ c.allTableName then
    c.activatedOsAccountIds.foldl c.updateFirstUseTime (r.exec UpgradeFiles.exec .addFirstUseTime)
  else r

/-! ### The version file -/

def currentVersion : ℤ := 3

/-- `GetVersionByFileInput`; `atoi` of a number that fits its type. -/
def getVersionByFileInput (fileVersionInput : String) : ℤ :=
  if fileVersionInput = "" then -1
  else LeadingInteger.value (fromFirstDigit fileVersionInput.toList)

def upgradeDatabase (oldVersion curVersion : ℤ) (r : Upgrading) : Upgrading :=
  if oldVersion < curVersion ∧ curVersion = currentVersion then
    if oldVersion = 1 then c.supportFirstUseTime (c.supportAppTwin r)
    else if oldVersion = 2 then c.supportFirstUseTime r
    else r
  else r

/-- `CheckDatabaseVersion` over a directory that is there; the file is truncated, then written. -/
def checkDatabaseVersion (r : Upgrading) : Upgrading :=
  let oldVersion := getVersionByFileInput r.state.version
  let r :=
    if oldVersion ≠ -1 ∧ oldVersion < currentVersion then c.upgradeDatabase oldVersion currentVersion r
    else r
  (r.exec UpgradeFiles.exec .truncateVersion).exec UpgradeFiles.exec
    (.writeVersion ("version : " ++ toString currentVersion))

/-- The files that a start may leave, ended between two statements. -/
def StopsIn (files files' : UpgradeFiles) : Prop :=
  ∃ done, done <+: (c.checkDatabaseVersion { state := files }).statements ∧
    done.foldl UpgradeFiles.exec files = files'

def start (files : UpgradeFiles) : UpgradeFiles := (c.checkDatabaseVersion { state := files }).state

end UpgradeContext

end DeviceUsageStats
