import DeviceUsageStats.Spec.UserService

/-! `RestoreStats` with an event store that fails, and `RenewTableTime` with failing statements
(`bundle_active_user_service.cpp`, `bundle_active_usage_database.cpp`). Where nothing fails they are the
functions of the service and of the database object. -/

namespace DeviceUsageStats

/-! ### Flushes -/

/-- What a flush meets: a store that cannot be opened, or one whose batch insert gets so far. -/
inductive EventStore where
  | unopened
  | opened (inserted : ℕ)
  deriving DecidableEq, Repr

/-- `UpdateEventData` with `FlushEventInfo`; the result of the batch insert is not looked at. -/
def DatabaseState.updateEventDataIn (d : DatabaseState) (store : EventStore)
    (stats : BundleActivePeriodStats) : DatabaseState :=
  if stats.events.events = [] then d
  else
    match store with
    | .unopened => d
    | .opened inserted =>
      let d := d.initEventTable stats.beginTime
      match d.eventTableName with
      | none => d
      | some eventTable =>
        { d with
          eventTables := d.eventTables.modifyRows eventTable
            (· ++ (stats.events.events.map
              (eventLogRow stats (parseStartTime eventTable))).take inserted) }

namespace ServiceState

def restoreStatsOfIn (store : EventStore) (s : ServiceState) (i : IntervalType) : ServiceState :=
  let stats := s.currentStats i
  let d := s.databaseState
  let d := if stats.bundleStats.isEmpty then d else d.updateBundleUsageData i stats
  s.setDatabase (if i = .daily then d.updateEventDataIn store stats else d)

def restoreStatsIn (s : ServiceState) (store : EventStore) (forced : Bool) : ServiceState :=
  if s.statsChanged ∨ forced then
    let s := IntervalType.all.foldl (restoreStatsOfIn store) s
    let s :=
      if s.moduleRecords.isEmpty then s
      else s.setDatabase
        (s.databaseState.updateModuleData s.moduleRecords (s.currentStats .daily).beginTime)
    let s := s.setStats .daily
      { s.currentStats .daily with events := (s.currentStats .daily).events.clear }
    { s with statsChanged := false }
  else s

end ServiceState

/-! ### Renames -/

inductive RenewedTable where
  | event
  | module
  | form
  deriving DecidableEq, Repr

/-- The statements of `RenewTableTime` on the event, module and form tables. -/
inductive RenewStep where
  | dropTable (table : RenewedTable) (tableTime : ℤ)
  | renameTable (table : RenewedTable) (oldTime newTime : ℤ)
  | dropIndex (table : RenewedTable) (tableTime : ℤ)
  | createIndex (table : RenewedTable) (tableTime : ℤ)
  deriving DecidableEq, Repr

def setNewIndex (ok : RenewStep → Bool) (table : RenewedTable) (oldTime newTime : ℤ) : Bool :=
  ok (.dropIndex table oldTime) && ok (.createIndex table newTime)

namespace DatabaseState

variable (ok : RenewStep → Bool) (d : DatabaseState)

def renewEventTableWith (timeDiff : ℤ) : DatabaseState :=
  match d.eventTableName with
  | none => d
  | some eventTable =>
    let oldTime := parseStartTime eventTable
    let newTime := oldTime + timeDiff
    if newTime < 0 then
      let (eventTables, deleted) :=
        if ok (.dropTable .event oldTime) then d.eventTables.drop oldTime
        else (d.eventTables, false)
      { d with
        eventTables := eventTables
        eventTableName := if deleted then none else d.eventTableName }
    else
      let (eventTables, renamed) :=
        if ok (.renameTable .event oldTime newTime) then d.eventTables.rename oldTime newTime
        else (d.eventTables, false)
      { d with
        eventTables := eventTables
        eventTableName :=
          if renamed && setNewIndex ok .event oldTime newTime then some newTime
          else d.eventTableName }

/-- The module table is renamed, then the form table, then the indexes are set; the first failure ends
this. -/
def renewRecordTablesWith (timeDiff : ℤ) : DatabaseState :=
  match d.formRecordsTableName, d.moduleRecordsTableName with
  | some _, some moduleTable =>
    let oldTime := parseStartTime moduleTable
    let newTime := oldTime + timeDiff
    let (moduleTables, moduleRenamed) :=
      if ok (.renameTable .module oldTime newTime) then
        CreatedTables.rename d.moduleTables oldTime newTime
      else (d.moduleTables, false)
    let (formTables, formRenamed) :=
      if moduleRenamed && ok (.renameTable .form oldTime newTime) then
        CreatedTables.rename d.formTables oldTime newTime
      else (d.formTables, false)
    let renamed := formRenamed && setNewIndex ok .module oldTime newTime &&
      setNewIndex ok .form oldTime newTime
    { d with
      moduleTables := moduleTables
      formTables := formTables
      moduleRecordsTableName := if renamed then some newTime else d.moduleRecordsTableName
      formRecordsTableName := if renamed then some newTime else d.formRecordsTableName }
  | _, _ => d

def renewTableTimeWith (timeDiff : ℤ) : DatabaseState :=
  let d := IntervalType.all.foldl (renewPackageTables timeDiff) d
  (d.renewEventTableWith ok timeDiff).renewRecordTablesWith ok timeDiff

end DatabaseState

end DeviceUsageStats
