import DeviceUsageStats.Spec.Database

/-! The services of a process over one set of database files. Each has a database object with caches
of its own; an operation of one changes its caches and the files, and no other object hears of it. -/

namespace DeviceUsageStats

inductive DatabaseOp where
  | initDatabaseTableInfo (currentTime : ℤ) (debugDatabase : Bool)
  | updateBundleUsageData (i : IntervalType) (stats : BundleActivePeriodStats)
  | updateEventData (stats : BundleActivePeriodStats)
  | renewTableTime (timeDiff : ℤ)
  | removeOldData (currentTime : ℤ)

/-- An operation of a database object; the initialisation is that of a new one. -/
def DatabaseState.apply (d : DatabaseState) : DatabaseOp → DatabaseState
  | .initDatabaseTableInfo currentTime debugDatabase =>
    DatabaseState.initDatabaseTableInfo
      { debugDatabase := debugDatabase, toDatabaseFiles := d.toDatabaseFiles } currentTime
  | .updateBundleUsageData i stats => d.updateBundleUsageData i stats
  | .updateEventData stats => d.updateEventData stats
  | .renewTableTime timeDiff => d.renewTableTime timeDiff
  | .removeOldData currentTime => d.removeOldData currentTime

structure SharedDatabase (Service : Type) where
  files : DatabaseFiles
  databases : Service → BundleActiveUsageDatabase

namespace SharedDatabase

variable {Service : Type}

def databaseState (shared : SharedDatabase Service) (who : Service) : DatabaseState :=
  { toBundleActiveUsageDatabase := shared.databases who, toDatabaseFiles := shared.files }

variable [DecidableEq Service]

def apply (shared : SharedDatabase Service) (who : Service) (op : DatabaseOp) :
    SharedDatabase Service :=
  let d := (shared.databaseState who).apply op
  { files := d.toDatabaseFiles
    databases := Function.update shared.databases who d.toBundleActiveUsageDatabase }

/-- The states of the runs that begin before any service is initialised and whose steps all meet a
condition. No table name holds a sign. -/
inductive Run (Allowed : SharedDatabase Service → Service → DatabaseOp → Prop) :
    SharedDatabase Service → Prop where
  | start (files : DatabaseFiles) (packages : ∀ i, ∀ t ∈ files.packageTables i, 0 ≤ t)
    (events : ∀ t ∈ files.eventTables, 0 ≤ t) :
    Run Allowed { files := files, databases := fun _ => {} }
  | step {shared : SharedDatabase Service} (who : Service) (op : DatabaseOp)
    (run : Run Allowed shared) (allowed : Allowed shared who op) :
    Run Allowed (shared.apply who op)

end SharedDatabase

end DeviceUsageStats
