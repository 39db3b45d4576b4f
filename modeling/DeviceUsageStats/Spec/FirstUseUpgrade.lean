import DeviceUsageStats.Spec.DatabaseQuery
import DeviceUsageStats.Spec.GroupQueries

/-! The upgrade that gives the bundle histories a first-use time
(`bundle_active_usage_database_upgrade.cpp`). -/

namespace DeviceUsageStats

def minStartTime : ℤ := 0

namespace DatabaseState

/-- The body of both loops of `GetAllBundleFirstUseTime`. -/
def noteUseTime (allBundleFirstUseTime : Std.TreeMap String ℤ) (bundleUidKey : String) (time : ℤ) :
    Std.TreeMap String ℤ :=
  match allBundleFirstUseTime[bundleUidKey]? with
  | none => allBundleFirstUseTime.insert bundleUidKey time
  | some firstUseTime => allBundleFirstUseTime.insert bundleUidKey (min firstUseTime time)

def getAllBundleFirstUseTime (d : DatabaseState) (userId : ℤ) : Std.TreeMap String ℤ :=
  let events := d.queryDatabaseEvents minStartTime maxEndTime userId ""
  let allBundleFirstUseTime := events.foldl (fun all event =>
    noteUseTime all (getBundleUsageKey event.bundleName event.uid) event.timeStamp) {}
  let packageStatsVector := d.queryDatabaseUsageStats .yearly minStartTime maxEndTime userId ""
  packageStatsVector.foldl (fun all packageStats =>
    noteUseTime all (getBundleUsageKey packageStats.bundleName packageStats.uid)
      packageStats.lastTimeUsed) allBundleFirstUseTime

/-- A row of the query: `firstUseTime` keeps its value from row to row where the map has none. -/
def updateFirstUseOfRow (allBundleFirstUseTime : Std.TreeMap String ℤ) (userId : ℤ)
    (r : ℤ × List BundleHistoryRow) (visited : BundleHistoryRow) : ℤ × List BundleHistoryRow :=
  let bundleUidKey := getBundleUsageKey visited.bundleName visited.uid
  let firstUseTime := (allBundleFirstUseTime[bundleUidKey]?).getD r.1
  (firstUseTime, r.2.map fun row =>
    if row.userId = userId ∧ row.bundleName = visited.bundleName ∧ row.uid = visited.uid then
      { row with firstUseTime := firstUseTime }
    else row)

/-- `UpdateFirstUseTime` on the rows of the bundle-history table. The query names no order: the rows
are visited in the order in which the store gives them. -/
def updateFirstUseTime (d : DatabaseState) (visited rows : List BundleHistoryRow) (userId : ℤ) :
    List BundleHistoryRow :=
  (visited.foldl (updateFirstUseOfRow (d.getAllBundleFirstUseTime userId) userId)
    (maxEndTime, rows)).2

end DatabaseState

end DeviceUsageStats
