import DeviceUsageStats.Spec.Core
import DeviceUsageStats.Spec.GroupController

/-! The removal of a user: `OnUserRemoved` of the core (`bundle_active_core.cpp`), of the user's service
and of the group controller. The database object of a service does not know the bundle-history table:
its initialisation takes the names of the module and form tables only. -/

namespace DeviceUsageStats

def minUserId : ℤ := -1

def ServiceState.onUserRemoved (s : ServiceState) : ServiceState :=
  s.setDatabase (s.databaseState.onPackageUninstalled s.userId "" 0 0)

/-- The core with the history object of the group controller. -/
structure UsageProcess where
  core : BundleActiveCore
  bundleUserHistory : HistoryState

inductive UsageOp where
  | core (op : BundleActiveCore.CoreOp)
  | history (op : HistoryOp)
  | userRemoved (userId : ℤ)

namespace UsageProcess

variable (tz : TimeZone) (c : BundleActiveGroupController)

def onUserRemoved (w : UsageProcess) (userId : ℤ) : UsageProcess :=
  if userId < minUserId then w
  else
    match w.core.userStatServices[userId]? with
    | none => w
    | some service =>
      { core :=
          { w.core with
            toProcessState := (w.core.serviceState service).onUserRemoved.toProcessState
            userStatServices := w.core.userStatServices.erase userId }
        bundleUserHistory := w.bundleUserHistory.onUserRemoved userId }

def apply (w : UsageProcess) : UsageOp → UsageProcess
  | .core op => { w with core := w.core.apply tz op }
  | .history op => { w with bundleUserHistory := w.bundleUserHistory.apply c op }
  | .userRemoved userId => w.onUserRemoved userId

inductive Run : UsageProcess → Prop where
  | init (clock : Clock) (files : DatabaseFiles) (debugCore : Bool) (tables : HistoryTables)
    (bootBasedTimeStamp : ℤ) :
    Run { core := .init clock files debugCore, bundleUserHistory := .new tables bootBasedTimeStamp }
  | step {w : UsageProcess} (op : UsageOp) (run : Run w) : Run (w.apply tz c op)

end UsageProcess

end DeviceUsageStats
