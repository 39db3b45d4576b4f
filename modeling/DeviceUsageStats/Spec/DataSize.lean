import DeviceUsageStats.Spec.Core

/-! Keeping the databases small (`bundle_active_core.cpp`): where their folder is over its limit, the oldest
events go a day at a time. The size of the folder is that of what the stores have made of the files. -/

namespace DeviceUsageStats

def deleteEventDaliys : List ℕ := List.range 7

/-- The loop of `DeleteExcessiveTableData` over the days that are left. -/
def deleteExcessiveLoop (isFolderSizeLimit : DatabaseFiles → Bool) :
    List ℕ → ServiceState → ServiceState
  | [], s => s
  | deleteDays :: rest, s =>
    let s := s.deleteExcessiveEventTableData deleteDays
    if isFolderSizeLimit s.files then deleteExcessiveLoop isFolderSizeLimit rest s else s

namespace BundleActiveCore

variable (isFolderSizeLimit : DatabaseFiles → Bool) (core : BundleActiveCore)

def deleteExcessiveTableData : BundleActiveCore :=
  core.withService core.currentUsedUser (deleteExcessiveLoop isFolderSizeLimit deleteEventDaliys)

def processDataSize : BundleActiveCore :=
  if isFolderSizeLimit core.files then core.deleteExcessiveTableData isFolderSizeLimit else core

end BundleActiveCore

end DeviceUsageStats
