import DeviceUsageStats.Spec.Calendar
import DeviceUsageStats.Spec.GroupController

/-! The queries about a bundle's group: `QueryAppGroup`, `IsBundleIdle` and `IsUsedOverOneWeek` of the
group controller (`bundle_active_group_controller.cpp`) and `GetFirstUseTime` of the history
(`bundle_active_user_history.cpp`). Each scans the user's map for keys that contain the bundle name. -/

namespace DeviceUsageStats

def maxEndTime : ℤ := 20000000000000

def oneWeekTime : ℤ := 7 * oneDayTime

inductive GroupQueryError where
  | errNoAppGroupInfoInDatabase
  | errApplicationIsNotInstalled
  deriving DecidableEq, Repr

namespace HistoryState

/-- What a scan looks up when it visits an entry: the entry of the bundle under the visited uid. -/
def scannedHistory (s : HistoryState) (bundleName : String) (userId bootBasedTimeStamp : ℤ)
    (entry : String × BundleActivePackageHistory) : Option BundleActivePackageHistory :=
  if keyContains entry.1 bundleName then
    (s.getUsageHistoryForBundle bundleName userId bootBasedTimeStamp false entry.2.uid).1
  else none

def queryAppGroup (s : HistoryState) (bundleName : String) (userId bootBasedTimeStamp : ℤ)
    (isBundleInstalled : Bool) : Except GroupQueryError ℤ :=
  if bundleName = "" then .error .errNoAppGroupInfoInDatabase
  else if isBundleInstalled = false then .error .errApplicationIsNotInstalled
  else
    match s.userHistory[userId]? with
    | none => .error .errNoAppGroupInfoInDatabase
    | some packageHistoryMap =>
      .ok (packageHistoryMap.toList.foldl (fun appGroup entry =>
        match s.scannedHistory bundleName userId bootBasedTimeStamp entry with
        | none => appGroup
        | some oneBundleHistory => min oneBundleHistory.currentGroup appGroup) activeGroupNever)

/-- `IsBundleIdle`: 1 for an idle bundle, 0 for one in use and -1 for an error. -/
def isBundleIdle (s : HistoryState) (bundleName : String) (userId bootBasedTimeStamp : ℤ)
    (isBundleInstalled : Bool) : ℤ :=
  if isBundleInstalled = false then -1
  else
    match s.userHistory[userId]? with
    | none => -1
    | some packageHistoryMap =>
      packageHistoryMap.toList.foldl (fun isBundleIdle entry =>
        match s.scannedHistory bundleName userId bootBasedTimeStamp entry with
        | none => isBundleIdle
        | some oneBundleHistory =>
          if oneBundleHistory.currentGroup ≤ activeGroupRare then 0 else isBundleIdle) 1

/-- `GetFirstUseTime`: the visited entries themselves count, whatever their bundle. -/
def getFirstUseTime (s : HistoryState) (bundleName : String) (userId : ℤ) : ℤ :=
  match (s.getUserHistory userId false).1 with
  | none => maxEndTime
  | some userHistory =>
    userHistory.toList.foldl (fun firstUseTime entry =>
      if keyContains entry.1 bundleName then min firstUseTime entry.2.bundlefirstUseTimeStamp
      else firstUseTime) maxEndTime

def isUsedOverOneWeek (s : HistoryState) (bundleName : String) (userId currentSystemTime : ℤ) :
    Bool :=
  let firstUseTime := s.getFirstUseTime bundleName userId
  if firstUseTime = maxEndTime then false
  else ¬ (currentSystemTime < 0 ∨ currentSystemTime - firstUseTime > oneWeekTime)

end HistoryState

end DeviceUsageStats
