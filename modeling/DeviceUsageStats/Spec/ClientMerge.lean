import DeviceUsageStats.Spec.MergeStats

/-! The client side of the statistics queries (`bundle_state_common.cpp`, `bundle_state_idl_common.cpp`): what
the service answers is merged into one entry for each bundle name and app index. -/

namespace DeviceUsageStats

namespace BundleStateCondition

inductive IntervalType where
  | byOptimized
  | byDaily
  | byWeekly
  | byMonthly
  | byAnnually
  deriving DecidableEq, Repr

def IntervalType.toInt : IntervalType → ℤ
  | .byOptimized => 0
  | .byDaily => 1
  | .byWeekly => 2
  | .byMonthly => 3
  | .byAnnually => 4

end BundleStateCondition

abbrev AppStatsMap := Std.TreeMap String (List BundleActivePackageStats)

/-- `QueryBundleStatsInfoByInterval` of the client: the statistics of an interval type, a begin and an end,
with an error code. -/
abbrev StatsQuery := ℤ → ℤ → ℤ → List BundleActivePackageStats × ℤ

/-- How a range loop names the element it visits. -/
inductive LoopVariable where
  | copy
  | reference

/-- What is left in the vector of an element that the body has changed. -/
def LoopVariable.leaves (v : LoopVariable) (element changed : BundleActivePackageStats) :
    BundleActivePackageStats :=
  match v with
  | .copy => element
  | .reference => changed

/-- `MergePackageStats` of the client has the body of the service's `MergeSamePackageStats`. -/
def mergeClientStats (left right : BundleActivePackageStats) : BundleActivePackageStats :=
  mergeSamePackageStats left right

/-- The body of the merging loops. -/
def mergeAppStat (v : LoopVariable) (mergedPackageStats : AppStatsMap)
    (packageStat : BundleActivePackageStats) : AppStatsMap :=
  match mergedPackageStats[packageStat.bundleName]? with
  | some entries =>
    let sign := entries.any fun packageMerge => packageMerge.appIndex = packageStat.appIndex
    let entries := entries.map fun packageMerge =>
      if packageMerge.appIndex = packageStat.appIndex then
        v.leaves packageMerge (mergeClientStats packageMerge packageStat)
      else packageMerge
    mergedPackageStats.insert packageStat.bundleName
      (if sign then entries else entries ++ [packageStat])
  | none => mergedPackageStats.insert packageStat.bundleName [packageStat]

namespace BundleStateCommon

def YEAR_TYPE : ℤ := 3

def MAX_TIME : ℤ := 20000000000000

def INTERVAL_TIME : ℤ := 30 * 24 * 60 * 60 * 1000

def appStatsInterval (beginTime endTime : ℤ) : BundleStateCondition.IntervalType :=
  if endTime - beginTime ≤ INTERVAL_TIME then .byMonthly else .byOptimized

/-- The loops of this file are `for (auto packageMerge : iter->second)`. -/
def queryAppStatsInfos (client : StatsQuery) (beginTime endTime : ℤ) : Option AppStatsMap × ℤ :=
  let (packageStats, errCode) := client (appStatsInterval beginTime endTime).toInt beginTime endTime
  if packageStats.isEmpty then (none, errCode)
  else (some (packageStats.foldl (mergeAppStat .copy) {}), errCode)

def queryInfoText (bundleName : String) (appIndex : ℤ) : String := bundleName ++ toString appIndex

def tempQueryInfos (queryInfos : Std.TreeMap String (List ℤ)) : List String :=
  queryInfos.toList.flatMap fun queryInfo => queryInfo.2.map (queryInfoText queryInfo.1)

def tempPackageStats (queryInfos : Std.TreeMap String (List ℤ))
    (packageStats : List BundleActivePackageStats) : List BundleActivePackageStats :=
  (tempQueryInfos queryInfos).flatMap fun tempQueryInfo => packageStats.filter fun packageStat =>
    tempQueryInfo = queryInfoText packageStat.bundleName packageStat.appIndex

def queryLastUseTime (client : StatsQuery) (queryInfos : Std.TreeMap String (List ℤ)) :
    Option AppStatsMap × ℤ :=
  let (packageStats, errCode) := client YEAR_TYPE 0 MAX_TIME
  if packageStats.isEmpty then (none, errCode)
  else (some ((tempPackageStats queryInfos packageStats).foldl (mergeAppStat .copy) {}), errCode)

end BundleStateCommon

/-- The loop of the other client is `for (auto& packageMerge : iter->second)`. -/
def BundleStateIDLCommon.mergeAppStatsInfos (packageStats : List BundleActivePackageStats)
    (mergedPackageStats : AppStatsMap) : AppStatsMap :=
  packageStats.foldl (mergeAppStat .reference) mergedPackageStats

end DeviceUsageStats
