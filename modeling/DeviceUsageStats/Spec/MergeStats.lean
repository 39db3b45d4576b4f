import DeviceUsageStats.Spec.PackageStats

/-! Merging of the statistics of one bundle (`bundle_active_service.cpp`): the entries that a query has
found, table by table and in memory, become one entry for each usage key. -/

namespace DeviceUsageStats

/-- `MergeSamePackageStats`; the begin and end of the counting, the user and the events stay those of
the left entry. -/
def mergeSamePackageStats (left right : BundleActivePackageStats) : BundleActivePackageStats :=
  if left.bundleName ≠ right.bundleName then left
  else
    { left with
      lastTimeUsed := max left.lastTimeUsed right.lastTimeUsed
      lastContiniousTaskUsed := max left.lastContiniousTaskUsed right.lastContiniousTaskUsed
      totalInFrontTime := left.totalInFrontTime + right.totalInFrontTime
      totalContiniousTaskUsedTime :=
        left.totalContiniousTaskUsedTime + right.totalContiniousTaskUsedTime
      bundleStartedCount := left.bundleStartedCount + right.bundleStartedCount
      startCount := left.startCount + right.startCount }

def mergePackageStat (mergedPackageStats : Std.TreeMap String BundleActivePackageStats)
    (packageStat : BundleActivePackageStats) : Std.TreeMap String BundleActivePackageStats :=
  let mergedPackageStatsKey := packageStat.bundleName ++ toString packageStat.uid
  match mergedPackageStats[mergedPackageStatsKey]? with
  | some left =>
    mergedPackageStats.insert mergedPackageStatsKey (mergeSamePackageStats left packageStat)
  | none => mergedPackageStats.insert mergedPackageStatsKey packageStat

def mergePackageStats (packageStats : List BundleActivePackageStats) :
    List BundleActivePackageStats :=
  if packageStats.isEmpty then packageStats
  else (packageStats.foldl mergePackageStat {}).toList.map Prod.snd

end DeviceUsageStats
