import DeviceUsageStats.Spec.PackageStats
import DeviceUsageStats.Spec.Parcel

/-! How the statistics of a bundle cross the process boundary (`Marshalling` and `Unmarshalling` of
`bundle_active_package_stats.cpp`) and what the command line tool prints of them (`main.cpp` of
`ohos-usageStatsQuery`). -/

namespace DeviceUsageStats

open Streams

/-- The statistics with the field that nothing but the tool reads. -/
structure ServedPackageStats extends BundleActivePackageStats where
  lastEvent : ℤ := 0

namespace ServedPackageStats

section Operations

variable {Parcel : Type} (ops : ParcelOps Parcel)

def marshalling (r : ServedPackageStats) : StateM Parcel Bool :=
  writeAll ops.write
    [.string r.bundleName, .int64 r.beginTimeStamp, .int64 r.lastTimeUsed, .int64 r.totalInFrontTime,
      .int64 r.lastContiniousTaskUsed, .int64 r.totalContiniousTaskUsedTime, .int32 r.startCount,
      .int32 r.userId, .int32 r.appIndex]

/-- The allocation succeeds. -/
def unmarshalling : StateM Parcel ServedPackageStats := do
  let bundleName ← ops.readString
  let beginTimeStamp ← ops.readInt64
  let lastTimeUsed ← ops.readInt64
  let totalInFrontTime ← ops.readInt64
  let lastContiniousTaskUsed ← ops.readInt64
  let totalContiniousTaskUsedTime ← ops.readInt64
  let startCount ← ops.readInt32
  let userId ← ops.readInt32
  let appIndex ← ops.readInt32
  return { bundleName := bundleName, beginTimeStamp := beginTimeStamp, lastTimeUsed := lastTimeUsed
           totalInFrontTime := totalInFrontTime, lastContiniousTaskUsed := lastContiniousTaskUsed
           totalContiniousTaskUsedTime := totalContiniousTaskUsedTime, startCount := startCount
           userId := userId, appIndex := appIndex }

end Operations

inductive JsonValue where
  | string (s : String)
  | number (n : ℤ)
  deriving DecidableEq, Repr

/-- The object of the tool, with its numbers as they are handed over. -/
def packageStatsToJson (stats : ServedPackageStats) : List (String × JsonValue) :=
  [("bundleName", .string stats.bundleName), ("beginTimeStamp", .number stats.beginTimeStamp),
    ("endTimeStamp", .number stats.endTimeStamp), ("lastTimeUsed", .number stats.lastTimeUsed),
    ("totalInFrontTime", .number stats.totalInFrontTime),
    ("lastContiniousTaskUsed", .number stats.lastContiniousTaskUsed),
    ("totalContiniousTaskUsedTime", .number stats.totalContiniousTaskUsedTime),
    ("startCount", .number stats.startCount), ("bundleStartedCount", .number stats.bundleStartedCount),
    ("lastEvent", .number stats.lastEvent), ("userId", .number stats.userId),
    ("uid", .number stats.uid), ("appIndex", .number stats.appIndex)]

end ServedPackageStats

end DeviceUsageStats
