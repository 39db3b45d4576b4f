import DeviceUsageStats.Lib.Entries
import DeviceUsageStats.Spec.EventList
import DeviceUsageStats.Spec.PackageStats

/-! The statistics of one period (`bundle_active_period_stats.cpp`,
`bundle_active_event_tracker.cpp`), and the process-wide map from bundle names to uids that every
creation of a bundle's entry writes (`bundle_active_bundle_mgr_helper.cpp`). -/

namespace DeviceUsageStats

abbrev PackageContainUidMap := Std.TreeMap String (Std.TreeSet ℤ)

namespace PackageContainUidMap

def getPackageUidSet (uids : PackageContainUidMap) (bundleName : String) : Std.TreeSet ℤ :=
  (uids[bundleName]?).getD {}

def insertPackageUid (uids : PackageContainUidMap) (bundleName : String) (uid : ℤ) :
    PackageContainUidMap :=
  uids.insert bundleName ((getPackageUidSet uids bundleName).insert uid)

def deletePackageUid (uids : PackageContainUidMap) (bundleName : String) (uid : ℤ) :
    PackageContainUidMap :=
  let uidSet := (getPackageUidSet uids bundleName).erase uid
  if uidSet.isEmpty then uids.erase bundleName else uids.insert bundleName uidSet

def deleteMemPackage (uids : PackageContainUidMap) (bundleName : String) : PackageContainUidMap :=
  uids.erase bundleName

end PackageContainUidMap

/-- A `curStartTime` of 0 means that the tracker is not running. -/
structure BundleActiveEventTracker where
  curStartTime : ℤ := 0
  lastEventTime : ℤ := 0
  duration : ℤ := 0
  count : ℤ := 0
  deriving DecidableEq, Repr

namespace BundleActiveEventTracker

def commitTime (t : BundleActiveEventTracker) (timeStamp : ℤ) : BundleActiveEventTracker :=
  if t.curStartTime = 0 then t
  else { t with duration := t.duration + (timeStamp - t.curStartTime), curStartTime := 0 }

def update (t : BundleActiveEventTracker) (timeStamp : ℤ) : BundleActiveEventTracker :=
  let t := if t.curStartTime = 0 then { t with count := t.count + 1 } else t
  { t.commitTime timeStamp with curStartTime := timeStamp, lastEventTime := timeStamp }

end BundleActiveEventTracker

structure BundleActivePeriodStats where
  userId : ℤ := -1
  beginTime : ℤ := 0
  endTime : ℤ := 0
  bundleStats : Std.TreeMap String BundleActivePackageStats := {}
  events : BundleActiveEventList := {}
  interactiveTracker : BundleActiveEventTracker := {}
  noninteractiveTracker : BundleActiveEventTracker := {}
  keyguardShownTracker : BundleActiveEventTracker := {}
  keyguardHiddenTracker : BundleActiveEventTracker := {}

namespace BundleActivePeriodStats

instance : Inhabited BundleActivePeriodStats := ⟨{}⟩

def getOrCreateUsageStats (p : BundleActivePeriodStats) (uids : PackageContainUidMap)
    (bundleName : String) (uid : ℤ) : BundleActivePackageStats × PackageContainUidMap :=
  match p.bundleStats[getBundleUsageKey bundleName uid]? with
  | some usageStats => (usageStats, uids)
  | none =>
    ({ endTimeStamp := p.endTime, bundleName := bundleName, uid := uid },
      uids.insertPackageUid bundleName uid)

def extendEndTime (p : BundleActivePeriodStats) (timeStamp : ℤ) : BundleActivePeriodStats :=
  if timeStamp > p.endTime then { p with endTime := timeStamp } else p

def update (p : BundleActivePeriodStats) (uids : PackageContainUidMap)
    (bundleName longTimeTaskName : String) (timeStamp : ℤ) (eventId : EventId)
    (abilityId : String) (uid : ℤ) : BundleActivePeriodStats × PackageContainUidMap :=
  if eventId = .shutdown ∨ eventId = .flush then
    ({ p with
        bundleStats := Entries.mapEntries
          (fun _ usageStats => usageStats.update "" timeStamp eventId abilityId) p.bundleStats
      }.extendEndTime timeStamp, uids)
  else if eventId.isBundleEvent then
    let (usageStats, uids) := p.getOrCreateUsageStats uids bundleName uid
    ({ p with
        bundleStats := p.bundleStats.insert (getBundleUsageKey bundleName uid)
          (usageStats.update longTimeTaskName timeStamp eventId abilityId)
      }.extendEndTime timeStamp, uids)
  else (p.extendEndTime timeStamp, uids)

def addEvent (p : BundleActivePeriodStats) (event : BundleActiveEvent) : BundleActivePeriodStats :=
  { p with events := p.events.insert event }.extendEndTime event.timeStamp

def commitTime (p : BundleActivePeriodStats) (timeStamp : ℤ) : BundleActivePeriodStats :=
  { p with
    interactiveTracker := p.interactiveTracker.commitTime timeStamp
    noninteractiveTracker := p.noninteractiveTracker.commitTime timeStamp
    keyguardShownTracker := p.keyguardShownTracker.commitTime timeStamp
    keyguardHiddenTracker := p.keyguardHiddenTracker.commitTime timeStamp }

def updateScreenInteractive (p : BundleActivePeriodStats) (timeStamp : ℤ) :
    BundleActivePeriodStats :=
  { p with
    interactiveTracker := p.interactiveTracker.update timeStamp
    noninteractiveTracker := p.noninteractiveTracker.commitTime timeStamp }

def updateScreenNonInteractive (p : BundleActivePeriodStats) (timeStamp : ℤ) :
    BundleActivePeriodStats :=
  { p with
    noninteractiveTracker := p.noninteractiveTracker.update timeStamp
    interactiveTracker := p.interactiveTracker.commitTime timeStamp }

def updateKeyguardShown (p : BundleActivePeriodStats) (timeStamp : ℤ) : BundleActivePeriodStats :=
  { p with
    keyguardShownTracker := p.keyguardShownTracker.update timeStamp
    keyguardHiddenTracker := p.keyguardHiddenTracker.commitTime timeStamp }

def updateKeyguardHidden (p : BundleActivePeriodStats) (timeStamp : ℤ) : BundleActivePeriodStats :=
  { p with
    keyguardHiddenTracker := p.keyguardHiddenTracker.update timeStamp
    keyguardShownTracker := p.keyguardShownTracker.commitTime timeStamp }

end BundleActivePeriodStats

end DeviceUsageStats
