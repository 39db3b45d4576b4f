import DeviceUsageStats.Lib.TaskPool

/-! The uids of bundles that were just uninstalled (`bundle_active_core.cpp`). `OnBundleUninstalled`
puts the uid into `bundleUninstalledSet_` and posts a delayed task that takes it out again;
`OnBundleInstalled` takes it out and skips the task. The calls come one at a time from the report
handler's queue. A task fires at any time from its due time on, also between the two locked halves of
`OnBundleUninstalled`. -/

namespace DeviceUsageStats

/-- `BUNDLE_UNINSTALL_DELAY_TIME`, in microseconds. -/
def bundleUninstallDelayTime : ℕ := 5 * 1000 * 1000

/-- The set with its tasks, which hold their uids; `taskMap_` keeps the handle posted last. -/
structure UninstallGuard where
  bundleUninstalledSet : Std.TreeSet ℤ := {}
  taskMap : Std.TreeMap ℤ ℕ := {}
  tasks : TaskPool ℤ := {}

namespace UninstallGuard

variable (g : UninstallGuard)

def isUninstalledApp (uid : ℤ) : Bool := g.bundleUninstalledSet.contains uid

def addbundleUninstalledUid (uid : ℤ) : UninstallGuard :=
  { g with bundleUninstalledSet := g.bundleUninstalledSet.insert uid }

/-- `DelayRemoveBundleUninstalledUid`: the handle of an older task is dropped, its task stays. -/
def delayRemoveBundleUninstalledUid (uid : ℤ) : UninstallGuard :=
  { g with
    tasks := g.tasks.submit uid bundleUninstallDelayTime
    taskMap := g.taskMap.insert uid g.tasks.nextHandle }

def removeUid (task : DelayedTask ℤ) : UninstallGuard :=
  { bundleUninstalledSet := g.bundleUninstalledSet.erase task.payload
    taskMap := g.taskMap.erase task.payload
    tasks := g.tasks.take task }

def onBundleInstalled (uid : ℤ) : UninstallGuard :=
  if g.bundleUninstalledSet.contains uid then
    match g.taskMap[uid]? with
    | none => { g with bundleUninstalledSet := g.bundleUninstalledSet.erase uid }
    | some handle =>
      { bundleUninstalledSet := g.bundleUninstalledSet.erase uid
        taskMap := g.taskMap.erase uid
        tasks := g.tasks.cancel [handle] }
  else g

end UninstallGuard

/-- The latest call for a uid. An uninstall is on its way between its two halves, and posts no task if
the clock cannot be read. -/
inductive LatestCall where
  | none
  | uninstalling
  | uninstalled (posted : Option ℕ)
  | installed
  deriving DecidableEq

/-- The guard with the call that is on its way and the latest call of each uid. -/
structure GuardState extends UninstallGuard where
  uninstalling : Option ℤ := none
  latest : ℤ → LatestCall := fun _ => .none

inductive GuardOp where
  | uninstall (uid : ℤ)
  | post (uid : ℤ)
  | uninstallFails (uid : ℤ)
  | install (uid : ℤ)
  | fire (task : DelayedTask ℤ)
  | advance (duration : ℕ)

namespace GuardState

variable (s : GuardState)

def apply : GuardOp → GuardState
  | .uninstall uid =>
    { toUninstallGuard := s.addbundleUninstalledUid uid
      uninstalling := some uid
      latest := Function.update s.latest uid .uninstalling }
  | .post uid =>
    { toUninstallGuard := s.delayRemoveBundleUninstalledUid uid
      uninstalling := none
      latest := Function.update s.latest uid (.uninstalled (some s.tasks.nextHandle)) }
  | .uninstallFails uid =>
    { s with latest := Function.update s.latest uid (.uninstalled none) }
  | .install uid =>
    { s with
      toUninstallGuard := s.onBundleInstalled uid
      latest := Function.update s.latest uid .installed }
  | .fire task => { s with toUninstallGuard := s.removeUid task }
  | .advance duration => { s with tasks := s.tasks.advance duration }

def Enabled : GuardOp → Prop
  | .uninstall _ | .uninstallFails _ | .install _ => s.uninstalling = none
  | .post uid => s.uninstalling = some uid
  | .fire task => s.tasks.Due task
  | .advance _ => True

inductive Run (Allowed : GuardState → GuardOp → Prop) : GuardState → Prop where
  | init : Run Allowed {}
  | step {s : GuardState} (op : GuardOp) (run : Run Allowed s) (enabled : s.Enabled op)
    (allowed : Allowed s op) : Run Allowed (s.apply op)

end GuardState

end DeviceUsageStats
