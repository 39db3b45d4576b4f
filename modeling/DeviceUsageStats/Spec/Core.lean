import DeviceUsageStats.Spec.UserService

/-! The core (`bundle_active_core.cpp`) with the firing of the report handler's flush task
(`bundle_active_report_handler.cpp`). The clocks, the launcher test, the active accounts and the
free space are read from the system; a step takes what it reads as an argument. -/

namespace DeviceUsageStats

/-- One reading of `GetSystemTimeMs` and `GetBootTimeMs`. -/
structure Clock where
  systemTime : ℤ
  realTime : ℤ
  deriving DecidableEq, Repr

def errTimeOperationFailed : ℤ := 10000007

structure BundleActiveCore extends ProcessState where
  systemTimeShot : ℤ
  realTimeShot : ℤ
  currentUsedUser : ℤ := -1
  userStatServices : Std.TreeMap ℤ BundleActiveUserService := {}
  debugCore : Bool := false

namespace BundleActiveCore

variable (tz : TimeZone)

def init (clock : Clock) (files : DatabaseFiles) (debugCore : Bool) : BundleActiveCore :=
  { files := files, systemTimeShot := clock.systemTime, realTimeShot := clock.realTime
    debugCore := debugCore, flushInterval := if debugCore then 2 * 60 * 1000 else 30 * 60 * 1000 }

def serviceState (core : BundleActiveCore) (service : BundleActiveUserService) : ServiceState :=
  { toBundleActiveUserService := service, toProcessState := core.toProcessState }

def putService (core : BundleActiveCore) (userId : ℤ) (s : ServiceState) : BundleActiveCore :=
  { core with
    toProcessState := s.toProcessState
    userStatServices := core.userStatServices.insert userId s.toBundleActiveUserService }

def withService (core : BundleActiveCore) (userId : ℤ) (f : ServiceState → ServiceState) :
    BundleActiveCore :=
  match core.userStatServices[userId]? with
  | none => core
  | some service => core.putService userId (f (core.serviceState service))

def removeFlushEvent (core : BundleActiveCore) : BundleActiveCore :=
  { core with handler := core.handler.removeEvent .flushToDisk }

def expectedSystemTime (core : BundleActiveCore) (clock : Clock) : ℤ :=
  (clock.realTime - core.realTimeShot) + core.systemTimeShot

def handleTimeChange (expectedSystemTime actualSystemTime : ℤ) (s : ServiceState) : ServiceState :=
  let s := s.reportEvent tz { eventId := .flush, timeStamp := expectedSystemTime }
  let s := (s.restoreStats true).renewTableTime expectedSystemTime actualSystemTime
  (s.loadActiveStats tz actualSystemTime true true).loadModuleAndFormStats

def checkTimeChangeAndGetWallTime (core : BundleActiveCore) (userId : ℤ) (clock : Clock) :
    ℤ × BundleActiveCore :=
  let expectedSystemTime := core.expectedSystemTime clock
  let diffSystemTime := clock.systemTime - expectedSystemTime
  if clock.systemTime = -1 ∨ clock.realTime = -1 then (errTimeOperationFailed, core)
  else if |diffSystemTime| < tenMinutes then
    if |diffSystemTime| > twoSeconds then
      (clock.systemTime,
        { core with realTimeShot := clock.realTime, systemTimeShot := clock.systemTime })
    else (clock.systemTime, core)
  else
    let core := match core.userStatServices[userId]? with
      | none => core
      | some _ => (core.withService userId
          (handleTimeChange tz expectedSystemTime clock.systemTime)).removeFlushEvent
    (clock.systemTime,
      { core with realTimeShot := clock.realTime, systemTimeShot := clock.systemTime })

def convertToSystemTimeLocked (core : BundleActiveCore) (event : BundleActiveEvent) :
    BundleActiveEvent :=
  { event with timeStamp := max 0 (event.timeStamp - core.realTimeShot) + core.systemTimeShot }

def getUserDataAndInitializeIfNeeded (core : BundleActiveCore) (userId timeStamp : ℤ) :
    BundleActiveCore :=
  match core.userStatServices[userId]? with
  | some _ => core
  | none => core.putService userId
      (ServiceState.init tz core.toProcessState userId core.debugCore timeStamp)

def obtainSystemEventName (event : BundleActiveEvent) : BundleActiveEvent :=
  match event.eventId with
  | .systemLock => { event with bundleName := operationSystemLock }
  | .systemUnlock => { event with bundleName := operationSystemUnlock }
  | .systemSleep => { event with bundleName := operationSystemSleep }
  | .systemWakeup => { event with bundleName := operationSystemWakeup }
  | _ => event

def reportToService (event : BundleActiveEvent) (s : ServiceState) : ServiceState :=
  if event.eventId = .formIsClicked ∨ event.eventId = .formIsRemoved then s.reportFormEvent event
  else (s.reportModuleEvent event).reportEvent tz event

def reportEvent (core : BundleActiveCore) (event : BundleActiveEvent) (userId : ℤ)
    (isLauncherApp : Bool) (clock : Clock) : BundleActiveCore :=
  let event := obtainSystemEventName event
  if userId = 0 ∨ userId = -1 then core
  else
    let core := if core.currentUsedUser = -1 then { core with currentUsedUser := userId } else core
    if isLauncherApp then core
    else
      let (timeNow, core) := core.checkTimeChangeAndGetWallTime tz userId clock
      if timeNow = errTimeOperationFailed then core
      else
        let event := core.convertToSystemTimeLocked event
        (core.getUserDataAndInitializeIfNeeded tz userId timeNow).withService userId
          (reportToService tz event)

/-- How every query and the removal of a bundle begin: the clock is checked for the user and the
service is made if it is missing. -/
def prepareService (core : BundleActiveCore) (userId : ℤ) (clock : Clock) : BundleActiveCore :=
  let (timeNow, core) := core.checkTimeChangeAndGetWallTime tz userId clock
  if timeNow = errTimeOperationFailed then core
  else core.getUserDataAndInitializeIfNeeded tz userId timeNow

def onBundleUninstalled (core : BundleActiveCore) (userId : ℤ) (bundleName : String)
    (uid appIndex : ℤ) (clock : Clock) : BundleActiveCore :=
  let (timeNow, core) := core.checkTimeChangeAndGetWallTime tz userId clock
  if timeNow = errTimeOperationFailed then core
  else
    (core.getUserDataAndInitializeIfNeeded tz userId timeNow).withService userId
      (·.deleteUninstalledBundleStats bundleName uid appIndex)

/-- `OnUserSwitched`; with no active account the current user stays. -/
def onUserSwitched (core : BundleActiveCore) (userId : ℤ) (noActiveUser : Bool) (clock : Clock) :
    BundleActiveCore :=
  let core := core.withService core.currentUsedUser fun s =>
    (s.reportEvent tz
      { eventId := .flush, timeStamp := core.expectedSystemTime clock }).restoreStats true
  if noActiveUser then core
  else
    { core with
      currentUsedUser := userId
      toProcessState := onStatsChanged core.toProcessState userId }

def restoreToDatabase (core : BundleActiveCore) (userId : ℤ) (isUserSpaceMemoryLimit : Bool)
    (clock : Clock) : BundleActiveCore :=
  if isUserSpaceMemoryLimit then core
  else
    (core.withService userId fun s =>
      (s.reportEvent tz { eventId := .flush, timeStamp := clock.systemTime }).restoreStats
        false).removeFlushEvent

def processFlushToDiskEvent (core : BundleActiveCore) (userId : ℤ)
    (isUserSpaceMemoryLimit : Bool) (clock : Clock) : BundleActiveCore :=
  if userId ≠ core.currentUsedUser then core.removeFlushEvent
  else core.restoreToDatabase tz userId isUserSpaceMemoryLimit clock

/-- A pending flush task runs: it leaves the queue, is processed and pops its message's handles. -/
def fireFlush (core : BundleActiveCore) (task : PendingTask) (isUserSpaceMemoryLimit : Bool)
    (clock : Clock) : BundleActiveCore :=
  let core := { core with handler := core.handler.start task }
  let core := core.processFlushToDiskEvent tz task.userId isUserSpaceMemoryLimit clock
  { core with handler := core.handler.finish .flushToDisk }

/-! ### Runs -/

inductive CoreOp where
  | report (event : BundleActiveEvent) (userId : ℤ) (isLauncherApp : Bool) (clock : Clock)
  | switchUser (userId : ℤ) (noActiveUser : Bool) (clock : Clock)
  | fireFlush (task : PendingTask) (isUserSpaceMemoryLimit : Bool) (clock : Clock)
  | query (userId : ℤ) (clock : Clock)
  | uninstalled (userId : ℤ) (bundleName : String) (uid appIndex : ℤ) (clock : Clock)

def apply (core : BundleActiveCore) : CoreOp → BundleActiveCore
  | .report event userId isLauncherApp clock => core.reportEvent tz event userId isLauncherApp clock
  | .switchUser userId noActiveUser clock => core.onUserSwitched tz userId noActiveUser clock
  | .fireFlush task isUserSpaceMemoryLimit clock =>
    core.fireFlush tz task isUserSpaceMemoryLimit clock
  | .query userId clock => core.prepareService tz userId clock
  | .uninstalled userId bundleName uid appIndex clock =>
    core.onBundleUninstalled tz userId bundleName uid appIndex clock

def Enabled (core : BundleActiveCore) : CoreOp → Prop
  | .fireFlush task _ _ => task ∈ core.handler.pending ∧ task.eventId = .flushToDisk
  | _ => True

inductive Run (Allowed : BundleActiveCore → CoreOp → Prop) : BundleActiveCore → Prop where
  | init (clock : Clock) (files : DatabaseFiles) (debugCore : Bool) :
    Run Allowed (init clock files debugCore)
  | step {core : BundleActiveCore} (op : CoreOp) (run : Run Allowed core)
    (enabled : core.Enabled op) (allowed : Allowed core op) : Run Allowed (core.apply tz op)

end BundleActiveCore

end DeviceUsageStats
