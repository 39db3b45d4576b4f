import DeviceUsageStats.Spec.Core

/-! `ShutDown` and `ReportEventToAllUserId` of the core (`bundle_active_core.cpp`). Whether a user's
service is obtained is an argument: `GetUserDataAndInitializeIfNeeded` may answer with a null pointer. -/

namespace DeviceUsageStats

/-- What a report to all users returns and leaves, with the calls of `ReportForShutdown` it made. -/
structure AllUsersReport where
  code : ℤ
  event : BundleActiveEvent
  core : BundleActiveCore
  delivered : List (ℤ × BundleActiveEvent) := []

namespace BundleActiveCore

variable (tz : TimeZone)

/-- The loop over the services. Each way through the body ends with a `return`. -/
def reportToEachUser (timeNow : ℤ) (obtained : ℤ → Bool) (event : BundleActiveEvent)
    (core : BundleActiveCore) : List ℤ → AllUsersReport
  | [] => { code := 0, event := event, core := core }
  | userId :: _ =>
    let event := core.convertToSystemTimeLocked event
    let core := core.getUserDataAndInitializeIfNeeded tz userId timeNow
    if obtained userId = false then { code := -1, event := event, core := core }
    else
      { code := 0
        event := event
        core := core.withService userId (·.reportForShutdown tz event)
        delivered := [(userId, event)] }

/-- `ReportEventToAllUserId`; the clock is checked for the default user 0, and `DEFAULT_USER_ID` is -1. -/
def reportEventToAllUserId (core : BundleActiveCore) (event : BundleActiveEvent)
    (obtained : ℤ → Bool) (clock : Clock) : AllUsersReport :=
  let (timeNow, core) := core.checkTimeChangeAndGetWallTime tz 0 clock
  if timeNow = errTimeOperationFailed then { code := -1, event := event, core := core }
  else if core.userStatServices.isEmpty then { code := -1, event := event, core := core }
  else reportToEachUser tz timeNow obtained event core core.userStatServices.keys

def restoreAllData (core : BundleActiveCore) : BundleActiveCore :=
  (core.userStatServices.keys.foldl (fun core userId =>
    core.withService userId (·.restoreStats true)) core).removeFlushEvent

/-- The event that `ShutDown` reports, at its own reading of `GetBootTimeMs`. -/
def shutdownEvent (timeStamp : ℤ) : BundleActiveEvent :=
  { eventId := .shutdown, timeStamp := timeStamp, bundleName := deviceEventPackageName }

def shutDown (core : BundleActiveCore) (timeStamp : ℤ) (noActiveUser : Bool) (obtained : ℤ → Bool)
    (clock : Clock) : BundleActiveCore :=
  if noActiveUser then core
  else
    (core.reportEventToAllUserId tz (shutdownEvent timeStamp) obtained clock).core.restoreAllData

end BundleActiveCore

end DeviceUsageStats
