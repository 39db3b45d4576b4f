import DeviceUsageStats.Spec.UserService

/-! A service over the events that are reported to it, with the daily tables of the days that its
rollovers left behind. A rollover saves the old periods, drops old tables and only then starts the
period that the clock is in, so the table of a day that is left is as the save wrote it. -/

namespace DeviceUsageStats

/-- The table of the daily period as `RenewStatsInMemory` saves it. -/
def ServiceState.savedRows (s : ServiceState) : List PackageLogRow :=
  ((s.flushDataInMem.2.restoreStats true).files.packageTables .daily).rows
    (s.currentStats .daily).beginTime

structure DailyHistory where
  service : ServiceState
  reported : List BundleActiveEvent := []
  savedDays : List (ℤ × List PackageLogRow) := []

namespace DailyHistory

variable (tz : TimeZone)

def beginTime (h : DailyHistory) : ℤ := (h.service.currentStats .daily).beginTime

def dayOf (h : DailyHistory) (event : BundleActiveEvent) : ℤ :=
  truncate tz h.service.debugUserService .daily event.timeStamp

def Expired (h : DailyHistory) (event : BundleActiveEvent) : Prop :=
  h.service.dailyExpiryDate.time ≤ event.timeStamp

instance (h : DailyHistory) (event : BundleActiveEvent) : Decidable (h.Expired event) :=
  inferInstanceAs (Decidable (_ ≤ _))

def report (h : DailyHistory) (event : BundleActiveEvent) : DailyHistory :=
  { service := h.service.reportEvent tz event
    reported := h.reported ++ [event]
    savedDays := if h.Expired event ∧ h.dayOf tz event ≠ h.beginTime then
        h.savedDays ++ [(h.beginTime, h.service.savedRows)]
      else h.savedDays }

/-- The histories of a service that starts on no saved usage, over stamps in time order, of events of
some bundles, that all meet a condition. -/
inductive Run (bundles : Set (String × ℤ))
    (Allowed : DailyHistory → BundleActiveEvent → Prop) : DailyHistory → Prop where
  | init (p : ProcessState) (userId : ℤ) (debug : Bool) (timeStamp : ℤ) (stamped : 0 < timeStamp)
    (begins : 0 ≤ truncate tz debug .daily timeStamp)
    (fresh : p.files.packageTables = fun _ => {})
    (within : ∀ n, ∀ v ∈ p.packageContainUidMap.getPackageUidSet n, (n, v) ∈ bundles) :
    Run bundles Allowed { service := .init tz p userId debug timeStamp }
  | step {h : DailyHistory} (event : BundleActiveEvent) (run : Run bundles Allowed h)
    (stamped : 0 < event.timeStamp) (ordered : ∀ e ∈ h.reported, e.timeStamp ≤ event.timeStamp)
    (within : event.eventId.isBundleEvent = true → (event.bundleName, event.uid) ∈ bundles)
    (allowed : Allowed h event) : Run bundles Allowed (h.report tz event)

end DailyHistory
end DeviceUsageStats
