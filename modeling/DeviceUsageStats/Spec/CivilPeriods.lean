import DeviceUsageStats.Lib.ZoneRule
import DeviceUsageStats.Spec.Calendar

/-! The C library over a time-zone rule, and the civil days, weeks, months and years of a local clock.
Weeks start on Monday; day 0 is 1970-01-01, a Thursday. -/

namespace DeviceUsageStats

/-- `localtime` splits the reading of the local clock; `mktime` presumes what `tm_isdst` says. -/
def TimeZone.ofRule (z : ZoneRule) : TimeZone where
  localtime s := (utc.localtime (z.reading s)).map fun tm =>
    { tm with tmIsdst := if z.isDst s then 1 else 0 }
  mktime tm := utc.mktime tm - z.presumed (0 < tm.tmIsdst) (utc.mktime tm)

def secondsOfDay : ℤ := 86400

def civilDay (reading : ℤ) : ℤ := reading / secondsOfDay

def firstDay : IntervalType → ℤ → ℤ
  | .daily, day => day
  | .weekly, day => day - (day + 3) % 7
  | .monthly, day => daysFromCivil (civilFromDays day).1 (civilFromDays day).2.1 1
  | .yearly, day => daysFromCivil (civilFromDays day).1 1 1

def periodMidnight (intervalType : IntervalType) (reading : ℤ) : ℤ :=
  firstDay intervalType (civilDay reading) * secondsOfDay

/-- The midnight that is handed to `mktime`: for a week that of the day itself. -/
def builtMidnight : IntervalType → ℤ → ℤ
  | .weekly, reading => civilDay reading * secondsOfDay
  | intervalType, reading => periodMidnight intervalType reading

def From1971 (reading : ℤ) : Prop := 365 * secondsOfDay ≤ reading

end DeviceUsageStats
