import Mathlib.Tactic

/-! Calendar truncation (`bundle_active_calendar.cpp`, `bundle_active_util.cpp`). The C library's
`localtime` and `mktime` are a parameter, the time zone; in debug mode the periods are fixed
lengths and no time zone is read. -/

namespace DeviceUsageStats

inductive IntervalType where
  | daily
  | weekly
  | monthly
  | yearly
  deriving DecidableEq, Repr, Inhabited

/-- The order of the indices `PERIOD_DAILY` to `PERIOD_YEARLY`. -/
def IntervalType.all : List IntervalType := [.daily, .weekly, .monthly, .yearly]

def IntervalType.ofIndex : ℤ → Option IntervalType
  | 0 => some .daily
  | 1 => some .weekly
  | 2 => some .monthly
  | 3 => some .yearly
  | _ => none

def periodBest : ℤ := 4

def oneSecondMilliseconds : ℤ := 1000
def twoSeconds : ℤ := 2 * 1000
def tenMinutes : ℤ := 10 * 60 * 1000
def oneDayTime : ℤ := 24 * 60 * 60 * 1000
def sevenDayInMillisMax : ℤ := 7 * 24 * 60 * 60 * 1000
def sixDayInMillisMaxDebug : ℤ := 6 * 1 * 10 * 60 * 1000

/-- `ONE_DAY_TIME` to `ONE_YEAR_TIME` and their debug values, the `periodLength_` of a service. -/
def periodLength (debug : Bool) : IntervalType → ℤ
  | .daily => if debug then 10 * 60 * 1000 else oneDayTime
  | .weekly => if debug then 20 * 60 * 1000 else 7 * 24 * 60 * 60 * 1000
  | .monthly => if debug then 30 * 60 * 1000 else 30 * 24 * 60 * 60 * 1000
  | .yearly => if debug then 40 * 60 * 1000 else 365 * 24 * 60 * 60 * 1000

/-- The fields of `std::tm` that the code reads or writes. -/
structure Tm where
  tmSec : ℤ
  tmMin : ℤ
  tmHour : ℤ
  tmMday : ℤ
  tmMon : ℤ
  tmYear : ℤ
  tmWday : ℤ
  tmIsdst : ℤ
  deriving DecidableEq, Repr

/-- `localtime` fails with `nullptr`; both functions count seconds. -/
structure TimeZone where
  localtime : ℤ → Option Tm
  mktime : Tm → ℤ

/-- `GetIntervalTypeStartTime`; the value 0 is `ERROR_TIME`. -/
def getIntervalTypeStartTime (tz : TimeZone) (timeStamp : ℤ) (intervalType : IntervalType) : ℤ :=
  if timeStamp ≤ 0 then 0
  else
    match tz.localtime (timeStamp / 1000) with
    | none => 0
    | some tmTime =>
      let tmTime := { tmTime with tmHour := 0, tmMin := 0, tmSec := 0 }
      match intervalType with
      | .weekly =>
        let startOfDay := tz.mktime tmTime * 1000
        let weekDayTime := (tmTime.tmWday + 6) % 7 * oneDayTime
        startOfDay - weekDayTime
      | .daily => tz.mktime tmTime * 1000
      | .monthly => tz.mktime { tmTime with tmMday := 1 } * 1000
      | .yearly => tz.mktime { tmTime with tmMon := 0, tmMday := 1 } * 1000

structure BundleActiveCalendar where
  time : ℤ := 0
  debug : Bool := false
  deriving DecidableEq, Repr

namespace BundleActiveCalendar

def truncateTo (tz : TimeZone) (c : BundleActiveCalendar) (intervalType : IntervalType) :
    BundleActiveCalendar :=
  if c.debug then { c with time := c.time - c.time.tmod (periodLength true intervalType) }
  else
    let startTime := getIntervalTypeStartTime tz c.time intervalType
    if startTime = 0 then c else { c with time := startTime }

def truncateToDay (tz : TimeZone) (c : BundleActiveCalendar) : BundleActiveCalendar :=
  c.truncateTo tz .daily

def increase (c : BundleActiveCalendar) (intervalType : IntervalType) (val : ℤ) :
    BundleActiveCalendar :=
  { c with time := c.time + val * periodLength c.debug intervalType }

def setMilliseconds (c : BundleActiveCalendar) (timeStamp : ℤ) : BundleActiveCalendar :=
  { c with time := timeStamp }

end BundleActiveCalendar

/-- The start of the period of a type that contains a time stamp. -/
def truncate (tz : TimeZone) (debug : Bool) (intervalType : IntervalType) (timeStamp : ℤ) : ℤ :=
  (BundleActiveCalendar.truncateTo tz { time := timeStamp, debug := debug } intervalType).time

/-! ### Coordinated universal time -/

/-- Days from 1970-01-01 to a civil date of the proleptic Gregorian calendar, months from 1. -/
def daysFromCivil (year month day : ℤ) : ℤ :=
  let y := if month ≤ 2 then year - 1 else year
  let era := y / 400
  let yoe := y - era * 400
  let doy := (153 * ((month + 9) % 12) + 2) / 5 + day - 1
  let doe := yoe * 365 + yoe / 4 - yoe / 100 + doy
  era * 146097 + doe - 719468

def civilFromDays (days : ℤ) : ℤ × ℤ × ℤ :=
  let z := days + 719468
  let era := z / 146097
  let doe := z - era * 146097
  let yoe := (doe - doe / 1460 + doe / 36524 - doe / 146096) / 365
  let doy := doe - (365 * yoe + yoe / 4 - yoe / 100)
  let mp := (5 * doy + 2) / 153
  let day := doy - (153 * mp + 2) / 5 + 1
  let month := if mp < 10 then mp + 3 else mp - 9
  (yoe + era * 400 + (if month ≤ 2 then 1 else 0), month, day)

def utc : TimeZone where
  localtime seconds :=
    let days := seconds / 86400
    let (year, month, day) := civilFromDays days
    some
      { tmSec := seconds % 60, tmMin := seconds / 60 % 60, tmHour := seconds / 3600 % 24
        tmMday := day, tmMon := month - 1, tmYear := year - 1900
        tmWday := (days + 4) % 7, tmIsdst := 0 }
  mktime tm :=
    daysFromCivil (tm.tmYear + 1900) (tm.tmMon + 1) tm.tmMday * 86400 + tm.tmHour * 3600 +
      tm.tmMin * 60 + tm.tmSec

example : truncate utc false .monthly 1709251200000 = 1709251200000 := by decide +kernel

end DeviceUsageStats
