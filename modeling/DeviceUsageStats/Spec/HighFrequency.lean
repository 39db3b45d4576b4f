import Mathlib.Data.List.Sort
import DeviceUsageStats.Spec.Calendar
import DeviceUsageStats.Spec.Event

/-! The hours at which bundles are used most (`bundle_active_core.cpp`), with the thresholds of the
configuration (`bundle_active_config_reader.cpp`). An access outside an array is undefined, and so is the
result that meets one. -/

namespace DeviceUsageStats

def numHourOneDay : ℕ := 24
def numDayOneWeek : ℕ := 7

def defaultInvalidValue : ℤ := 0

/-! ### Tallies of use -/

def elementAt {α : Type} {n : ℕ} (values : Vector α n) (i : ℤ) : Option α :=
  if 0 ≤ i then values[i.toNat]? else none

def increment {n : ℕ} (counts : Vector ℤ n) (i : ℤ) : Option (Vector ℤ n) :=
  (elementAt counts i).map fun count => counts.setIfInBounds i.toNat (count + 1)

structure AppUsage where
  dayUsage : Vector ℤ numDayOneWeek := Vector.replicate numDayOneWeek 0
  hourUsage : Vector (Vector ℤ numHourOneDay) numDayOneWeek :=
    Vector.replicate numDayOneWeek (Vector.replicate numHourOneDay 0)
  hourTotalUse : Vector ℤ numHourOneDay := Vector.replicate numHourOneDay 0
  startTime : ℤ := defaultInvalidValue

namespace AppUsage

/-- The end of a session, counted at its start. -/
def closeSession (localtime : ℤ → Option Tm) (usage : AppUsage) : Option AppUsage :=
  match localtime (usage.startTime.tdiv 1000) with
  | none => some { usage with startTime := defaultInvalidValue }
  | some startTimeTm => do
    let weekDay := startTimeTm.tmWday
    let hour := startTimeTm.tmHour
    let dayUsage ← increment usage.dayUsage weekDay
    let hours ← elementAt usage.hourUsage weekDay
    let hours ← increment hours hour
    let hourTotalUse ← increment usage.hourTotalUse hour
    some
      { dayUsage := dayUsage
        hourUsage := usage.hourUsage.setIfInBounds weekDay.toNat hours
        hourTotalUse := hourTotalUse
        startTime := defaultInvalidValue }

end AppUsage

abbrev AppUsages := Std.TreeMap String AppUsage

/-- The body of the loop of `ProcessEvents`. -/
def processEvent (localtime : ℤ → Option Tm) (appUsages : AppUsages) (event : BundleActiveEvent) :
    Option AppUsages :=
  let bundleName := event.bundleName
  match event.eventId with
  | .abilityForeground =>
    let usage := (appUsages[bundleName]?).getD {}
    some (appUsages.insert bundleName
      (if usage.startTime = defaultInvalidValue then { usage with startTime := event.timeStamp }
        else usage))
  | .abilityBackground | .abilityStop =>
    match appUsages[bundleName]? with
    | none => some appUsages
    | some usage =>
      if usage.startTime = defaultInvalidValue then some appUsages
      else (usage.closeSession localtime).map (appUsages.insert bundleName ·)
  | _ => some appUsages

def processEvents (localtime : ℤ → Option Tm) (appUsages : AppUsages)
    (events : List BundleActiveEvent) : Option AppUsages :=
  events.foldlM (processEvent localtime) appUsages

/-! ### Thresholds -/

/-- What the code uses of the cJSON library. -/
structure CJson where
  Item : Type
  getObjectItem : Item → String → Option Item
  isObject : Item → Bool
  isNumber : Item → Bool
  valueint : Item → ℤ

structure AppHighFrequencyPeriodThresholdConfig where
  minTotalUseDays : ℤ
  minTopUseHoursLimit : ℤ
  minHourUseDays : ℤ
  maxHighFreqHourNum : ℤ
  deriving DecidableEq, Repr

namespace BundleActiveConfigReader

def minimumLimit : ℤ := 0

def defaultMinTotalUseDays : ℤ := 4
def defaultTopUseHoursLimit : ℤ := 6
def defaultMinHourUseDays : ℤ := 4
def defaultMaxHighFrequencyHourNum : ℤ := 3

variable (json : CJson)

def getIntValue (root : json.Item) (parameterName : String) (minLimit maxLimit defaultValue : ℤ) :
    ℤ :=
  match json.getObjectItem root parameterName with
  | none => defaultValue
  | some item =>
    if json.isNumber item = false then defaultValue
    else if json.valueint item < minLimit ∨ json.valueint item > maxLimit then defaultValue
    else json.valueint item

def loadAppHighFreqPeriodThresholdConfig (root : json.Item)
    (config : AppHighFrequencyPeriodThresholdConfig) : AppHighFrequencyPeriodThresholdConfig :=
  match json.getObjectItem root "application_use_high_frequency_judge_threshold" with
  | none => config
  | some item =>
    if json.isObject item = false then config
    else
      { minTotalUseDays := getIntValue json item "MinTotalUseDays" minimumLimit numDayOneWeek
          defaultMinTotalUseDays
        minTopUseHoursLimit := getIntValue json item "MinTopUseHoursLimit" minimumLimit
          numHourOneDay defaultTopUseHoursLimit
        minHourUseDays := getIntValue json item "MinHourUseDays" minimumLimit numDayOneWeek
          defaultMinHourUseDays
        maxHighFreqHourNum := getIntValue json item "MaxHighFrequencyHourNum" minimumLimit
          numHourOneDay defaultMaxHighFrequencyHourNum }

def defaultConfig : AppHighFrequencyPeriodThresholdConfig where
  minTotalUseDays := defaultMinTotalUseDays
  minTopUseHoursLimit := defaultTopUseHoursLimit
  minHourUseDays := defaultMinHourUseDays
  maxHighFreqHourNum := defaultMaxHighFrequencyHourNum

/-- `LoadConfig` of the thresholds, over the configuration files that can be read and parsed. -/
def loadConfig (roots : List json.Item) : AppHighFrequencyPeriodThresholdConfig :=
  roots.foldl (fun config root => loadAppHighFreqPeriodThresholdConfig json root config)
    defaultConfig

end BundleActiveConfigReader

/-! ### The hours of most use -/

/-- `std::sort` by a descending key; the order of elements with equal keys is left open. -/
structure StdSort where
  sort : {α : Type} → (α → α → Bool) → List α → List α
  perm : ∀ {α : Type} (before : α → α → Bool) (l : List α), (sort before l).Perm l
  sorted : ∀ {α : Type} (key : α → ℤ) (l : List α),
    (sort (fun a b => key a > key b) l).Pairwise fun a b => key b ≤ key a

structure ElementWithIndex where
  useTimes : ℤ
  originlIndex : ℤ

structure BundleActiveHighFrequencyPeriod where
  bundleName : String
  highFreqHours : List ℤ
  deriving DecidableEq, Repr

def countDays (value : ℤ → Option ℤ) (test : ℤ → Bool) : Option ℤ :=
  (List.range numDayOneWeek).foldlM (fun count (weekDay : ℕ) =>
    (value weekDay).map fun v => if test v then count + 1 else count) 0

def getTopHourUsage (std : StdSort) (config : AppHighFrequencyPeriodThresholdConfig)
    (usage : AppUsage) : Option (List (ℤ × ℤ)) := do
  let elementsWithIndices ← (List.range numHourOneDay).mapM fun (i : ℕ) =>
    (elementAt usage.hourTotalUse i).map fun useTimes =>
      { useTimes := useTimes, originlIndex := i : ElementWithIndex }
  let elementsWithIndices := std.sort (fun a b => a.useTimes > b.useTimes) elementsWithIndices
  (List.range config.minTopUseHoursLimit.toNat).foldlM (fun topHoursUsage i => do
    let element ← elementsWithIndices[i]?
    let hour := element.originlIndex
    let hourUseDays ← countDays
      (fun weekDay => (elementAt usage.hourUsage weekDay).bind (elementAt · hour)) (· > 0)
    some (if hourUseDays ≥ config.minHourUseDays then topHoursUsage ++ [(hour, hourUseDays)]
      else topHoursUsage)) []

/-- The body of the loop of `GetFreqBundleHours`. -/
def getFreqBundleHour (std : StdSort) (config : AppHighFrequencyPeriodThresholdConfig)
    (appFreqHours : List BundleActiveHighFrequencyPeriod) (app : String × AppUsage) :
    Option (List BundleActiveHighFrequencyPeriod) := do
  let totalDayUse ← countDays (elementAt app.2.dayUsage ·) (· ≠ 0)
  if totalDayUse < config.minTotalUseDays then some appFreqHours
  else
    let topHoursUsage ← getTopHourUsage std config app.2
    if topHoursUsage.length > 0 then
      let topHoursUsage := std.sort (fun a b => a.2 > b.2) topHoursUsage
      -- the conversion to `uint64_t` makes a huge bound of a negative one
      let maxHighFreqHourNum := (config.maxHighFreqHourNum % 2 ^ 64).toNat
      let topHoursUsage :=
        if topHoursUsage.length > maxHighFreqHourNum then topHoursUsage.take maxHighFreqHourNum
        else topHoursUsage
      some (appFreqHours ++
        [{ bundleName := app.1, highFreqHours := topHoursUsage.map Prod.fst }])
    else some appFreqHours

/-- `GetFreqBundleHours`; the bundles stand in the order in which the loop visits the hash map. -/
def getFreqBundleHours (std : StdSort) (config : AppHighFrequencyPeriodThresholdConfig)
    (appUsages : List (String × AppUsage)) : Option (List BundleActiveHighFrequencyPeriod) :=
  appUsages.foldlM (getFreqBundleHour std config) []

end DeviceUsageStats
