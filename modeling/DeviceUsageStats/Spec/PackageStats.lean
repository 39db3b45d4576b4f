import DeviceUsageStats.Spec.Event

/-! The counters of one bundle (`bundle_active_package_stats.cpp`). A single running time stamp,
`lastTimeUsed`, serves any number of abilities, and `lastContiniousTaskUsed` any number of
long-time tasks. -/

namespace DeviceUsageStats

structure BundleActivePackageStats where
  bundleName : String := ""
  beginTimeStamp : ℤ := 0
  endTimeStamp : ℤ := 0
  lastTimeUsed : ℤ := -1
  totalInFrontTime : ℤ := 0
  lastContiniousTaskUsed : ℤ := -1
  totalContiniousTaskUsedTime : ℤ := 0
  startCount : ℤ := 0
  bundleStartedCount : ℤ := 0
  userId : ℤ := 0
  uid : ℤ := 0
  appIndex : ℤ := 0
  /-- ability id to the last event of the ability -/
  abilities : Std.TreeMap String EventId := {}
  /-- task name to the last event of the task -/
  longTimeTasks : Std.TreeMap String EventId := {}

namespace BundleActivePackageStats

def hasFrontAbility (s : BundleActivePackageStats) : Bool :=
  s.abilities.toList.any fun ability => ability.2 == .abilityForeground

def anyLongTimeTaskStarted (s : BundleActivePackageStats) : Bool :=
  !s.longTimeTasks.isEmpty

def incrementTimeUsed (s : BundleActivePackageStats) (timeStamp : ℤ) : BundleActivePackageStats :=
  if s.lastTimeUsed < timeStamp then
    { s with
      totalInFrontTime := s.totalInFrontTime + (timeStamp - s.lastTimeUsed)
      lastTimeUsed := timeStamp }
  else s

def incrementServiceTimeUsed (s : BundleActivePackageStats) (timeStamp : ℤ) :
    BundleActivePackageStats :=
  if s.lastContiniousTaskUsed < timeStamp then
    { s with
      totalContiniousTaskUsedTime :=
        s.totalContiniousTaskUsedTime + (timeStamp - s.lastContiniousTaskUsed)
      lastContiniousTaskUsed := timeStamp }
  else s

def incrementBundleLaunchedCount (s : BundleActivePackageStats) : BundleActivePackageStats :=
  { s with bundleStartedCount := s.bundleStartedCount + 1 }

/-- The first launch of a bundle with no ability known opens its counting period. -/
def noteFirstForeground (s : BundleActivePackageStats) (timeStamp : ℤ) (eventId : EventId) :
    BundleActivePackageStats :=
  if s.abilities.isEmpty ∧ eventId = .abilityForeground then
    { s with beginTimeStamp := timeStamp, startCount := s.startCount + 1 }
  else s

/-- The time since the last stamp is booked by the state the ability was in before the event. -/
def bookLastAbilityEvent (s : BundleActivePackageStats) (timeStamp : ℤ) (eventId : EventId)
    (abilityId : String) : BundleActivePackageStats :=
  match s.abilities[abilityId]? with
  | some .abilityForeground => s.incrementTimeUsed timeStamp
  | some .abilityBackground =>
    if eventId = .abilityForeground then { s with startCount := s.startCount + 1 } else s
  | _ => s

/-- The second `switch` of `UpdateAbility`: what the event itself does to the ability map. -/
def recordAbilityEvent (s : BundleActivePackageStats) (timeStamp : ℤ) (eventId : EventId)
    (abilityId : String) : BundleActivePackageStats :=
  match eventId with
  | .abilityForeground =>
    { s with
      lastTimeUsed := if s.hasFrontAbility then s.lastTimeUsed else timeStamp
      abilities := s.abilities.insert abilityId eventId }
  | .abilityBackground => { s with abilities := s.abilities.insert abilityId eventId }
  | .abilityStop => { s with abilities := s.abilities.erase abilityId }
  | _ => s

def updateAbility (s : BundleActivePackageStats) (timeStamp : ℤ) (eventId : EventId)
    (abilityId : String) : BundleActivePackageStats :=
  if eventId.isAppStateEvent then
    ((s.noteFirstForeground timeStamp eventId).bookLastAbilityEvent timeStamp eventId
      abilityId).recordAbilityEvent timeStamp eventId abilityId
  else s

def bookLastTaskEvent (s : BundleActivePackageStats) (longTimeTaskName : String) (timeStamp : ℤ) :
    BundleActivePackageStats :=
  match s.longTimeTasks[longTimeTaskName]? with
  | some .longTimeTaskStartted => s.incrementServiceTimeUsed timeStamp
  | _ => s

def recordTaskEvent (s : BundleActivePackageStats) (longTimeTaskName : String) (timeStamp : ℤ)
    (eventId : EventId) : BundleActivePackageStats :=
  match eventId with
  | .longTimeTaskStartted =>
    { s with
      lastContiniousTaskUsed :=
        if s.anyLongTimeTaskStarted then s.lastContiniousTaskUsed else timeStamp
      longTimeTasks := s.longTimeTasks.insert longTimeTaskName eventId }
  | .longTimeTaskEnded => { s with longTimeTasks := s.longTimeTasks.erase longTimeTaskName }
  | _ => s

def updateLongTimeTask (s : BundleActivePackageStats) (longTimeTaskName : String) (timeStamp : ℤ)
    (eventId : EventId) : BundleActivePackageStats :=
  if eventId = .longTimeTaskStartted ∨ eventId = .longTimeTaskEnded then
    (s.bookLastTaskEvent longTimeTaskName timeStamp).recordTaskEvent longTimeTaskName timeStamp
      eventId
  else s

/-- What `END_OF_THE_DAY`, `SHUTDOWN` and `FLUSH` do: book what is running up to the tick. -/
def tick (s : BundleActivePackageStats) (timeStamp : ℤ) : BundleActivePackageStats :=
  let s := if s.hasFrontAbility then s.incrementTimeUsed timeStamp else s
  if s.anyLongTimeTaskStarted then s.incrementServiceTimeUsed timeStamp else s

/-- `Update`; the uid parameter of the source is never read. -/
def update (s : BundleActivePackageStats) (longTimeTaskName : String) (timeStamp : ℤ)
    (eventId : EventId) (abilityId : String) : BundleActivePackageStats :=
  let s := match eventId with
    | .abilityForeground | .abilityBackground | .abilityStop =>
      s.updateAbility timeStamp eventId abilityId
    | .endOfTheDay => s.tick timeStamp
    | .longTimeTaskStartted | .longTimeTaskEnded =>
      s.updateLongTimeTask longTimeTaskName timeStamp eventId
    | .shutdown | .flush => s.tick timeStamp
    | _ => s
  { s with endTimeStamp := timeStamp }

end BundleActivePackageStats

end DeviceUsageStats
