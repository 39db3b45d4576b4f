import Mathlib.Tactic

/-! Events and the key under which the statistics of a bundle are stored
(`bundle_active_event.h`, `bundle_active_util.cpp`). -/

namespace DeviceUsageStats

/-- The event ids of `BundleActiveEvent`; `other` stands for every code without a name. -/
inductive EventId where
  | defaultEventId
  | abilityForeground
  | abilityBackground
  | abilityStop
  | longTimeTaskStartted
  | longTimeTaskEnded
  | systemInteractive
  | userInteractive
  | endOfTheDay
  | shutdown
  | startup
  | flush
  | screenInteractive
  | screenNonInteractive
  | formIsClicked
  | formIsRemoved
  | keyguardShown
  | keyguardHidden
  | notificationSeen
  | systemLock
  | systemUnlock
  | systemSleep
  | systemWakeup
  | other (code : ℤ)
  deriving DecidableEq, Repr

def int64Max : ℤ := 9223372036854775807

def defaultUidId : ℤ := -1

def deviceEventPackageName : String := "openharmony"

def operationSystemLock : String := "SYSTEM_LOCK"
def operationSystemUnlock : String := "SYSTEM_UNLOCK"
def operationSystemSleep : String := "SYSTEM_SLEEP"
def operationSystemWakeup : String := "SYSTEM_WAKEUP"

structure BundleActiveEvent where
  bundleName : String := ""
  continuousTaskAbilityName : String := ""
  abilityName : String := ""
  abilityId : String := ""
  moduleName : String := ""
  formName : String := ""
  formDimension : ℤ := 0
  formId : ℤ := 0
  timeStamp : ℤ := 0
  eventId : EventId := .defaultEventId
  uid : ℤ := defaultUidId
  deriving DecidableEq, Repr

def EventId.isBundleEvent : EventId → Bool
  | .abilityBackground | .abilityForeground | .abilityStop
  | .longTimeTaskStartted | .longTimeTaskEnded | .endOfTheDay => true
  | _ => false

def EventId.isAppStateEvent : EventId → Bool
  | .abilityBackground | .abilityForeground | .abilityStop => true
  | _ => false

def EventId.isTaskEvent : EventId → Bool
  | .longTimeTaskStartted | .longTimeTaskEnded => true
  | _ => false

/-- The events that only close what is running: they name no ability and no task. -/
def EventId.isTick : EventId → Bool
  | .endOfTheDay | .shutdown | .flush => true
  | _ => false

/-- `GetBundleUsageKey`: the bundle name followed by the decimal uid, with no separator. -/
def getBundleUsageKey (bundleName : String) (uid : ℤ) : String := bundleName ++ toString uid

end DeviceUsageStats
