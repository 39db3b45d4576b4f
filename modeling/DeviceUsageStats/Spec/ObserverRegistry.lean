import Mathlib.Tactic

/-! The observers of group changes and their death recipients (`bundle_active_core.cpp`). Remote objects
are told apart by identity. All death recipients do the same, so `recipientMap_` is the set of the remote
objects that have one. -/

namespace DeviceUsageStats

/-- `IAppGroupCallback` with the remote object that `AsObject` returns, if any. -/
structure IAppGroupCallback where
  asObject : Option ℕ
  deriving DecidableEq

inductive ObserverErrCode where
  | errOk
  | errMemoryOperationFailed
  | errRepeatRegisterOrDeregisterGroupCallback
  deriving DecidableEq, Repr

structure ObserverRegistry where
  groupChangeObservers : Std.TreeMap ℕ IAppGroupCallback := {}
  recipientMap : Std.TreeSet ℕ := {}

namespace ObserverRegistry

variable (s : ObserverRegistry)

def addObserverDeathRecipient (observer : IAppGroupCallback) : ObserverRegistry :=
  match observer.asObject with
  | none => s
  | some object =>
    if s.recipientMap.contains object then s
    else { s with recipientMap := s.recipientMap.insert object }

def removeObserverDeathRecipient (observer : IAppGroupCallback) : ObserverRegistry :=
  match observer.asObject with
  | none => s
  | some object =>
    if s.recipientMap.contains object then { s with recipientMap := s.recipientMap.erase object }
    else s

def registerAppGroupCallBack (tokenId : ℕ) (observer : Option IAppGroupCallback) :
    ObserverErrCode × ObserverRegistry :=
  match observer with
  | none => (.errMemoryOperationFailed, s)
  | some observer =>
    if s.groupChangeObservers.contains tokenId then (.errRepeatRegisterOrDeregisterGroupCallback, s)
    else
      (.errOk, { s with
        groupChangeObservers := s.groupChangeObservers.insert tokenId observer
        }.addObserverDeathRecipient observer)

/-- `UnRegisterAppGroupCallBack`; the observer of the call is not looked at. -/
def unRegisterAppGroupCallBack (tokenId : ℕ) : ObserverErrCode × ObserverRegistry :=
  match s.groupChangeObservers[tokenId]? with
  | none => (.errRepeatRegisterOrDeregisterGroupCallback, s)
  | some observer =>
    let s := s.removeObserverDeathRecipient observer
    (.errOk, { s with groupChangeObservers := s.groupChangeObservers.erase tokenId })

/-- `OnObserverDiedInner`: the loop ends at the first observer of the remote object. -/
def onObserverDiedInner (remote : ℕ) : ObserverRegistry :=
  { groupChangeObservers :=
      match s.groupChangeObservers.toList.find? fun item => item.2.asObject = some remote with
      | none => s.groupChangeObservers
      | some item => s.groupChangeObservers.erase item.1
    recipientMap := s.recipientMap.erase remote }

/-- `OnObserverDied`, which the group handler runs if it is there and initialised. -/
def onObserverDied (remote : Option ℕ) (handlerInited : Bool) : ObserverRegistry :=
  match remote with
  | none => s
  | some remote => if handlerInited then s.onObserverDiedInner remote else s

end ObserverRegistry

inductive ObserverOp where
  | register (tokenId : ℕ) (observer : Option IAppGroupCallback)
  | unRegister (tokenId : ℕ)
  | died (remote : Option ℕ) (handlerInited : Bool)

namespace ObserverRegistry

variable (s : ObserverRegistry)

def apply : ObserverOp → ObserverRegistry
  | .register tokenId observer => (s.registerAppGroupCallBack tokenId observer).2
  | .unRegister tokenId => (s.unRegisterAppGroupCallBack tokenId).2
  | .died remote handlerInited => s.onObserverDied remote handlerInited

inductive Run (Allowed : ObserverRegistry → ObserverOp → Prop) : ObserverRegistry → Prop where
  | new : Run Allowed {}
  | step {s : ObserverRegistry} (op : ObserverOp) (run : Run Allowed s) (allowed : Allowed s op) :
    Run Allowed (s.apply op)

end ObserverRegistry

end DeviceUsageStats
