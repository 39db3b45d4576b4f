import Mathlib.Logic.Relation
import DeviceUsageStats.Spec.ObserverRegistry

/-! How clients keep their observers registered while the service dies and starts again
(`bundle_active_client.cpp`, with the two calls of `bundle_active_service.cpp`). A client process is
known by its access token and lives on. A call reaches the service if the proxy stands for the
service that runs, and the death of the service is reported once to every proxy that stands for it. -/

namespace DeviceUsageStats

structure BundleActiveClientDeathRecipient where
  observer : Option IAppGroupCallback := none

namespace BundleActiveClientDeathRecipient

def addObserver (r : BundleActiveClientDeathRecipient) (observer : Option IAppGroupCallback) :
    BundleActiveClientDeathRecipient :=
  match observer with
  | none => r
  | some _ => { r with observer := observer }

def removeObserver (r : BundleActiveClientDeathRecipient) : BundleActiveClientDeathRecipient :=
  { r with observer := none }

end BundleActiveClientDeathRecipient

/-- The client of one process. A proxy stands for one life of the service. -/
structure BundleActiveClient where
  bundleActiveProxy : Option ℕ := none
  recipient : Option BundleActiveClientDeathRecipient := none

/-- What a call on the client returns: the service is not there, the call does not reach it, it refuses
the caller, or the code of its core. -/
inductive ClientErrCode where
  | errGetSystemAbilityFailed
  | errCallFailed
  | errPermissionDenied
  | core (code : ObserverErrCode)
  deriving DecidableEq, Repr

/-- The registry of the service that runs, if one does, the clients, and for each client the death
notices on their way to it and its submitted `OnServiceDiedInner` tasks. -/
structure SubscriptionSystem where
  service : Option ObserverRegistry := none
  life : ℕ := 0
  clients : ℕ → BundleActiveClient := fun _ => {}
  deathNotices : ℕ → ℕ := fun _ => 0
  serviceDiedTasks : ℕ → ℕ := fun _ => 0

namespace SubscriptionSystem

variable (permitted : ℕ → Bool) (s : SubscriptionSystem) (tokenId : ℕ)

def setClient (client : BundleActiveClient) : SubscriptionSystem :=
  { s with clients := Function.update s.clients tokenId client }

def remembered : Option IAppGroupCallback :=
  (s.clients tokenId).recipient.bind (·.observer)

def registered : Option IAppGroupCallback :=
  s.service.bind (·.groupChangeObservers[tokenId]?)

/-- `GetBundleActiveProxy`, with its success. -/
def getBundleActiveProxy : Bool × SubscriptionSystem :=
  let client := s.clients tokenId
  match client.bundleActiveProxy, s.service with
  | some _, _ => (true, s)
  | none, none => (false, s)
  | none, some _ =>
    (true, s.setClient tokenId
      { bundleActiveProxy := some s.life, recipient := some (client.recipient.getD {}) })

/-- A call of the service over the proxy: `CheckSystemAppOrNativePermission` and the core. -/
def callService (call : ObserverRegistry → ObserverErrCode × ObserverRegistry) :
    ClientErrCode × SubscriptionSystem :=
  match s.service with
  | none => (.errCallFailed, s)
  | some registry =>
    if (s.clients tokenId).bundleActiveProxy ≠ some s.life then (.errCallFailed, s)
    else if permitted tokenId = false then (.errPermissionDenied, s)
    else (.core (call registry).1, { s with service := some (call registry).2 })

def modifyRecipient
    (f : BundleActiveClientDeathRecipient → BundleActiveClientDeathRecipient) :
    SubscriptionSystem :=
  s.setClient tokenId
    { s.clients tokenId with recipient := (s.clients tokenId).recipient.map f }

def registerAppGroupCallBack (observer : Option IAppGroupCallback) :
    ClientErrCode × SubscriptionSystem :=
  let (found, s) := s.getBundleActiveProxy tokenId
  if found = false then (.errGetSystemAbilityFailed, s)
  else
    let (ret, s) := s.callService permitted tokenId (·.registerAppGroupCallBack tokenId observer)
    if ret = .core .errOk then (ret, s.modifyRecipient tokenId (·.addObserver observer)) else (ret, s)

def unRegisterAppGroupCallBack : ClientErrCode × SubscriptionSystem :=
  let (found, s) := s.getBundleActiveProxy tokenId
  if found = false then (.errGetSystemAbilityFailed, s)
  else
    let (ret, s) := s.callService permitted tokenId (·.unRegisterAppGroupCallBack tokenId)
    if ret = .core .errOk then (ret, s.modifyRecipient tokenId (·.removeObserver)) else (ret, s)

def onRemoteDied : SubscriptionSystem :=
  { s.setClient tokenId { s.clients tokenId with bundleActiveProxy := none } with
    deathNotices := Function.update s.deathNotices tokenId (s.deathNotices tokenId - 1)
    serviceDiedTasks := Function.update s.serviceDiedTasks tokenId (s.serviceDiedTasks tokenId + 1) }

/-- `OnServiceDiedInner` from the round of its loop that finds the service. -/
def onServiceDiedInner : SubscriptionSystem :=
  let s := { s with
    serviceDiedTasks := Function.update s.serviceDiedTasks tokenId (s.serviceDiedTasks tokenId - 1) }
  let (_, s) := s.getBundleActiveProxy tokenId
  match s.remembered tokenId with
  | none => s
  | some observer => (s.registerAppGroupCallBack permitted tokenId (some observer)).2

/-- The service dies with its registry, and its proxies will hear of it. -/
def serviceDies : SubscriptionSystem :=
  { s with
    service := none
    life := s.life + 1
    deathNotices := fun tokenId => s.deathNotices tokenId +
      if (s.clients tokenId).bundleActiveProxy = some s.life then 1 else 0 }

end SubscriptionSystem

inductive SubscriptionOp where
  | serviceStarts
  | serviceDies
  | register (tokenId : ℕ) (observer : Option IAppGroupCallback)
  | unRegister (tokenId : ℕ)
  | otherCall (tokenId : ℕ)
  | remoteDied (tokenId : ℕ)
  | serviceDiedInner (tokenId : ℕ)

namespace SubscriptionSystem

variable (permitted : ℕ → Bool) (s : SubscriptionSystem)

def apply : SubscriptionOp → SubscriptionSystem
  | .serviceStarts => { s with service := some {} }
  | .serviceDies => s.serviceDies
  | .register tokenId observer => (s.registerAppGroupCallBack permitted tokenId observer).2
  | .unRegister tokenId => (s.unRegisterAppGroupCallBack permitted tokenId).2
  | .otherCall tokenId => (s.getBundleActiveProxy tokenId).2
  | .remoteDied tokenId => s.onRemoteDied tokenId
  | .serviceDiedInner tokenId => s.onServiceDiedInner permitted tokenId

/-- A task waits in its loop until the service is found. -/
def Enabled : SubscriptionOp → Prop
  | .serviceStarts => s.service = none
  | .serviceDies => s.service.isSome
  | .remoteDied tokenId => 0 < s.deathNotices tokenId
  | .serviceDiedInner tokenId =>
    0 < s.serviceDiedTasks tokenId ∧ (s.getBundleActiveProxy tokenId).1 = true
  | _ => True

def Step (Allowed : SubscriptionOp → Prop) (s s' : SubscriptionSystem) : Prop :=
  ∃ op, Allowed op ∧ s.Enabled op ∧ s' = s.apply permitted op

abbrev Steps (Allowed : SubscriptionOp → Prop) :
    SubscriptionSystem → SubscriptionSystem → Prop :=
  Relation.ReflTransGen (Step permitted Allowed)

abbrev Reached (s : SubscriptionSystem) : Prop := Steps permitted (fun _ => True) {} s

end SubscriptionSystem

end DeviceUsageStats
