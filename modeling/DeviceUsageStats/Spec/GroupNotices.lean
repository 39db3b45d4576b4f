import DeviceUsageStats.Spec.ObserverRegistry
import DeviceUsageStats.Spec.UserHistory

/-! How a change of a group reaches the observers (`bundle_active_core.cpp`). Every change is a task of the
group handler, whose tasks run one by one in the order in which they were posted. -/

namespace DeviceUsageStats

inductive ATokenTypeEnum where
  | tokenInvalid
  | tokenHap
  | tokenNative
  | tokenShell
  deriving DecidableEq, Repr

/-- What `AccessTokenKit` answers at one time: `GetHapTokenInfo` fills in the user of a token, or nothing.
A new `HapTokenInfo` has the user `hapTokenInfo`. -/
structure AccessTokenKit where
  hapTokenInfo : ℤ
  getTokenType : ℕ → ATokenTypeEnum
  getHapTokenInfo : ℕ → Option ℤ

structure AppGroupCall where
  tokenId : ℕ
  observer : IAppGroupCallback
  callbackInfo : AppGroupCallbackInfo
  deriving DecidableEq

/-- The loop of `NotifOberserverGroupChanged`; `tokenInfo` is the user of the token that was asked for
last. -/
def notifyObservers (kit : AccessTokenKit) (callbackInfo : AppGroupCallbackInfo) :
    ℤ → List (ℕ × IAppGroupCallback) → List AppGroupCall
  | _, [] => []
  | tokenInfo, (tokenId, observer) :: rest =>
    match kit.getTokenType tokenId with
    | .tokenNative =>
      ⟨tokenId, observer, callbackInfo⟩ :: notifyObservers kit callbackInfo tokenInfo rest
    | .tokenHap =>
      let tokenInfo := (kit.getHapTokenInfo tokenId).getD tokenInfo
      if tokenInfo = callbackInfo.userId then
        ⟨tokenId, observer, callbackInfo⟩ :: notifyObservers kit callbackInfo tokenInfo rest
      else notifyObservers kit callbackInfo tokenInfo rest
    | _ => notifyObservers kit callbackInfo tokenInfo rest

/-- The observers of the core, the tasks that wait in the group handler, and the calls made so far. -/
structure GroupNotices where
  registry : ObserverRegistry := {}
  tasks : List AppGroupCallbackInfo := []
  calls : List AppGroupCall := []

inductive GroupNoticeOp where
  | onAppGroupChanged (callbackInfo : AppGroupCallbackInfo) (handler : Bool)
  | runTask (kit : AccessTokenKit)
  | observers (op : ObserverOp)

namespace GroupNotices

variable (s : GroupNotices)

/-- `OnAppGroupChanged`: without a group handler nobody hears of the change. -/
def onAppGroupChanged (callbackInfo : AppGroupCallbackInfo) (handler : Bool) : GroupNotices :=
  if handler then { s with tasks := s.tasks ++ [callbackInfo] } else s

/-- `NotifOberserverGroupChanged` with the new `HapTokenInfo` of its task. -/
def notifOberserverGroupChanged (kit : AccessTokenKit) (callbackInfo : AppGroupCallbackInfo) :
    GroupNotices :=
  { s with
    calls := s.calls ++ notifyObservers kit callbackInfo kit.hapTokenInfo
      s.registry.groupChangeObservers.toList }

def runTask (kit : AccessTokenKit) : GroupNotices :=
  match s.tasks with
  | [] => s
  | callbackInfo :: tasks => { s with tasks := tasks }.notifOberserverGroupChanged kit callbackInfo

def apply : GroupNoticeOp → GroupNotices
  | .onAppGroupChanged callbackInfo handler => s.onAppGroupChanged callbackInfo handler
  | .runTask kit => s.runTask kit
  | .observers op => { s with registry := s.registry.apply op }

def run (ops : List GroupNoticeOp) : GroupNotices := ops.foldl apply s

end GroupNotices

end DeviceUsageStats
