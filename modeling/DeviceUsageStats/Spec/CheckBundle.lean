import DeviceUsageStats.Spec.EventHandler

/-! The check timers of the group handler (`bundle_active_group_handler.cpp`). A message has at most one
entry in `checkBundleTaskMap_`, under a key made of its contents. Messages come from the report handler's
queue at any time; the tasks run one at a time on the group handler's queue, whose other tasks do not
touch the map. -/

namespace DeviceUsageStats

structure BundleActiveGroupHandlerObject where
  bundleName : String := ""
  userId : ℤ
  uid : ℤ
  deriving DecidableEq

def getMsgKey (eventId : ℤ) (handlerobj : Option BundleActiveGroupHandlerObject) (delayTime : ℤ) :
    String :=
  match handlerobj with
  | none => ""
  | some obj => toString eventId ++ "_" ++ toString obj.userId ++ "_" ++ toString obj.uid ++ "_" ++
      obj.bundleName ++ "_" ++ toString delayTime

structure CheckBundleTask where
  eventId : ℤ
  handlerobj : Option BundleActiveGroupHandlerObject
  msgKey : String
  deriving DecidableEq

structure CheckBundleTimers where
  isInited : Bool := false
  checkBundleTaskMap : Std.TreeMap String ℕ := {}
  ffrtQueue : TaskPool CheckBundleTask := {}
  executing : Option (DelayedTask CheckBundleTask) := none

namespace CheckBundleTimers

def new : CheckBundleTimers := { ffrtQueue := .new _ }

variable (h : CheckBundleTimers)

def init : CheckBundleTimers := { h with isInited := true }

def removeCheckBundleMsg (msgKey : String) : CheckBundleTimers :=
  if h.isInited = false then h
  else
    match h.checkBundleTaskMap[msgKey]? with
    | none => h
    | some handle =>
      { h with
        ffrtQueue := h.ffrtQueue.cancel [handle]
        checkBundleTaskMap := h.checkBundleTaskMap.erase msgKey }

def sendCheckBundleMsg (eventId : ℤ) (handlerobj : Option BundleActiveGroupHandlerObject)
    (delayTime : ℤ) : CheckBundleTimers :=
  let msgKey := getMsgKey eventId handlerobj delayTime
  if h.isInited = false ∨ msgKey = "" then h
  else
    let h := if h.checkBundleTaskMap.contains msgKey then h.removeCheckBundleMsg msgKey else h
    { h with
      ffrtQueue := h.ffrtQueue.submit
        { eventId := eventId, handlerobj := handlerobj, msgKey := msgKey }
        (getFFRTDelayTime delayTime)
      checkBundleTaskMap := h.checkBundleTaskMap.insert msgKey h.ffrtQueue.nextHandle }

/-- A task begins with `ProcessEvent`; from now on it cannot be cancelled. -/
def start (task : DelayedTask CheckBundleTask) : CheckBundleTimers :=
  { h with ffrtQueue := h.ffrtQueue.take task, executing := some task }

/-- A task ends: it erases the entry of its key, whosever handle that holds. -/
def finish : CheckBundleTimers :=
  match h.executing with
  | none => h
  | some task =>
    { h with
      executing := none
      checkBundleTaskMap := h.checkBundleTaskMap.erase task.payload.msgKey }

end CheckBundleTimers

inductive CheckBundleOp where
  | init
  | send (eventId : ℤ) (handlerobj : Option BundleActiveGroupHandlerObject) (delayTime : ℤ)
  | start (task : DelayedTask CheckBundleTask)
  | finish
  | advance (duration : ℕ)

namespace CheckBundleTimers

variable (h : CheckBundleTimers)

def apply : CheckBundleOp → CheckBundleTimers
  | .init => h.init
  | .send eventId handlerobj delayTime => h.sendCheckBundleMsg eventId handlerobj delayTime
  | .start task => h.start task
  | .finish => h.finish
  | .advance duration => { h with ffrtQueue := h.ffrtQueue.advance duration }

def Enabled : CheckBundleOp → Prop
  | .start task => h.executing = none ∧ h.ffrtQueue.Due task
  | .finish => h.executing.isSome
  | _ => True

inductive Run (Allowed : CheckBundleTimers → CheckBundleOp → Prop) : CheckBundleTimers → Prop where
  | new : Run Allowed {}
  | step {h : CheckBundleTimers} (op : CheckBundleOp) (run : Run Allowed h) (enabled : h.Enabled op)
    (allowed : Allowed h op) : Run Allowed (h.apply op)

end CheckBundleTimers

end DeviceUsageStats
