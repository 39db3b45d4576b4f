import Mathlib.Tactic

/-! The report handler's bookkeeping (`bundle_active_report_handler.cpp`). `taskHandlerMap_` holds,
for a message id, the queue of the handles of its tasks; a key may outlive its last handle. The
`ffrt` queue runs the pending tasks one at a time. -/

namespace DeviceUsageStats

/-- The message ids; only `MSG_FLUSH_TO_DISK` is sent with a delay and asked for by `HasEvent`. -/
inductive ReportMessage where
  | reportEvent
  | flushToDisk
  | removeUser
  | switchUser
  | bundleUninstalled
  | bundleInstalled
  deriving DecidableEq, Repr

structure PendingTask where
  handle : ℕ
  eventId : ReportMessage
  userId : ℤ
  delayTime : ℤ
  deriving DecidableEq, Repr

structure BundleActiveReportHandler where
  taskHandlerMap : ReportMessage → Option (List ℕ) := fun _ => none
  pending : List PendingTask := []
  nextHandle : ℕ := 0

namespace BundleActiveReportHandler

def hasEvent (h : BundleActiveReportHandler) (eventId : ReportMessage) : Bool :=
  (h.taskHandlerMap eventId).isSome

def sendEvent (h : BundleActiveReportHandler) (eventId : ReportMessage) (userId delayTime : ℤ) :
    BundleActiveReportHandler :=
  { h with
    taskHandlerMap := Function.update h.taskHandlerMap eventId
      (some ((h.taskHandlerMap eventId).getD [] ++ [h.nextHandle]))
    pending := h.pending ++
      [{ handle := h.nextHandle, eventId := eventId, userId := userId, delayTime := delayTime }]
    nextHandle := h.nextHandle + 1 }

/-- Every handle in the queue of the message is cancelled and the key is erased. -/
def removeEvent (h : BundleActiveReportHandler) (eventId : ReportMessage) :
    BundleActiveReportHandler :=
  match h.taskHandlerMap eventId with
  | none => h
  | some handles =>
    { h with
      taskHandlerMap := Function.update h.taskHandlerMap eventId none
      pending := h.pending.filter fun task => task.handle ∉ handles }

def start (h : BundleActiveReportHandler) (task : PendingTask) : BundleActiveReportHandler :=
  { h with pending := h.pending.erase task }

/-- What a task does after `ProcessEvent`: the front handle is popped, the key stays. -/
def finish (h : BundleActiveReportHandler) (eventId : ReportMessage) : BundleActiveReportHandler :=
  match h.taskHandlerMap eventId with
  | none => h
  | some handles =>
    { h with taskHandlerMap := Function.update h.taskHandlerMap eventId (some handles.tail) }

end BundleActiveReportHandler

end DeviceUsageStats
