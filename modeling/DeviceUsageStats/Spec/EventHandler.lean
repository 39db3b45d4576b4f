import DeviceUsageStats.Lib.TaskPool
import DeviceUsageStats.Spec.ReportHandler

/-! The bookkeeping that the report handler (`bundle_active_report_handler.cpp`) and the group handler
(`bundle_active_group_handler.cpp`) share: `taskHandlerMap_` keeps, for a message id, the queue of the
handles of its tasks. The `ffrt` queue runs one task at a time, a task when its delay has elapsed. -/

namespace DeviceUsageStats

/-- `GetFFRTDelayTime`, as the unsigned number of microseconds that a task attribute takes. -/
def getFFRTDelayTime (delayTime : ℤ) : ℕ := (delayTime * 1000 % 2 ^ 64).toNat

structure EventTask (Id Obj : Type) where
  eventId : Id
  handlerobj : Obj
  delayTime : ℤ
  deriving DecidableEq

structure EventHandler (Id Obj : Type) where
  isInited : Bool := false
  taskHandlerMap : Id → Option (List ℕ) := fun _ => none
  ffrtQueue : TaskPool (EventTask Id Obj) := {}
  executing : Option (DelayedTask (EventTask Id Obj)) := none

namespace EventHandler

def new (Id Obj : Type) : EventHandler Id Obj := { ffrtQueue := .new _ }

variable {Id Obj : Type} [DecidableEq Id] (h : EventHandler Id Obj)

def init : EventHandler Id Obj := { h with isInited := true }

def sendEvent (eventId : Id) (handlerobj : Obj) (delayTime : ℤ) : EventHandler Id Obj :=
  if h.isInited = false then h
  else
    { h with
      ffrtQueue := h.ffrtQueue.submit
        { eventId := eventId, handlerobj := handlerobj, delayTime := delayTime }
        (getFFRTDelayTime delayTime)
      taskHandlerMap := Function.update h.taskHandlerMap eventId
        (some ((h.taskHandlerMap eventId).getD [] ++ [h.ffrtQueue.nextHandle])) }

/-- `RemoveEvent`; a cancel of a task that has started does nothing. -/
def removeEvent (eventId : Id) : EventHandler Id Obj :=
  if h.isInited = false then h
  else
    match h.taskHandlerMap eventId with
    | none => h
    | some handles =>
      { h with
        ffrtQueue := h.ffrtQueue.cancel handles
        taskHandlerMap := Function.update h.taskHandlerMap eventId none }

/-- `HasEvent`; the group handler has the map and no such function. -/
def hasEvent (eventId : Id) : Bool := h.isInited && (h.taskHandlerMap eventId).isSome

/-- A task begins with `ProcessEvent`, during which messages may be sent and removed. -/
def start (task : DelayedTask (EventTask Id Obj)) : EventHandler Id Obj :=
  { h with ffrtQueue := h.ffrtQueue.take task, executing := some task }

/-- A task ends: it pops the front of its message's queue, whosever handle that is. -/
def finish : EventHandler Id Obj :=
  match h.executing with
  | none => h
  | some task =>
    let h := { h with executing := none }
    match h.taskHandlerMap task.payload.eventId with
    | none => h
    | some handles =>
      { h with
        taskHandlerMap := Function.update h.taskHandlerMap task.payload.eventId (some handles.tail) }

end EventHandler

inductive HandlerOp (Id Obj : Type) where
  | init
  | send (eventId : Id) (handlerobj : Obj) (delayTime : ℤ)
  | remove (eventId : Id)
  | start (task : DelayedTask (EventTask Id Obj))
  | finish
  | advance (duration : ℕ)

namespace EventHandler

variable {Id Obj : Type} [DecidableEq Id] (h : EventHandler Id Obj)

def apply : HandlerOp Id Obj → EventHandler Id Obj
  | .init => h.init
  | .send eventId handlerobj delayTime => h.sendEvent eventId handlerobj delayTime
  | .remove eventId => h.removeEvent eventId
  | .start task => h.start task
  | .finish => h.finish
  | .advance duration => { h with ffrtQueue := h.ffrtQueue.advance duration }

def Enabled : HandlerOp Id Obj → Prop
  | .start task => h.executing = none ∧ h.ffrtQueue.Due task
  | .finish => h.executing.isSome
  | _ => True

inductive Run (Allowed : EventHandler Id Obj → HandlerOp Id Obj → Prop) :
    EventHandler Id Obj → Prop where
  | new : Run Allowed {}
  | step {h : EventHandler Id Obj} (op : HandlerOp Id Obj) (run : Run Allowed h)
    (enabled : h.Enabled op) (allowed : Allowed h op) : Run Allowed (h.apply op)

end EventHandler

end DeviceUsageStats
