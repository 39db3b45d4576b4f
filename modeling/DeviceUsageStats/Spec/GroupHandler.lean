import DeviceUsageStats.Spec.CheckBundle
import DeviceUsageStats.Spec.GroupController

/-! The group handler at work (`bundle_active_group_handler.cpp` with `bundle_active_group_controller.cpp`):
which messages the controller sends, and what `ProcessEvent` does with them. The tasks of `SendEvent` and
those of `SendCheckBundleMsg` run one at a time on one queue, a task when its delay has elapsed. -/

namespace DeviceUsageStats

/-- What a task reads of the system when it runs. -/
structure GroupReading where
  bootTimeMs : ℤ
  activatedOsAccountIds : List ℤ
  applicationInfos : ℤ → Option (List (String × ℤ))

/-- The histories with the messages of the handler, after `Init` of both. -/
structure GroupHandlerState where
  history : HistoryState
  handler : EventHandler ℤ (Option BundleActiveGroupHandlerObject) := (EventHandler.new _ _).init
  timers : CheckBundleTimers := CheckBundleTimers.new.init

namespace GroupHandlerState

def msgCheckDefaultBundleState : ℤ := 0
def msgOneTimeCheckBundleState : ℤ := 1
def msgCheckIdleState : ℤ := 2
def msgCheckNotificationSeenBundleState : ℤ := 3
def msgCheckSystemInteractiveBundleState : ℤ := 4

def fiveSecond : ℤ := 5 * 1000

def checkIdleInterval (debug : Bool) : ℤ := if debug then groupOneMinute else 3 * groupOneHour

/-- `BundleActiveGroupHandlerObject()` with a user. -/
def userObject (userId : ℤ) : BundleActiveGroupHandlerObject :=
  { bundleName := "", userId := userId, uid := -1 }

/-- `CheckEachBundleState`; `false` if the bundles of the user cannot be read. -/
def checkEachBundleState (debug : Bool) (reading : GroupReading) (history : HistoryState) (userId : ℤ) :
    Bool × HistoryState :=
  match reading.applicationInfos userId with
  | none => (false, history)
  | some allBundlesForUser =>
    (true, (BundleActiveGroupController.init debug).checkEachBundleState history userId
      allBundlesForUser reading.bootTimeMs)

variable (debug : Bool) (s : GroupHandlerState)

def processEvent (eventId : ℤ) (handlerobj : Option BundleActiveGroupHandlerObject)
    (reading : GroupReading) : GroupHandlerState :=
  if eventId = msgCheckDefaultBundleState ∨ eventId = msgCheckNotificationSeenBundleState ∨
      eventId = msgCheckSystemInteractiveBundleState then
    match handlerobj with
    | none => s
    | some obj =>
      let history := (BundleActiveGroupController.init debug).checkAndUpdateGroup s.history
        obj.bundleName obj.userId obj.uid reading.bootTimeMs
      { s with history := history.writeBundleUsage obj.userId }
  else if eventId = msgOneTimeCheckBundleState then
    { s with
      history := reading.activatedOsAccountIds.foldl (fun history userId =>
        (checkEachBundleState debug reading history userId).2.writeBundleUsage userId) s.history
      handler := s.handler.removeEvent msgOneTimeCheckBundleState }
  else if eventId = msgCheckIdleState then
    match handlerobj with
    | none => s
    | some obj =>
      let (checked, history) := checkEachBundleState debug reading s.history obj.userId
      if checked ∧ (BundleActiveGroupController.init debug).bundleGroupEnable then
        { s with
          history := history.writeBundleUsage obj.userId
          handler := s.handler.sendEvent msgCheckIdleState (some (userObject obj.userId))
            (checkIdleInterval debug) }
      else { s with history := history }
  else s

/-! ### The controller -/

/-- The message and the delay of the check that follows the report of an event. -/
def checkMessage (eventId : EventId) : ℤ × ℤ :=
  match eventId with
  | .notificationSeen => (msgCheckNotificationSeenBundleState,
      (BundleActiveGroupController.init debug).timeoutForNotifySeen)
  | .systemInteractive => (msgCheckSystemInteractiveBundleState,
      (BundleActiveGroupController.init debug).timeoutForSystemInteraction)
  | _ => (msgCheckDefaultBundleState, (BundleActiveGroupController.init debug).timeoutForDirectlyUse)

/-- `ReportEvent` with the check that it sends; the lookup of the entry creates one, so it finds one. -/
def reportEvent (event : BundleActiveEvent) (bootBasedTimeStamp userId : ℤ)
    (isBundleInstalled : Bool) : GroupHandlerState :=
  let history := (BundleActiveGroupController.init debug).reportEvent s.history event bootBasedTimeStamp
    userId isBundleInstalled
  if isBundleInstalled ∧ (eventIdMatchReason event.eventId).isSome then
    { s with
      history := history
      timers := s.timers.sendCheckBundleMsg (checkMessage debug event.eventId).1
        (some { bundleName := event.bundleName, userId := userId, uid := event.uid })
        (checkMessage debug event.eventId).2 }
  else { s with history := history }

def periodCheckBundleState (userId : ℤ) : GroupHandlerState :=
  { s with
    handler := s.handler.sendEvent msgCheckDefaultBundleState (some (userObject userId)) fiveSecond }

def checkIdleStatsOneTime : GroupHandlerState :=
  { s with
    handler := s.handler.sendEvent msgOneTimeCheckBundleState
      (some { bundleName := "", userId := -1, uid := -1 }) 0 }

def onUserSwitched (userId currentUsedUser : ℤ) (reading : GroupReading) : GroupHandlerState :=
  let history := (checkEachBundleState debug reading s.history currentUsedUser).2
  periodCheckBundleState
    { s with
      history := history.writeBundleUsage currentUsedUser
      handler := (((s.handler.removeEvent msgCheckIdleState).removeEvent
        msgCheckDefaultBundleState).removeEvent msgCheckNotificationSeenBundleState).removeEvent
          msgCheckSystemInteractiveBundleState } userId

def onUserRemoved (userId : ℤ) : GroupHandlerState :=
  { s with
    history := s.history.onUserRemoved userId
    handler := s.handler.removeEvent msgCheckIdleState }

end GroupHandlerState

inductive GroupHandlerOp where
  | reportEvent (event : BundleActiveEvent) (bootBasedTimeStamp userId : ℤ)
    (isBundleInstalled : Bool)
  | setAppGroup (bundleName : String) (newGroup userId bootBasedTimeStamp : ℤ)
    (isFlush isBundleInstalled : Bool)
  | updateBootBasedAndScreenTime (isScreenOn : Bool) (bootBasedTimeStamp : ℤ) (isShutdown : Bool)
  | restoreToDatabase (userId : ℤ)
  | periodCheckBundleState (userId : ℤ)
  | checkIdleStatsOneTime
  | onUserSwitched (userId currentUsedUser : ℤ) (reading : GroupReading)
  | onUserRemoved (userId : ℤ)
  | onBundleUninstalled (userId : ℤ) (bundleName : String) (uid appIndex : ℤ)
  | startEvent (task : DelayedTask (EventTask ℤ (Option BundleActiveGroupHandlerObject)))
    (reading : GroupReading)
  | finishEvent
  | startCheck (task : DelayedTask CheckBundleTask) (reading : GroupReading)
  | finishCheck
  | advance (duration : ℕ)

namespace GroupHandlerState

variable (debug : Bool) (s : GroupHandlerState)

def startEvent (task : DelayedTask (EventTask ℤ (Option BundleActiveGroupHandlerObject)))
    (reading : GroupReading) : GroupHandlerState :=
  processEvent debug { s with handler := s.handler.start task } task.payload.eventId
    task.payload.handlerobj reading

def startCheck (task : DelayedTask CheckBundleTask) (reading : GroupReading) : GroupHandlerState :=
  processEvent debug { s with timers := s.timers.start task } task.payload.eventId
    task.payload.handlerobj reading

def apply : GroupHandlerOp → GroupHandlerState
  | .reportEvent event bootBasedTimeStamp userId isBundleInstalled =>
    reportEvent debug s event bootBasedTimeStamp userId isBundleInstalled
  | .setAppGroup bundleName newGroup userId bootBasedTimeStamp isFlush isBundleInstalled =>
    { s with
      history := (s.history.coreSetAppGroup bundleName newGroup userId bootBasedTimeStamp isFlush
        isBundleInstalled).2 }
  | .updateBootBasedAndScreenTime isScreenOn bootBasedTimeStamp isShutdown =>
    { s with
      history := s.history.updateBootBasedAndScreenTime isScreenOn bootBasedTimeStamp isShutdown }
  | .restoreToDatabase userId => { s with history := s.history.writeBundleUsage userId }
  | .periodCheckBundleState userId => s.periodCheckBundleState userId
  | .checkIdleStatsOneTime => s.checkIdleStatsOneTime
  | .onUserSwitched userId currentUsedUser reading =>
    onUserSwitched debug s userId currentUsedUser reading
  | .onUserRemoved userId => s.onUserRemoved userId
  | .onBundleUninstalled userId bundleName uid appIndex =>
    { s with history := s.history.onBundleUninstalled userId bundleName uid appIndex }
  | .startEvent task reading => startEvent debug s task reading
  | .finishEvent => { s with handler := s.handler.finish }
  | .startCheck task reading => startCheck debug s task reading
  | .finishCheck => { s with timers := s.timers.finish }
  | .advance duration =>
    { s with
      handler := { s.handler with ffrtQueue := s.handler.ffrtQueue.advance duration }
      timers := { s.timers with ffrtQueue := s.timers.ffrtQueue.advance duration } }

/-- The queue starts a task when it is due and no other runs. -/
def Enabled : GroupHandlerOp → Prop
  | .startEvent task _ => s.handler.executing = none ∧ s.timers.executing = none ∧
      s.handler.ffrtQueue.Due task
  | .finishEvent => s.handler.executing.isSome
  | .startCheck task _ => s.handler.executing = none ∧ s.timers.executing = none ∧
      s.timers.ffrtQueue.Due task
  | .finishCheck => s.timers.executing.isSome
  | _ => True

def Step (Allowed : GroupHandlerOp → Prop) (s s' : GroupHandlerState) : Prop :=
  ∃ op, Allowed op ∧ s.Enabled op ∧ s.apply debug op = s'

abbrev Steps (Allowed : GroupHandlerOp → Prop) : GroupHandlerState → GroupHandlerState → Prop :=
  Relation.ReflTransGen (Step debug Allowed)

/-- What is reached from the handler as it starts over some tables. -/
def Reached (s : GroupHandlerState) : Prop :=
  ∃ tables bootBasedTimeStamp,
    Steps debug (fun _ => True) { history := .new tables bootBasedTimeStamp } s

end GroupHandlerState

end DeviceUsageStats
