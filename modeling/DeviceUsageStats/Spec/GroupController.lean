import DeviceUsageStats.Spec.UserHistory

/-! The group controller (`bundle_active_group_controller.cpp`): events, periodic checks and settings
that move a bundle between groups, uninstalls and saves. Whether a bundle is installed is read from the
system; a step takes it as an argument. The timers that a report starts are not part of the state. -/

namespace DeviceUsageStats

def groupOneMinute : ℤ := 60 * 1000
def groupOneHour : ℤ := 60 * groupOneMinute

def levelGroup : Fin 4 → ℤ := ![activeGroupAlive, activeGroupDaily, activeGroupFixed, activeGroupRare]

def eventIdMatchReason : EventId → Option ℕ
  | .abilityForeground => some groupEventReasonForeground
  | .abilityBackground => some groupEventReasonBackground
  | .systemInteractive => some groupEventReasonSystem
  | .userInteractive => some groupEventReasonUserInteraction
  | .notificationSeen => some groupEventReasonNotifySeen
  | .longTimeTaskStartted => some groupEventReasonLongTimeTaskStartted
  | _ => none

/-- The settings of the controller; the default ones are those before `Init`. -/
structure BundleActiveGroupController where
  screenTimeLevel : Fin 4 → ℤ := ![0, 0, 0, 0]
  bootTimeLevel : Fin 4 → ℤ := ![0, 0, 0, 0]
  timeoutForDirectlyUse : ℤ := 0
  timeoutForNotifySeen : ℤ := 0
  timeoutForSystemInteraction : ℤ := 0
  bundleGroupEnable : Bool := true

namespace BundleActiveGroupController

def init (debug : Bool) : BundleActiveGroupController :=
  { timeoutForDirectlyUse := if debug then 3 * groupOneMinute else groupOneHour
    timeoutForNotifySeen := if debug then groupOneMinute else 12 * groupOneHour
    timeoutForSystemInteraction := if debug then groupOneMinute else 10 * groupOneMinute
    screenTimeLevel := ![0, 0, if debug then 2 * groupOneMinute else groupOneHour,
      if debug then 4 * groupOneMinute else 2 * groupOneHour]
    bootTimeLevel := ![0, if debug then 2 * groupOneMinute else 12 * groupOneHour,
      if debug then 4 * groupOneMinute else 24 * groupOneHour,
      if debug then 16 * groupOneMinute else 48 * groupOneHour] }

variable (c : BundleActiveGroupController) (s : HistoryState)

/-- `GetNewGroup`; `none` is -1. -/
def getNewGroup (bundleName : String) (userId bootBasedTimeStamp uid : ℤ) : Option ℤ :=
  (s.getLevelIndex bundleName userId bootBasedTimeStamp c.screenTimeLevel c.bootTimeLevel
    uid).map levelGroup

def usageOf (event : BundleActiveEvent) (bootBasedTimeStamp : ℤ) : ℤ × ℤ × ℤ :=
  match event.eventId with
  | .notificationSeen => (activeGroupDaily, 0, bootBasedTimeStamp + c.timeoutForNotifySeen)
  | .systemInteractive => (activeGroupAlive, 0, bootBasedTimeStamp + c.timeoutForSystemInteraction)
  | _ => (activeGroupAlive, bootBasedTimeStamp, bootBasedTimeStamp + c.timeoutForDirectlyUse)

def reportEvent (event : BundleActiveEvent) (bootBasedTimeStamp userId : ℤ)
    (isBundleInstalled : Bool) : HistoryState :=
  if c.bundleGroupEnable = false ∨ isBundleInstalled = false then s
  else
    match eventIdMatchReason event.eventId with
    | none => s
    | some eventReason =>
      match s.getUsageHistoryForBundle event.bundleName userId bootBasedTimeStamp true event.uid with
      | (none, s) => s
      | (some e, s) =>
        let (newGroup, usedAt, timeUntilNextCheck) := c.usageOf event bootBasedTimeStamp
        let (e, changes) := s.reportUsage e event newGroup eventReason usedAt timeUntilNextCheck
          userId
        { s.putEntry userId (getBundleUsageKey event.bundleName event.uid) e with
          groupChanges := s.groupChanges ++ changes }

/-- The group and the reason that a check finds for an entry that is not forced, and whether it sets
them although they make the bundle no less active; `none` if no level is reached. -/
def checkedGroup (e : BundleActivePackageHistory) (newGroup : Option ℤ)
    (bootBasedTimeStampAdjusted : ℤ) : Option (ℤ × ℕ × Bool) :=
  let ages := e.controlReason = groupControlReasonDefault ∨
    e.controlReason = groupControlReasonUsage ∨ e.controlReason = groupControlReasonTimeout
  let groupReason := if ages then groupControlReasonTimeout else e.reasonInGroup
  match if ages then newGroup else some (max e.currentGroup activeGroupAlive) with
  | none => none
  | some newGroup =>
    if newGroup ≥ activeGroupAlive ∧ e.bundleAliveTimeoutTimeStamp > bootBasedTimeStampAdjusted then
      some (activeGroupAlive, groupControlReasonUsage ||| groupEventReasonAliveNotTimeout, true)
    else if newGroup ≥ activeGroupDaily ∧
        e.bundleDailyTimeoutTimeStamp > bootBasedTimeStampAdjusted then
      some (activeGroupDaily, groupControlReasonUsage ||| groupEventReasonAliveTimeout, true)
    else some (newGroup, groupReason, false)

def checkAndUpdateGroup (bundleName : String) (userId uid bootBasedTimeStamp : ℤ) : HistoryState :=
  match s.getUsageHistoryForBundle bundleName userId bootBasedTimeStamp true uid with
  | (none, s) => s
  | (some e, s) =>
    if e.IsForced then s
    else
      match checkedGroup e (c.getNewGroup s bundleName userId bootBasedTimeStamp uid)
        (s.getBootBasedTimeStamp bootBasedTimeStamp) with
      | none => s
      | some (newGroup, groupReason, notTimeout) =>
        if e.currentGroup < newGroup ∨ notTimeout then
          (s.setAppGroup bundleName userId uid bootBasedTimeStamp newGroup groupReason false).2
        else s

/-- `CheckEachBundleState` over the installed bundles. -/
def checkEachBundleState (userId : ℤ) (allBundlesForUser : List (String × ℤ))
    (bootBasedTimeStamp : ℤ) : HistoryState :=
  allBundlesForUser.foldl (fun s oneBundle =>
    c.checkAndUpdateGroup s oneBundle.1 userId oneBundle.2 bootBasedTimeStamp) s

end BundleActiveGroupController

namespace HistoryState

def keyContains (key bundleName : String) : Bool := decide (bundleName.toList <:+: key.toList)

/-- One round of the loop of `SetAppGroup` of the controller. The loop runs over the map that the
lookup may add to: it also visits an entry that is added behind the current key, and finds it set. -/
def setAppGroupStep (bundleName : String) (userId newGroup : ℤ) (reason : ℕ)
    (bootBasedTimeStamp : ℤ) (isFlush : Bool) (r : ErrCode × HistoryState)
    (entry : String × BundleActivePackageHistory) : ErrCode × HistoryState :=
  if keyContains entry.1 bundleName then
    let key := getBundleUsageKey bundleName entry.2.uid
    let added := ((r.2.userHistory[userId]?).bind (·[key]?)).isNone
    let s := (r.2.getUsageHistoryForBundle bundleName userId bootBasedTimeStamp true entry.2.uid).2
    let (tempResult, s) := s.setAppGroup bundleName userId entry.2.uid bootBasedTimeStamp newGroup
      reason isFlush
    let result := if tempResult ≠ .errOk then tempResult else r.1
    if added ∧ entry.1 < key then
      let (tempResult, s) := s.setAppGroup bundleName userId entry.2.uid bootBasedTimeStamp newGroup
        reason isFlush
      (if tempResult ≠ .errOk then tempResult else result, s)
    else (result, s)
  else r

def setAppGroupOfBundle (s : HistoryState) (bundleName : String) (userId newGroup : ℤ) (reason : ℕ)
    (bootBasedTimeStamp : ℤ) (isFlush isBundleInstalled : Bool) : ErrCode × HistoryState :=
  if isBundleInstalled = false then (.errNoAppGroupInfoInDatabase, s)
  else
    match s.userHistory[userId]? with
    | none => (.errNoAppGroupInfoInDatabase, s)
    | some packageHistoryMap =>
      packageHistoryMap.toList.foldl
        (setAppGroupStep bundleName userId newGroup reason bootBasedTimeStamp isFlush) (.errOk, s)

/-- `SetAppGroup` of the core: every setting from outside is forced. -/
def coreSetAppGroup (s : HistoryState) (bundleName : String) (newGroup userId : ℤ)
    (bootBasedTimeStamp : ℤ) (isFlush isBundleInstalled : Bool) : ErrCode × HistoryState :=
  s.setAppGroupOfBundle bundleName userId newGroup groupControlReasonForced bootBasedTimeStamp isFlush
    isBundleInstalled

def deleteUsageGroupCache (m : OneUserHistory) (bundleName : String) (uid appIndex : ℤ) :
    OneUserHistory :=
  let m := if appIndex ≠ 0 then m.erase (getBundleUsageKey bundleName uid) else m
  Entries.eraseEntries (fun key _ => bundleName.toList.isPrefixOf key.toList) m

/-- `DeleteUninstalledInfo` on the bundle-history table. -/
def deleteUninstalledInfo (rows : List BundleHistoryRow) (userId : ℤ) (bundleName : String)
    (uid appIndex : ℤ) : List BundleHistoryRow :=
  rows.filter fun row => ¬ (row.userId = userId ∧ (bundleName = "" ∨
    row.bundleName = bundleName ∧ (appIndex = 0 ∨ row.uid = uid)))

def onBundleUninstalled (s : HistoryState) (userId : ℤ) (bundleName : String) (uid appIndex : ℤ) :
    HistoryState :=
  match s.userHistory[userId]? with
  | none => s
  | some m =>
    { s with
      userHistory := s.userHistory.insert userId (deleteUsageGroupCache m bundleName uid appIndex)
      bundleHistoryTable := if s.bundleHistoryTableName then
          s.bundleHistoryTable.map (deleteUninstalledInfo · userId bundleName uid appIndex)
        else s.bundleHistoryTable }

def onUserRemoved (s : HistoryState) (userId : ℤ) : HistoryState :=
  { s with userHistory := s.userHistory.erase userId }

end HistoryState

/-- What is asked of the controller. A restart saves some histories and begins a new object over the
tables. -/
inductive HistoryOp where
  | reportEvent (event : BundleActiveEvent) (bootBasedTimeStamp userId : ℤ)
    (isBundleInstalled : Bool)
  | checkAndUpdateGroup (bundleName : String) (userId uid bootBasedTimeStamp : ℤ)
  | checkEachBundleState (userId : ℤ) (allBundlesForUser : List (String × ℤ))
    (bootBasedTimeStamp : ℤ)
  | setAppGroup (bundleName : String) (newGroup userId bootBasedTimeStamp : ℤ)
    (isFlush isBundleInstalled : Bool)
  | updateBootBasedAndScreenTime (isScreenOn : Bool) (bootBasedTimeStamp : ℤ) (isShutdown : Bool)
  | writeBundleUsage (userId : ℤ)
  | onBundleUninstalled (userId : ℤ) (bundleName : String) (uid appIndex : ℤ)
  | onUserRemoved (userId : ℤ)
  | restart (saved : List ℤ) (bootBasedTimeStamp : ℤ)

namespace HistoryState

def apply (c : BundleActiveGroupController) (s : HistoryState) : HistoryOp → HistoryState
  | .reportEvent event bootBasedTimeStamp userId isBundleInstalled =>
    c.reportEvent s event bootBasedTimeStamp userId isBundleInstalled
  | .checkAndUpdateGroup bundleName userId uid bootBasedTimeStamp =>
    c.checkAndUpdateGroup s bundleName userId uid bootBasedTimeStamp
  | .checkEachBundleState userId allBundlesForUser bootBasedTimeStamp =>
    c.checkEachBundleState s userId allBundlesForUser bootBasedTimeStamp
  | .setAppGroup bundleName newGroup userId bootBasedTimeStamp isFlush isBundleInstalled =>
    (s.coreSetAppGroup bundleName newGroup userId bootBasedTimeStamp isFlush isBundleInstalled).2
  | .updateBootBasedAndScreenTime isScreenOn bootBasedTimeStamp isShutdown =>
    s.updateBootBasedAndScreenTime isScreenOn bootBasedTimeStamp isShutdown
  | .writeBundleUsage userId => s.writeBundleUsage userId
  | .onBundleUninstalled userId bundleName uid appIndex =>
    s.onBundleUninstalled userId bundleName uid appIndex
  | .onUserRemoved userId => s.onUserRemoved userId
  | .restart saved bootBasedTimeStamp =>
    .new (saved.foldl writeBundleUsage s).toHistoryTables bootBasedTimeStamp

inductive Run (c : BundleActiveGroupController) (Start : HistoryTables → Prop)
    (Allowed : HistoryState → HistoryOp → Prop) : HistoryState → Prop where
  | start (tables : HistoryTables) (bootBasedTimeStamp : ℤ) (allowed : Start tables) :
    Run c Start Allowed (.new tables bootBasedTimeStamp)
  | step {s : HistoryState} (op : HistoryOp) (run : Run c Start Allowed s) (allowed : Allowed s op) :
    Run c Start Allowed (s.apply c op)

end HistoryState

end DeviceUsageStats
