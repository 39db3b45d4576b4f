import DeviceUsageStats.Lib.Entries
import DeviceUsageStats.Spec.Event

/-! The history of the bundles of each user, from which their groups are derived
(`bundle_active_user_history.cpp`, `bundle_active_group_common.h`), with the bundle-history and duration
tables of the application-group database (`bundle_active_usage_database.cpp`). -/

namespace DeviceUsageStats

def activeGroupAlive : ℤ := 10
def activeGroupDaily : ℤ := 20
def activeGroupFixed : ℤ := 30
def activeGroupRare : ℤ := 40
def activeGroupNever : ℤ := 60

def groupControlReasonMask : ℕ := 0xFF00
def groupControlReasonDefault : ℕ := 0x0100
def groupControlReasonTimeout : ℕ := 0x0200
def groupControlReasonUsage : ℕ := 0x0300
def groupControlReasonForced : ℕ := 0x0400

def groupEventReasonSystem : ℕ := 0x0001
def groupEventReasonNotifySeen : ℕ := 0x0002
def groupEventReasonUserInteraction : ℕ := 0x0003
def groupEventReasonForeground : ℕ := 0x0004
def groupEventReasonBackground : ℕ := 0x0005
def groupEventReasonAliveTimeout : ℕ := 0x0006
def groupEventReasonLongTimeTaskStartted : ℕ := 0x0007
def groupEventReasonAliveNotTimeout : ℕ := 0x0009

inductive ErrCode where
  | errOk
  | errGetBundleUsedHistoryFailed
  | errRepeatSetAppGroup
  | errNoAppGroupInfoInDatabase
  deriving DecidableEq, Repr

structure AppGroupCallbackInfo where
  userId : ℤ
  oldGroup : ℤ
  newGroup : ℤ
  changeReason : ℕ
  bundleName : String
  deriving DecidableEq, Repr

structure BundleActivePackageHistory where
  bundleName : String
  lastBootFromUsedTimeStamp : ℤ
  lastScreenUsedTimeStamp : ℤ
  currentGroup : ℤ
  reasonInGroup : ℕ
  bundleAliveTimeoutTimeStamp : ℤ := 0
  bundleDailyTimeoutTimeStamp : ℤ := 0
  uid : ℤ
  isChanged : Bool := false
  bundlefirstUseTimeStamp : ℤ
  deriving DecidableEq, Repr

namespace BundleActivePackageHistory

def controlReason (e : BundleActivePackageHistory) : ℕ := e.reasonInGroup &&& groupControlReasonMask

abbrev IsForced (e : BundleActivePackageHistory) : Prop :=
  e.controlReason = groupControlReasonForced

end BundleActivePackageHistory

structure BundleHistoryRow where
  userId : ℤ
  bundleName : String
  lastBootFromUsedTime : ℤ
  lastScreenUsedTime : ℤ
  currentGroup : ℤ
  reasonInGroup : ℕ
  bundleAliveTimeoutTime : ℤ
  bundleDailyTimeoutTime : ℤ
  uid : ℤ
  firstUseTime : ℤ
  deriving DecidableEq, Repr

structure DurationRow where
  bootBasedDuration : ℤ
  screenOnDuration : ℤ
  deriving DecidableEq, Repr

structure HistoryTables where
  bundleHistoryTable : Option (List BundleHistoryRow) := none
  durationTable : Option (List DurationRow) := none

abbrev OneUserHistory := Std.TreeMap String BundleActivePackageHistory

/-- The history object with the table names its database object knows; `false` stands for
`unknownTableName`. -/
structure BundleActiveUserHistory where
  userHistory : Std.TreeMap ℤ OneUserHistory := {}
  bootBasedTimeStamp : ℤ
  bootBasedDuration : ℤ
  screenOnTimeStamp : ℤ
  screenOnDuration : ℤ
  isScreenOn : Bool := false
  bundleHistoryTableName : Bool
  durationTableName : Bool

namespace BundleActiveUserHistory

variable (h : BundleActiveUserHistory)

def getBootBasedTimeStamp (bootBasedTimeStamp : ℤ) : ℤ :=
  bootBasedTimeStamp - h.bootBasedTimeStamp + h.bootBasedDuration

def getScreenOnTimeStamp (bootBasedTimeStamp : ℤ) : ℤ :=
  if h.isScreenOn then h.screenOnDuration + (bootBasedTimeStamp - h.screenOnTimeStamp)
  else h.screenOnDuration

def newUsageHistory (bundleName : String) (bootBasedTimeStamp uid : ℤ) :
    BundleActivePackageHistory :=
  { bundleName := bundleName
    lastBootFromUsedTimeStamp := h.getBootBasedTimeStamp bootBasedTimeStamp
    lastScreenUsedTimeStamp := h.getScreenOnTimeStamp bootBasedTimeStamp
    currentGroup := activeGroupNever
    reasonInGroup := groupControlReasonDefault
    uid := uid
    bundlefirstUseTimeStamp := int64Max }

def levelReached (e : BundleActivePackageHistory) (bootBasedTimeStamp : ℤ)
    (screenTimeLevel bootFromTimeLevel : Fin 4 → ℤ) (i : Fin 4) : Bool :=
  h.getScreenOnTimeStamp bootBasedTimeStamp - e.lastScreenUsedTimeStamp ≥ screenTimeLevel i ∧
    h.getBootBasedTimeStamp bootBasedTimeStamp - e.lastBootFromUsedTimeStamp ≥ bootFromTimeLevel i

/-- What `ReportUsage` does to an entry after the first-use time, and the group change it reports. -/
def useHistory (e : BundleActivePackageHistory) (newGroup : ℤ) (groupReason : ℕ)
    (bootBasedTimeStamp : ℤ) (userId : ℤ) (bundleName : String) :
    BundleActivePackageHistory × List AppGroupCallbackInfo :=
  let e := if bootBasedTimeStamp > 0 then
      { e with
        lastBootFromUsedTimeStamp :=
          h.bootBasedDuration + (bootBasedTimeStamp - h.bootBasedTimeStamp)
        lastScreenUsedTimeStamp := h.getScreenOnTimeStamp bootBasedTimeStamp }
    else e
  let oldGroup := e.currentGroup
  let e := { e with
    currentGroup := if e.currentGroup > newGroup then newGroup else e.currentGroup
    reasonInGroup := groupControlReasonUsage ||| groupReason
    isChanged := true }
  (e, if oldGroup = e.currentGroup then [] else
    [{ userId := userId, oldGroup := oldGroup, newGroup := newGroup
       changeReason := e.reasonInGroup, bundleName := bundleName }])

def reportUsage (e : BundleActivePackageHistory) (event : BundleActiveEvent) (newGroup : ℤ)
    (groupReason : ℕ) (bootBasedTimeStamp timeUntilNextCheck userId : ℤ) :
    BundleActivePackageHistory × List AppGroupCallbackInfo :=
  let e := { e with bundlefirstUseTimeStamp := min e.bundlefirstUseTimeStamp event.timeStamp }
  if e.IsForced then (e, [])
  else if timeUntilNextCheck > bootBasedTimeStamp then
    let nextCheckTimeStamp := h.bootBasedDuration + (timeUntilNextCheck - h.bootBasedTimeStamp)
    if newGroup = activeGroupAlive then
      h.useHistory { e with
        bundleAliveTimeoutTimeStamp := max nextCheckTimeStamp e.bundleAliveTimeoutTimeStamp }
        newGroup groupReason bootBasedTimeStamp userId event.bundleName
    else if newGroup = activeGroupDaily then
      h.useHistory { e with
        bundleDailyTimeoutTimeStamp := max nextCheckTimeStamp e.bundleDailyTimeoutTimeStamp }
        newGroup groupReason bootBasedTimeStamp userId event.bundleName
    else (e, [])
  else h.useHistory e newGroup groupReason bootBasedTimeStamp userId event.bundleName

/-- `UpdateBootBasedAndScreenTime` up to the write of the durations; `none` if it returns early. -/
def updatedTimes (isScreenOn : Bool) (bootBasedTimeStamp : ℤ) (isShutdown : Bool) :
    Option BundleActiveUserHistory :=
  if h.isScreenOn = isScreenOn ∧ isShutdown = false then none
  else if isScreenOn then
    some { h with isScreenOn := isScreenOn, screenOnTimeStamp := bootBasedTimeStamp }
  else
    some { h with
      isScreenOn := isScreenOn
      screenOnDuration := h.screenOnDuration + (bootBasedTimeStamp - h.screenOnTimeStamp)
      bootBasedDuration := h.bootBasedDuration + (bootBasedTimeStamp - h.bootBasedTimeStamp)
      bootBasedTimeStamp := bootBasedTimeStamp }

end BundleActiveUserHistory

/-- The history object over its tables, with the group changes it has reported to the core. -/
structure HistoryState extends BundleActiveUserHistory, HistoryTables where
  groupChanges : List AppGroupCallbackInfo := []

namespace HistoryState

/-! ### The tables -/

def getDurationData (tables : HistoryTables) : DurationRow :=
  match tables.durationTable with
  | some [row] => row
  | _ => { bootBasedDuration := 0, screenOnDuration := 0 }

/-- The constructor over the tables: `InitUsageGroupDatabase` takes the names of those that exist. -/
def new (tables : HistoryTables) (bootBasedTimeStamp : ℤ) : HistoryState :=
  { bootBasedTimeStamp := bootBasedTimeStamp
    bootBasedDuration := (getDurationData tables).bootBasedDuration
    screenOnTimeStamp := bootBasedTimeStamp
    screenOnDuration := (getDurationData tables).screenOnDuration
    bundleHistoryTableName := tables.bundleHistoryTable.isSome
    durationTableName := tables.durationTable.isSome
    toHistoryTables := tables }

def putDurationData (s : HistoryState) : HistoryState :=
  let row : DurationRow :=
    { bootBasedDuration := s.bootBasedDuration, screenOnDuration := s.screenOnDuration }
  let s := if s.durationTableName then s
    else { s with durationTable := some (s.durationTable.getD []), durationTableName := true }
  { s with
    durationTable := s.durationTable.map fun rows =>
      if rows = [] then [row] else rows.map fun _ => row }

def loadedHistory (row : BundleHistoryRow) : BundleActivePackageHistory :=
  { bundleName := row.bundleName
    lastBootFromUsedTimeStamp := row.lastBootFromUsedTime
    lastScreenUsedTimeStamp := row.lastScreenUsedTime
    currentGroup := row.currentGroup
    reasonInGroup := row.reasonInGroup
    bundleAliveTimeoutTimeStamp := row.bundleAliveTimeoutTime
    bundleDailyTimeoutTimeStamp := row.bundleDailyTimeoutTime
    uid := row.uid
    bundlefirstUseTimeStamp := row.firstUseTime }

/-- `GetBundleHistoryData`: the first row of a key is kept. -/
def getBundleHistoryData (s : HistoryState) (userId : ℤ) : Option OneUserHistory :=
  if s.bundleHistoryTableName then
    let rows := (s.bundleHistoryTable.getD []).filter (·.userId = userId)
    if rows = [] then none
    else some (rows.foldl (fun m row =>
      m.insertIfNew (getBundleUsageKey row.bundleName row.uid) (loadedHistory row)) {})
  else none

def bundleHistoryRow (userId : ℤ) (e : BundleActivePackageHistory) : BundleHistoryRow :=
  { userId := userId
    bundleName := e.bundleName
    lastBootFromUsedTime := e.lastBootFromUsedTimeStamp
    lastScreenUsedTime := e.lastScreenUsedTimeStamp
    currentGroup := e.currentGroup
    reasonInGroup := e.reasonInGroup
    bundleAliveTimeoutTime := e.bundleAliveTimeoutTimeStamp
    bundleDailyTimeoutTime := e.bundleDailyTimeoutTimeStamp
    uid := e.uid
    firstUseTime := e.bundlefirstUseTimeStamp }

/-- `userId = ? and bundleName = ? and uid = ?`. -/
def sameHistory (row row' : BundleHistoryRow) : Bool :=
  row.userId = row'.userId ∧ row.bundleName = row'.bundleName ∧ row.uid = row'.uid

/-- One round of `PutBundleHistoryData` on the rows and the rows collected for the insert. -/
def putHistoryStep (userId : ℤ) (rows : List BundleHistoryRow × List BundleHistoryRow)
    (e : BundleActivePackageHistory) : List BundleHistoryRow × List BundleHistoryRow :=
  if e.isChanged then
    let values := bundleHistoryRow userId e
    if rows.1.any (sameHistory · values) then
      (rows.1.map fun row => if sameHistory row values then values else row, rows.2)
    else (rows.1, rows.2 ++ [values])
  else rows

def putHistoryRows (userId : ℤ) (m : OneUserHistory) (rows : List BundleHistoryRow) :
    List BundleHistoryRow :=
  let (rows, inserted) := (m.toList.map Prod.snd).foldl (putHistoryStep userId) (rows, [])
  rows ++ inserted

/-- `PutBundleHistoryData` after `CheckDatabaseFileAndTable`. -/
def putBundleHistoryData (s : HistoryState) (userId : ℤ) (m : OneUserHistory) : HistoryState :=
  let s := if s.bundleHistoryTableName then s
    else
      { s with
        bundleHistoryTable := some (s.bundleHistoryTable.getD []), bundleHistoryTableName := true }
  { s with
    bundleHistoryTable := s.bundleHistoryTable.map (putHistoryRows userId m)
    userHistory := s.userHistory.insert userId
      (Entries.mapEntries (fun _ e => { e with isChanged := false }) m) }

/-! ### The histories in memory -/

def getUserHistory (s : HistoryState) (userId : ℤ) (create : Bool) :
    Option OneUserHistory × HistoryState :=
  match s.userHistory[userId]? with
  | some m => (some m, s)
  | none =>
    if create then
      let m := (s.getBundleHistoryData userId).getD {}
      (some m, { s with userHistory := s.userHistory.insert userId m })
    else (none, s)

def writeBundleUsage (s : HistoryState) (userId : ℤ) : HistoryState :=
  match s.userHistory[userId]? with
  | some m => s.putBundleHistoryData userId m
  | none => s

/-- An entry of a user's map is shared: a change of it is a change of the map. -/
def putEntry (s : HistoryState) (userId : ℤ) (key : String) (e : BundleActivePackageHistory) :
    HistoryState :=
  { s with userHistory := s.userHistory.modify userId (·.insert key e) }

def getUsageHistoryInUserHistory (s : HistoryState) (userId : ℤ) (oneUserHistory : OneUserHistory)
    (bundleName : String) (bootBasedTimeStamp : ℤ) (create : Bool) (uid : ℤ) :
    Option BundleActivePackageHistory × HistoryState :=
  let userHistoryKey := getBundleUsageKey bundleName uid
  match oneUserHistory[userHistoryKey]? with
  | some e => (some e, s)
  | none =>
    if create then
      let e := s.newUsageHistory bundleName bootBasedTimeStamp uid
      (some e, s.putEntry userId userHistoryKey e)
    else (none, s)

def getUsageHistoryForBundle (s : HistoryState) (bundleName : String) (userId : ℤ)
    (bootBasedTimeStamp : ℤ) (create : Bool) (uid : ℤ) :
    Option BundleActivePackageHistory × HistoryState :=
  match s.getUserHistory userId create with
  | (some m, s) =>
    s.getUsageHistoryInUserHistory userId m bundleName bootBasedTimeStamp create uid
  | (none, s) => (none, s)

/-- `GetLevelIndex`: the highest level that is reached; `none` is -1. -/
def getLevelIndex (s : HistoryState) (bundleName : String) (userId bootBasedTimeStamp : ℤ)
    (screenTimeLevel bootFromTimeLevel : Fin 4 → ℤ) (uid : ℤ) : Option (Fin 4) :=
  match (s.getUsageHistoryForBundle bundleName userId bootBasedTimeStamp false uid).1 with
  | none => none
  | some e => [3, 2, 1, 0].find?
      (s.levelReached e bootBasedTimeStamp screenTimeLevel bootFromTimeLevel)

def setAppGroup (s : HistoryState) (bundleName : String) (userId uid bootBasedTimeStamp : ℤ)
    (newGroup : ℤ) (groupReason : ℕ) (isFlush : Bool) : ErrCode × HistoryState :=
  match (s.getUsageHistoryForBundle bundleName userId bootBasedTimeStamp false uid).1 with
  | none => (.errGetBundleUsedHistoryFailed, s)
  | some e =>
    if e.currentGroup = newGroup ∧ e.reasonInGroup = groupReason then (.errRepeatSetAppGroup, s)
    else
      let s := s.putEntry userId (getBundleUsageKey bundleName uid)
        { e with currentGroup := newGroup, reasonInGroup := groupReason, isChanged := true }
      let s := if isFlush then s.writeBundleUsage userId else s
      let changes := if e.currentGroup = newGroup then [] else
        [{ userId := userId, oldGroup := e.currentGroup, newGroup := newGroup
           changeReason := groupReason, bundleName := bundleName }]
      (.errOk, { s with groupChanges := s.groupChanges ++ changes })

def updateBootBasedAndScreenTime (s : HistoryState) (isScreenOn : Bool) (bootBasedTimeStamp : ℤ)
    (isShutdown : Bool) : HistoryState :=
  match s.updatedTimes isScreenOn bootBasedTimeStamp isShutdown with
  | none => s
  | some h => { s with toBundleActiveUserHistory := h }.putDurationData

end HistoryState

end DeviceUsageStats
