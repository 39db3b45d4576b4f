import DeviceUsageStats.Spec.Event

/-! The window visibility manager (`bundle_active_window_visibility_manager.cpp`): which windows of each
ability are visible, which bundles are, and the foreground and background events that it sends to the
report handler. The account lookup, the boot clock and the report handler are given. -/

namespace DeviceUsageStats

/-- The fields that `ExtractWindowInfo` reads. -/
structure WindowInfoData where
  bundleName : String
  abilityName : String
  moduleName : String
  windowId : ℕ
  isVisible : Bool
  isSystem : Bool := false
  uid : ℤ
  deriving DecidableEq, Repr

structure AbilityWindowInfo where
  bundleName : String
  abilityName : String
  moduleName : String
  uid : ℤ
  windowVisibilityMap : Std.TreeMap ℕ Bool := {}

/-- What is sent with `MSG_REPORT_EVENT`. -/
structure BundleActiveReportHandlerObject where
  userId : ℤ
  bundleName : String
  event : BundleActiveEvent
  deriving DecidableEq, Repr

/-- What is outside the manager; the clock is read once a report. -/
structure ReportContext where
  getUserId : ℤ → Option ℤ
  getBootTimeMs : ℕ → ℤ
  hasReportHandler : Bool

def generateAbilityKey (uid : ℤ) (abilityName moduleName : String) : String :=
  toString uid ++ "|" ++ abilityName ++ "|" ++ moduleName

structure BundleActiveWindowVisibilityManager where
  abilityWindowMap : Std.TreeMap String AbilityWindowInfo := {}
  appVisibilityMap : Std.TreeMap String Bool := {}
  /-- What was sent to the report handler so far. -/
  reports : List BundleActiveReportHandlerObject := []

namespace AbilityWindowInfo

def areAllWindowsInvisible (windowInfo : AbilityWindowInfo) : Bool :=
  windowInfo.windowVisibilityMap.toList.all fun iter => !iter.2

end AbilityWindowInfo

namespace WindowInfoData

def abilityKey (windowData : WindowInfoData) : String :=
  generateAbilityKey windowData.uid windowData.abilityName windowData.moduleName

def skipped (windowData : WindowInfoData) : Bool :=
  windowData.uid ≤ 0 ∨ windowData.bundleName = "" ∨ windowData.isSystem ∨
    windowData.abilityName = ""

end WindowInfoData

namespace BundleActiveWindowVisibilityManager

variable (m : BundleActiveWindowVisibilityManager)

def handleNewAbilityWindow (abilityKey : String) (windowData : WindowInfoData) :
    BundleActiveWindowVisibilityManager :=
  let windowInfo : AbilityWindowInfo :=
    { bundleName := windowData.bundleName
      abilityName := windowData.abilityName
      moduleName := windowData.moduleName
      uid := windowData.uid
      windowVisibilityMap := ({} : Std.TreeMap ℕ Bool).insert windowData.windowId
        windowData.isVisible }
  { m with abilityWindowMap := m.abilityWindowMap.insert abilityKey windowInfo }

/-- The info is the one in the map under the key: a change of it is a change of the map. -/
def updateExistingAbilityWindow (key : String) (windowInfo : AbilityWindowInfo)
    (windowData : WindowInfoData) : BundleActiveWindowVisibilityManager :=
  let windowVisibilityMap := if windowData.isVisible then
      windowInfo.windowVisibilityMap.insert windowData.windowId windowData.isVisible
    else windowInfo.windowVisibilityMap.erase windowData.windowId
  let m := { m with abilityWindowMap :=
    m.abilityWindowMap.insert key { windowInfo with windowVisibilityMap := windowVisibilityMap } }
  let abilityKey := generateAbilityKey windowInfo.uid windowInfo.abilityName windowInfo.moduleName
  if windowVisibilityMap.isEmpty then
    { m with abilityWindowMap := m.abilityWindowMap.erase abilityKey }
  else m

def isAllAbilitiesInvisible (bundleName : String) : Bool :=
  m.abilityWindowMap.toList.all fun iter =>
    !(iter.2.bundleName == bundleName) || iter.2.areAllWindowsInvisible

variable (c : ReportContext)

def reportAppStateChanged (bundleName abilityName moduleName : String) (uid : ℤ)
    (toForeground : Bool) : BundleActiveWindowVisibilityManager :=
  match c.getUserId uid with
  | none => m
  | some userId =>
    if userId = -1 then m
    else if c.hasReportHandler then
      { m with reports := m.reports ++
        [{ userId := userId
           bundleName := bundleName
           event :=
            { bundleName := bundleName
              abilityName := abilityName
              abilityId := abilityName
              moduleName := moduleName
              uid := uid
              timeStamp := c.getBootTimeMs m.reports.length
              eventId := if toForeground then .abilityForeground else .abilityBackground } }] }
    else m

def updateAppVisibility (bundleName abilityName moduleName : String) (uid : ℤ) :
    BundleActiveWindowVisibilityManager :=
  let isVisible := !m.isAllAbilitiesInvisible bundleName
  let wasVisible := (m.appVisibilityMap[bundleName]?).getD false
  let m := { m with appVisibilityMap :=
    if isVisible then m.appVisibilityMap.insert bundleName isVisible
    else m.appVisibilityMap.erase bundleName }
  if !wasVisible && isVisible then
    m.reportAppStateChanged c bundleName abilityName moduleName uid true
  else if wasVisible && !isVisible then
    m.reportAppStateChanged c bundleName abilityName moduleName uid false
  else m

def recordWindow (windowData : WindowInfoData) : BundleActiveWindowVisibilityManager :=
  match m.abilityWindowMap[windowData.abilityKey]? with
  | none => m.handleNewAbilityWindow windowData.abilityKey windowData
  | some windowInfo => m.updateExistingAbilityWindow windowData.abilityKey windowInfo windowData

/-- `OnWindowVisibilityChanged`; `none` is a null pointer. -/
def onWindowVisibilityChanged (windowVisibilityInfo : List (Option WindowInfoData)) :
    BundleActiveWindowVisibilityManager :=
  let windowDataList := windowVisibilityInfo.reduceOption.filter (!·.skipped)
  let m := windowDataList.foldl recordWindow m
  windowDataList.foldl (fun m windowData =>
    m.updateAppVisibility c windowData.bundleName windowData.abilityName windowData.moduleName
      windowData.uid) m

def clearAbilityWindowInfo (bundleName abilityName moduleName : String) (uid : ℤ) :
    BundleActiveWindowVisibilityManager :=
  let m := { m with
    abilityWindowMap := m.abilityWindowMap.erase (generateAbilityKey uid abilityName moduleName) }
  m.updateAppVisibility c bundleName abilityName moduleName uid

end BundleActiveWindowVisibilityManager

/-- What the window manager and the ability state tell the manager. -/
inductive WindowOp where
  | changed (windowVisibilityInfo : List (Option WindowInfoData))
  | clear (bundleName abilityName moduleName : String) (uid : ℤ)

namespace BundleActiveWindowVisibilityManager

def apply (c : ReportContext) (m : BundleActiveWindowVisibilityManager) :
    WindowOp → BundleActiveWindowVisibilityManager
  | .changed windowVisibilityInfo => m.onWindowVisibilityChanged c windowVisibilityInfo
  | .clear bundleName abilityName moduleName uid =>
    m.clearAbilityWindowInfo c bundleName abilityName moduleName uid

end BundleActiveWindowVisibilityManager

end DeviceUsageStats
