import DeviceUsageStats.Spec.GroupNotices
import DeviceUsageStats.Spec.HighFrequency
import DeviceUsageStats.Spec.MergeStats
import DeviceUsageStats.Spec.ServiceQuery

/-! The service's interface (`bundle_active_service.cpp`): who may ask for what, and what is asked of the
core. The core is whatever answers the calls that the service makes on it. -/

namespace DeviceUsageStats

/-- `QueryModuleUsageRecords` of a user's service (`bundle_active_user_service.cpp`), for a number that the
interface accepts: the modules used last, the forms of each by their clicks. -/
def ServiceState.queryModuleUsageRecords (std : StdSort) (s : ServiceState) (maxNum : ℤ) :
    List BundleActiveModuleRecord :=
  let results := std.sort (fun moduleRecordA moduleRecordB : BundleActiveModuleRecord =>
    moduleRecordA.lastModuleUsedTime > moduleRecordB.lastModuleUsedTime)
    (s.moduleRecords.toList.map Prod.snd)
  (results.take maxNum.toNat).map fun result =>
    { result with
      formRecords := std.sort (fun formRecordA formRecordB : BundleActiveFormRecord =>
        formRecordA.count > formRecordB.count) result.formRecords }

/-- What the service reads of a caller: its token by `AccessTokenKit`, whether the full token is that of a
system app, the name that `GetNameForUid` finds (or none), and the result of `GetUserId`. -/
structure Caller where
  tokenId : ℕ
  tokenType : ATokenTypeEnum
  tokenTypeFlag : ATokenTypeEnum
  hasPermission : Bool
  isSystemApp : Bool
  processName : String
  bundleName : String
  getUserIdRet : ℤ
  userId : ℤ

/-- The calls that the service makes on the core, over the states of the core. Each returns a code. -/
structure CoreCalls (σ : Type) where
  reportEvent : BundleActiveEvent → ℤ → σ → σ
  isBundleIdle : String → ℤ → σ → ℤ × σ
  isBundleUsePeriod : String → ℤ → σ → Bool × σ
  queryBundleStatsInfos : ℤ → ℤ → ℤ → ℤ → String → σ → (ℤ × List BundleActivePackageStats) × σ
  queryBundleEvents : ℤ → ℤ → ℤ → String → σ → (ℤ × List BundleActiveEvent) × σ
  queryHighFrequencyPeriodBundle : ℤ → σ → (ℤ × List BundleActiveHighFrequencyPeriod) × σ
  setAppGroup : String → ℤ → ℤ → Bool → σ → ℤ × σ
  queryAppGroup : String → ℤ → σ → (ℤ × ℤ) × σ
  registerAppGroupCallBack : ℕ → Option IAppGroupCallback → σ → ℤ × σ
  unRegisterAppGroupCallBack : ℕ → σ → ℤ × σ
  queryModuleUsageRecords : ℤ → ℤ → σ → (ℤ × List BundleActiveModuleRecord) × σ
  queryDeviceEventStats : ℤ → ℤ → ℤ → σ → (ℤ × List BundleActiveEventStats) × σ
  queryNotificationEventStats : ℤ → ℤ → ℤ → σ → (ℤ × List BundleActiveEventStats) × σ

inductive ServiceReply where
  | code (ret : ℤ)
  | flag (ret : ℤ) (flag : Bool)
  | number (ret : ℤ) (number : ℤ)
  | packageStats (ret : ℤ) (packageStats : List BundleActivePackageStats)
  | events (ret : ℤ) (bundleActiveEvents : List BundleActiveEvent)
  | highFrequency (ret : ℤ) (appFreqHours : List BundleActiveHighFrequencyPeriod)
  | moduleRecords (ret : ℤ) (results : List BundleActiveModuleRecord)
  | eventStats (ret : ℤ) (eventStats : List BundleActiveEventStats)

namespace BundleActiveService

def errOk : ℤ := 0
def errPermissionDenied : ℤ := 201
def errNotSystemApp : ℤ := 202
def errParamError : ℤ := 401
def errMaxRecordsNumBigerThenOneThousand : ℤ := 401014
def errNoAppGroupInfoInDatabase : ℤ := 10100002
def errSystemAbilitySupportFailed : ℤ := 1000000306
def errFindAppUsageRecordsFailed : ℤ := 1000000601

def permittedProcessNameFoundation : String := "foundation"
def permittedProcessNameRss : String := "resource_schedule_service"
def maxnumUpLimit : ℤ := 1000
def queryEventMaxReturnCount : ℤ := 1000
def topnQueryMaxDayRange : ℤ := 7

/-! ### The checks -/

def checkBundleIsSystemAppAndHasPermission (caller : Caller) : ℤ :=
  if caller.isSystemApp = false then errNotSystemApp
  else if caller.hasPermission = false then errPermissionDenied
  else errOk

def checkNativePermission (caller : Caller) : ℤ :=
  if caller.hasPermission = false then errPermissionDenied
  else if caller.tokenTypeFlag = .tokenNative then errOk
  else if caller.tokenTypeFlag = .tokenShell then errOk
  else errPermissionDenied

def checkSystemAppOrNativePermission (caller : Caller) : ℤ :=
  if caller.tokenType = .tokenHap then checkBundleIsSystemAppAndHasPermission caller
  else checkNativePermission caller

def convertIntervalType (intervalType : ℤ) : ℤ :=
  if intervalType = 0 then 4
  else if intervalType > 0 ∧ intervalType ≤ 4 then intervalType - 1
  else -1

variable {σ : Type} (core : CoreCalls σ) (caller : Caller) (s : σ)

/-- The user that a call is about: the one it names, or that of the caller for -1. -/
def forUser (userId : ℤ) (failed : ℤ → ServiceReply) (call : ℤ → ServiceReply × σ) :
    ServiceReply × σ :=
  if userId = -1 then
    if caller.getUserIdRet ≠ errOk ∨ caller.userId = -1 then (failed caller.getUserIdRet, s)
    else call caller.userId
  else call userId

/-- A call that only a system app or a native process with the permission may make. -/
def permitted (denied : ℤ → ServiceReply) (call : ServiceReply × σ) : ServiceReply × σ :=
  if checkSystemAppOrNativePermission caller = errOk then call
  else (denied (checkSystemAppOrNativePermission caller), s)

/-! ### The calls -/

/-- `ReportEvent`; the report handler is there. -/
def reportEvent (event : BundleActiveEvent) (userId bootTimeMs : ℤ) : ServiceReply × σ :=
  if checkNativePermission caller ≠ errOk then (.code errPermissionDenied, s)
  else if caller.processName ≠ permittedProcessNameFoundation ∧
      caller.processName ≠ permittedProcessNameRss then (.code errPermissionDenied, s)
  else (.code errOk, core.reportEvent { event with timeStamp := bootTimeMs } userId s)

def isBundleIdle (bundleName : String) (userId : ℤ) : ServiceReply × σ :=
  forUser caller s userId (.flag · false) fun userId =>
    if caller.bundleName = bundleName then
      if caller.isSystemApp = false then (.flag errNotSystemApp false, s)
      else
        let (result, s) := core.isBundleIdle bundleName userId s
        (.flag errOk (result ≠ 0 ∧ result ≠ -1), s)
    else
      permitted caller s (.flag · false) <|
        let (result, s) := core.isBundleIdle bundleName userId s
        (.flag errOk (result ≠ 0 ∧ result ≠ -1), s)

def isBundleUsePeriod (bundleName : String) (userId : ℤ) : ServiceReply × σ :=
  if checkNativePermission caller ≠ errOk then (.flag (checkNativePermission caller) false, s)
  else
    forUser caller s userId (.flag · false) fun userId =>
      let (isUsePeriod, s) := core.isBundleUsePeriod bundleName userId s
      (.flag errOk isUsePeriod, s)

/-- `QueryBundleStatsInfoByInterval`; `appIndexOf` is `GetNameAndIndexForUid`. -/
def queryBundleStatsInfoByInterval (appIndexOf : ℤ → ℤ)
    (intervalType beginTime endTime userId : ℤ) : ServiceReply × σ :=
  forUser caller s userId (.packageStats · []) fun userId =>
    permitted caller s (.packageStats · []) <|
      let ((ret, tempPackageStats), s) := core.queryBundleStatsInfos userId
        (convertIntervalType intervalType) beginTime endTime "" s
      (.packageStats ret (mergePackageStats (tempPackageStats.map fun packageStat =>
        { packageStat with appIndex := appIndexOf packageStat.uid })), s)

def queryBundleEvents (beginTime endTime userId maxNum : ℤ) : ServiceReply × σ :=
  if maxNum ≤ 0 ∨ maxNum > queryEventMaxReturnCount then
    (.events errMaxRecordsNumBigerThenOneThousand [], s)
  else
    forUser caller s userId (.events · []) fun userId =>
      permitted caller s (.events · []) <|
        let ((ret, events), s) := core.queryBundleEvents userId beginTime endTime "" s
        (.events ret (ServiceState.deleteOutOfLimitEvents events maxNum.toNat), s)

def queryHighFrequencyPeriodBundle (userId : ℤ) : ServiceReply × σ :=
  forUser caller s userId (.highFrequency · []) fun userId =>
    permitted caller s (.highFrequency · []) <|
      let ((ret, appFreqHours), s) := core.queryHighFrequencyPeriodBundle userId s
      (.highFrequency ret appFreqHours, s)

/-- `QueryBundleTodayLatestUsedTime` with the clock it reads and the start of the day. -/
def queryBundleTodayLatestUsedTime (bundleName : String) (userId startTime currentSystemTime : ℤ) :
    ServiceReply × σ :=
  forUser caller s userId (.number · 0) fun userId =>
    permitted caller s (.number · 0) <|
      let ((ret, packageStats), s) :=
        core.queryBundleStatsInfos userId 0 startTime currentSystemTime bundleName s
      if ret ≠ errOk then (.number ret 0, s)
      else
        match mergePackageStats packageStats with
        | [] => (.number errNoAppGroupInfoInDatabase 0, s)
        | first :: _ =>
          if first.bundleName ≠ bundleName then (.number errNoAppGroupInfoInDatabase 0, s)
          else (.number ret first.lastTimeUsed, s)

/-- `SetAppGroup`: a caller cannot set its own group, and a call for -1 is flushed. -/
def setAppGroup (bundleName : String) (newGroup userId : ℤ) : ServiceReply × σ :=
  forUser caller s userId (fun _ => .code errSystemAbilitySupportFailed) fun user =>
    if caller.bundleName = bundleName then (.code errPermissionDenied, s)
    else
      permitted caller s .code <|
        let (ret, s) := core.setAppGroup bundleName newGroup user (userId = -1) s
        (.code ret, s)

def queryBundleStatsInfos (intervalType beginTime endTime : ℤ) : ServiceReply × σ :=
  forUser caller s (-1) (.packageStats · []) fun userId =>
    if caller.bundleName ≠ "" ∧ checkBundleIsSystemAppAndHasPermission caller = errOk then
      let ((ret, tempPackageStats), s) := core.queryBundleStatsInfos userId
        (convertIntervalType intervalType) beginTime endTime caller.bundleName s
      (.packageStats ret (mergePackageStats tempPackageStats), s)
    else (.packageStats caller.getUserIdRet [], s)

/-- `QueryHighFrequencyUsageBundleInfos`: the bundles that were started most often in the last days. -/
def queryHighFrequencyUsageBundleInfos (std : StdSort)
    (userId maxNum queryDayRange currentSystemTime : ℤ) : ServiceReply × σ :=
  if maxNum ≤ 0 ∨ queryDayRange ≤ 0 ∨ queryDayRange > topnQueryMaxDayRange then
    (.packageStats errParamError [], s)
  else
    permitted caller s (fun _ => .packageStats errPermissionDenied []) <|
      let timeRange := queryDayRange * 24 * 60 * 60 * 1000
      let ((ret, tempPackageStats), s) := core.queryBundleStatsInfos userId 0
        (currentSystemTime - timeRange) currentSystemTime "" s
      let results := std.sort
        (fun lhs rhs : BundleActivePackageStats => lhs.startCount > rhs.startCount)
        (mergePackageStats tempPackageStats)
      (.packageStats ret (results.take maxNum.toNat), s)

def queryCurrentBundleEvents (beginTime endTime maxNum : ℤ) : ServiceReply × σ :=
  if maxNum ≤ 0 ∨ maxNum > queryEventMaxReturnCount then
    (.events errMaxRecordsNumBigerThenOneThousand [], s)
  else
    forUser caller s (-1) (.events · []) fun userId =>
      if caller.bundleName = "" then (.events caller.getUserIdRet [], s)
      else if caller.isSystemApp = false then (.events errNotSystemApp [], s)
      else
        let ((ret, events), s) :=
          core.queryBundleEvents userId beginTime endTime caller.bundleName s
        (.events ret (ServiceState.deleteOutOfLimitEvents events maxNum.toNat), s)

/-- `QueryAppGroup`: an empty name stands for the caller's own bundle. -/
def queryAppGroup (bundleName : String) (userId : ℤ) : ServiceReply × σ :=
  forUser caller s userId (fun _ => .number errSystemAbilitySupportFailed 0) fun userId =>
    if bundleName = "" then
      if caller.isSystemApp = false then (.number errNotSystemApp 0, s)
      else
        let ((ret, appGroup), s) := core.queryAppGroup caller.bundleName userId s
        (.number ret appGroup, s)
    else
      permitted caller s (.number · 0) <|
        let ((ret, appGroup), s) := core.queryAppGroup bundleName userId s
        (.number ret appGroup, s)

def registerAppGroupCallBack (observer : Option IAppGroupCallback) : ServiceReply × σ :=
  permitted caller s .code <|
    let (ret, s) := core.registerAppGroupCallBack caller.tokenId observer s
    (.code ret, s)

def unRegisterAppGroupCallBack : ServiceReply × σ :=
  permitted caller s .code <|
    let (ret, s) := core.unRegisterAppGroupCallBack caller.tokenId s
    (.code ret, s)

def queryModuleUsageRecords (maxNum userId : ℤ) : ServiceReply × σ :=
  if maxNum > maxnumUpLimit ∨ maxNum ≤ 0 then (.moduleRecords errFindAppUsageRecordsFailed [], s)
  else
    forUser caller s userId (.moduleRecords · []) fun userId =>
      permitted caller s (.moduleRecords · []) <|
        let ((ret, results), s) := core.queryModuleUsageRecords maxNum userId s
        (.moduleRecords ret results, s)

def queryDeviceEventStats (beginTime endTime userId : ℤ) : ServiceReply × σ :=
  forUser caller s userId (.eventStats · []) fun userId =>
    permitted caller s (.eventStats · []) <|
      let ((ret, eventStats), s) := core.queryDeviceEventStats beginTime endTime userId s
      (.eventStats ret eventStats, s)

def queryNotificationEventStats (beginTime endTime userId : ℤ) : ServiceReply × σ :=
  forUser caller s userId (.eventStats · []) fun userId =>
    permitted caller s (.eventStats · []) <|
      let ((ret, eventStats), s) := core.queryNotificationEventStats beginTime endTime userId s
      (.eventStats ret eventStats, s)

end BundleActiveService

/-- The calls of `IBundleActiveService`, with the clock that a call reads. -/
inductive ServiceRequest where
  | reportEvent (event : BundleActiveEvent) (userId bootTimeMs : ℤ)
  | isBundleIdle (bundleName : String) (userId : ℤ)
  | isBundleUsePeriod (bundleName : String) (userId : ℤ)
  | queryBundleStatsInfoByInterval (appIndexOf : ℤ → ℤ)
    (intervalType beginTime endTime userId : ℤ)
  | queryBundleEvents (beginTime endTime userId maxNum : ℤ)
  | queryHighFrequencyPeriodBundle (userId : ℤ)
  | queryBundleTodayLatestUsedTime (bundleName : String) (userId startTime currentSystemTime : ℤ)
  | setAppGroup (bundleName : String) (newGroup userId : ℤ)
  | queryBundleStatsInfos (intervalType beginTime endTime : ℤ)
  | queryHighFrequencyUsageBundleInfos (userId maxNum queryDayRange currentSystemTime : ℤ)
  | queryCurrentBundleEvents (beginTime endTime maxNum : ℤ)
  | queryAppGroup (bundleName : String) (userId : ℤ)
  | registerAppGroupCallBack (observer : Option IAppGroupCallback)
  | unRegisterAppGroupCallBack
  | queryModuleUsageRecords (maxNum userId : ℤ)
  | queryDeviceEventStats (beginTime endTime userId : ℤ)
  | queryNotificationEventStats (beginTime endTime userId : ℤ)

namespace BundleActiveService

variable {σ : Type} (core : CoreCalls σ) (std : StdSort)

def handle (caller : Caller) (s : σ) : ServiceRequest → ServiceReply × σ
  | .reportEvent event userId bootTimeMs => reportEvent core caller s event userId bootTimeMs
  | .isBundleIdle bundleName userId => isBundleIdle core caller s bundleName userId
  | .isBundleUsePeriod bundleName userId => isBundleUsePeriod core caller s bundleName userId
  | .queryBundleStatsInfoByInterval appIndexOf intervalType beginTime endTime userId =>
    queryBundleStatsInfoByInterval core caller s appIndexOf intervalType beginTime endTime userId
  | .queryBundleEvents beginTime endTime userId maxNum =>
    queryBundleEvents core caller s beginTime endTime userId maxNum
  | .queryHighFrequencyPeriodBundle userId => queryHighFrequencyPeriodBundle core caller s userId
  | .queryBundleTodayLatestUsedTime bundleName userId startTime currentSystemTime =>
    queryBundleTodayLatestUsedTime core caller s bundleName userId startTime currentSystemTime
  | .setAppGroup bundleName newGroup userId => setAppGroup core caller s bundleName newGroup userId
  | .queryBundleStatsInfos intervalType beginTime endTime =>
    queryBundleStatsInfos core caller s intervalType beginTime endTime
  | .queryHighFrequencyUsageBundleInfos userId maxNum queryDayRange currentSystemTime =>
    queryHighFrequencyUsageBundleInfos core caller s std userId maxNum queryDayRange
      currentSystemTime
  | .queryCurrentBundleEvents beginTime endTime maxNum =>
    queryCurrentBundleEvents core caller s beginTime endTime maxNum
  | .queryAppGroup bundleName userId => queryAppGroup core caller s bundleName userId
  | .registerAppGroupCallBack observer => registerAppGroupCallBack core caller s observer
  | .unRegisterAppGroupCallBack => unRegisterAppGroupCallBack core caller s
  | .queryModuleUsageRecords maxNum userId => queryModuleUsageRecords core caller s maxNum userId
  | .queryDeviceEventStats beginTime endTime userId =>
    queryDeviceEventStats core caller s beginTime endTime userId
  | .queryNotificationEventStats beginTime endTime userId =>
    queryNotificationEventStats core caller s beginTime endTime userId

end BundleActiveService

end DeviceUsageStats
