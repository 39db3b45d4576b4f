import DeviceUsageStats.Spec.DatabaseQuery
import DeviceUsageStats.Spec.RecordTables
import DeviceUsageStats.Spec.ReportHandler

/-! A user's statistics service (`bundle_active_user_service.cpp`) with the state of the process
that it shares with the services of the other users: the database files, the map of bundle names to
uids and the report handler. The service is an initialised one, so none of the four period stats is
null. -/

namespace DeviceUsageStats

/-- What the services of one process share. -/
structure ProcessState where
  files : DatabaseFiles := {}
  packageContainUidMap : PackageContainUidMap := {}
  handler : BundleActiveReportHandler := {}
  flushInterval : ℤ := 30 * 60 * 1000

structure BundleActiveUserService where
  userId : ℤ
  dailyExpiryDate : BundleActiveCalendar := {}
  currentStats : IntervalType → BundleActivePeriodStats := fun _ => {}
  moduleRecords : ModuleRecords := {}
  statsChanged : Bool := false
  debugUserService : Bool := false
  lastForegroundBundle : String := ""
  database : BundleActiveUsageDatabase := {}

structure ServiceState extends BundleActiveUserService, ProcessState

/-- `OnStatsChanged` of the core: one flush task at a time, for the user who asks first. -/
def onStatsChanged (p : ProcessState) (userId : ℤ) : ProcessState :=
  if p.handler.hasEvent .flushToDisk then p
  else { p with handler := p.handler.sendEvent .flushToDisk userId p.flushInterval }

/-- `ERR_USAGE_STATS_INTERVAL_NUMBER`, `ERR_QUERY_TIME_OUT_OF_RANGE` and
`ERR_TIME_OPERATION_FAILED`. -/
inductive QueryError where
  | intervalNumber
  | timeOutOfRange
  | timeOperationFailed
  deriving DecidableEq, Repr

namespace ServiceState

variable (tz : TimeZone)

def databaseState (s : ServiceState) : DatabaseState :=
  { toBundleActiveUsageDatabase := s.database, toDatabaseFiles := s.files }

def setDatabase (s : ServiceState) (d : DatabaseState) : ServiceState :=
  { s with database := d.toBundleActiveUsageDatabase, files := d.toDatabaseFiles }

def setStats (s : ServiceState) (i : IntervalType) (stats : BundleActivePeriodStats) :
    ServiceState :=
  { s with currentStats := Function.update s.currentStats i stats }

/-! ### Saving and loading -/

def restoreStatsOf (s : ServiceState) (i : IntervalType) : ServiceState :=
  let stats := s.currentStats i
  let d := s.databaseState
  let d := if stats.bundleStats.isEmpty then d else d.updateBundleUsageData i stats
  s.setDatabase (if i = .daily then d.updateEventData stats else d)

def restoreStats (s : ServiceState) (forced : Bool) : ServiceState :=
  if s.statsChanged ∨ forced then
    let s := IntervalType.all.foldl restoreStatsOf s
    let s :=
      if s.moduleRecords.isEmpty then s
      else s.setDatabase
        (s.databaseState.updateModuleData s.moduleRecords (s.currentStats .daily).beginTime)
    let s := s.setStats .daily
      { s.currentStats .daily with events := (s.currentStats .daily).events.clear }
    { s with statsChanged := false }
  else s

/-- One round of the loop of `LoadActiveStats`: the newest table is taken up only if the clock
stands within one period length of its start, and the period then starts where the clock says. -/
def loadActiveStatsOf (timeStamp : ℤ) (force : Bool) (s : ServiceState) (i : IntervalType) :
    ServiceState :=
  let beginTime := truncate tz s.debugUserService i timeStamp
  if ¬ force ∧ (s.currentStats i).beginTime = beginTime then s
  else
    let (stats, d, uids) :=
      s.databaseState.getCurrentUsageData s.packageContainUidMap i s.userId
    let stats := stats.filter fun stats => timeStamp > stats.beginTime ∧
      timeStamp < stats.beginTime + periodLength s.debugUserService i
    let s := { s.setDatabase d with packageContainUidMap := uids }
    match stats with
    | some stats => s.setStats i { stats with beginTime := beginTime, endTime := timeStamp }
    | none => s.setStats i { userId := s.userId, beginTime := beginTime, endTime := timeStamp }

def updateExpiryDate (s : ServiceState) (timeChanged : Bool) (timeStamp : ℤ) : ServiceState :=
  let date := s.dailyExpiryDate.setMilliseconds
    (if timeChanged then (s.currentStats .daily).beginTime else timeStamp)
  let date := date.increase .daily 1
  { s with dailyExpiryDate := if timeChanged then date else date.truncateToDay tz }

def loadActiveStats (s : ServiceState) (timeStamp : ℤ) (force timeChanged : Bool) : ServiceState :=
  let s := IntervalType.all.foldl (loadActiveStatsOf tz timeStamp force) s
  updateExpiryDate tz { s with statsChanged := false } timeChanged timeStamp

def loadModuleAndFormStats (s : ServiceState) : ServiceState :=
  let moduleRecords := s.databaseState.loadModuleData s.userId s.moduleRecords
  { s with moduleRecords := s.databaseState.loadFormData s.userId moduleRecords }

/-- The constructor and the two database calls of `Init`. -/
def openDatabase (p : ProcessState) (userId : ℤ) (debug : Bool) (timeStamp : ℤ) : ServiceState :=
  let s : ServiceState :=
    { toBundleActiveUserService :=
        { userId := userId, debugUserService := debug
          dailyExpiryDate := { debug := debug }, database := { debugDatabase := debug } }
      toProcessState := p }
  s.setDatabase (s.databaseState.initDatabaseTableInfo timeStamp).initUsageGroupDatabase

def addDailyEvent (s : ServiceState) (event : BundleActiveEvent) : ServiceState :=
  s.setStats .daily ((s.currentStats .daily).addEvent event)

/-- `Init` of a service constructed for a user: the four period stats are null before it, so the
load keeps none of them. -/
def init (p : ProcessState) (userId : ℤ) (debug : Bool) (timeStamp : ℤ) : ServiceState :=
  let s := ((openDatabase p userId debug timeStamp).loadActiveStats tz timeStamp true
    false).loadModuleAndFormStats
  s.addDailyEvent
    { eventId := .startup, timeStamp := timeStamp - oneSecondMilliseconds
      bundleName := deviceEventPackageName }

def notifyStatsChanged (s : ServiceState) : ServiceState :=
  if s.statsChanged then s
  else
    { s with
      statsChanged := true
      toProcessState := onStatsChanged s.toProcessState s.userId }

/-! ### The rollover -/

/-- The sessions found by `FlushDataInMem`, under the usage keys of their entries. -/
structure ContinueStats where
  continueBundles : Std.TreeSet String := {}
  continueAbilities : Std.TreeMap String (Std.TreeMap String EventId) := {}
  continueServices : Std.TreeMap String (Std.TreeMap String EventId) := {}

def noteContinueStats (c : ContinueStats) (usageStats : BundleActivePackageStats) :
    ContinueStats :=
  let bundleStatsKey := getBundleUsageKey usageStats.bundleName usageStats.uid
  { continueBundles := c.continueBundles.insert usageStats.bundleName
    continueAbilities := if usageStats.abilities.isEmpty then c.continueAbilities
      else c.continueAbilities.insert bundleStatsKey usageStats.abilities
    continueServices := if usageStats.longTimeTasks.isEmpty then c.continueServices
      else c.continueServices.insert bundleStatsKey usageStats.longTimeTasks }

def updateStats (i : IntervalType) (bundleName longTimeTaskName : String) (timeStamp : ℤ)
    (eventId : EventId) (abilityId : String) (uid : ℤ) (s : ServiceState) : ServiceState :=
  let (stats, uids) := (s.currentStats i).update s.packageContainUidMap bundleName
    longTimeTaskName timeStamp eventId abilityId uid
  { s.setStats i stats with packageContainUidMap := uids }

def flushEntry (i : IntervalType) (cs : ContinueStats × ServiceState)
    (usageStats : BundleActivePackageStats) : ContinueStats × ServiceState :=
  let (c, s) := cs
  (noteContinueStats c usageStats,
    (updateStats i usageStats.bundleName "" (s.dailyExpiryDate.time - 1) .endOfTheDay ""
      usageStats.uid s).notifyStatsChanged)

def flushDataInMemOf (cs : ContinueStats × ServiceState) (i : IntervalType) :
    ContinueStats × ServiceState :=
  let (c, s) :=
    ((cs.2.currentStats i).bundleStats.toList.map Prod.snd).foldl (flushEntry i) cs
  (c, s.setStats i ((s.currentStats i).commitTime (s.dailyExpiryDate.time - 1)))

def flushDataInMem (s : ServiceState) : ContinueStats × ServiceState :=
  IntervalType.all.foldl flushDataInMemOf ({}, s)

/-- The loop over the uids of `UpdateContinueAbilitiesMemory`: the function returns at the first
uid with no captured ability. -/
def continueAbilitiesOfUids (i : IntervalType) (beginTime : ℤ) (c : ContinueStats)
    (continueBundleName : String) : List ℤ → ServiceState → ServiceState
  | [], s => s
  | uid :: uids, s =>
    match c.continueAbilities[getBundleUsageKey continueBundleName uid]? with
    | none => s
    | some abilities =>
      continueAbilitiesOfUids i beginTime c continueBundleName uids
        (abilities.toList.foldl (fun s ability =>
          if ability.2 = .abilityBackground then s
          else updateStats i continueBundleName "" beginTime ability.2 ability.1 uid s) s)

def continueServicesOfUids (i : IntervalType) (beginTime : ℤ) (c : ContinueStats)
    (continueBundleName : String) : List ℤ → ServiceState → ServiceState
  | [], s => s
  | uid :: uids, s =>
    match c.continueServices[getBundleUsageKey continueBundleName uid]? with
    | none => s
    | some services =>
      continueServicesOfUids i beginTime c continueBundleName uids
        (services.toList.foldl (fun s service =>
          updateStats i continueBundleName service.1 beginTime service.2 "" uid s) s)

def updateContinueAbilitiesMemory (beginTime : ℤ) (c : ContinueStats) (continueBundleName : String)
    (i : IntervalType) (s : ServiceState) : ServiceState :=
  continueAbilitiesOfUids i beginTime c continueBundleName
    (s.packageContainUidMap.getPackageUidSet continueBundleName).toList s

def updateContinueServicesMemory (beginTime : ℤ) (c : ContinueStats) (continueBundleName : String)
    (i : IntervalType) (s : ServiceState) : ServiceState :=
  continueServicesOfUids i beginTime c continueBundleName
    (s.packageContainUidMap.getPackageUidSet continueBundleName).toList s

def continueBundleOf (beginTime : ℤ) (c : ContinueStats) (continueBundleName : String)
    (s : ServiceState) (i : IntervalType) : ServiceState :=
  updateContinueServicesMemory beginTime c continueBundleName i
    (updateContinueAbilitiesMemory beginTime c continueBundleName i s)

def continueBundle (c : ContinueStats) (s : ServiceState) (continueBundleName : String) :
    ServiceState :=
  IntervalType.all.foldl
    (continueBundleOf (s.currentStats .daily).beginTime c continueBundleName) s

/-- The middle of `RenewStatsInMemory`: the old periods are saved and the new ones loaded. -/
def saveAndReload (s : ServiceState) (timeStamp : ℤ) : ServiceState :=
  let s := s.restoreStats true
  let s := s.setDatabase (s.databaseState.removeOldData timeStamp)
  loadActiveStats tz s timeStamp false false

def renewStatsInMemory (s : ServiceState) (timeStamp : ℤ) : ServiceState :=
  let continued := s.flushDataInMem
  (continued.1.continueBundles.toList.foldl (continueBundle continued.1)
    (saveAndReload tz continued.2 timeStamp)).restoreStats true

/-! ### Reports -/

def updatePeriodStatsOf (event : BundleActiveEvent) (incrementBundleLaunch : Bool)
    (s : ServiceState) (i : IntervalType) : ServiceState :=
  let stats := s.currentStats i
  match event.eventId with
  | .screenInteractive => s.setStats i (stats.updateScreenInteractive event.timeStamp)
  | .screenNonInteractive => s.setStats i (stats.updateScreenNonInteractive event.timeStamp)
  | .keyguardShown => s.setStats i (stats.updateKeyguardShown event.timeStamp)
  | .keyguardHidden => s.setStats i (stats.updateKeyguardHidden event.timeStamp)
  | _ =>
    let s := updateStats i event.bundleName event.continuousTaskAbilityName event.timeStamp
      event.eventId event.abilityId event.uid s
    if incrementBundleLaunch then
      s.setStats i
        { s.currentStats i with
          bundleStats := (s.currentStats i).bundleStats.modify
            (getBundleUsageKey event.bundleName event.uid) (·.incrementBundleLaunchedCount) }
    else s

def updatePeriodStats (s : ServiceState) (event : BundleActiveEvent)
    (incrementBundleLaunch : Bool) : ServiceState :=
  let s := IntervalType.all.foldl (updatePeriodStatsOf event incrementBundleLaunch) s
  if event.eventId ≠ .flush then s.notifyStatsChanged else s

/-- The rollover at the head of both report functions. -/
def renewIfExpired (s : ServiceState) (timeStamp : ℤ) : ServiceState :=
  if timeStamp ≥ s.dailyExpiryDate.time then renewStatsInMemory tz s timeStamp else s

def launchesBundle (s : ServiceState) (event : BundleActiveEvent) : Bool :=
  event.eventId = .abilityForeground ∧ event.bundleName ≠ "" ∧
    event.bundleName ≠ s.lastForegroundBundle

def reportEvent (s : ServiceState) (event : BundleActiveEvent) : ServiceState :=
  let s := s.renewIfExpired tz event.timeStamp
  let s := if event.eventId ≠ .systemInteractive ∧ event.eventId ≠ .flush then
      s.addDailyEvent event
    else s
  if s.launchesBundle event then
    { s with lastForegroundBundle := event.bundleName }.updatePeriodStats event true
  else s.updatePeriodStats event false

def reportForShutdown (s : ServiceState) (event : BundleActiveEvent) : ServiceState :=
  if event.eventId ≠ .shutdown then s
  else
    let s := (s.addDailyEvent event).renewIfExpired tz event.timeStamp
    let s := IntervalType.all.foldl (fun s i =>
      updateStats i event.bundleName event.continuousTaskAbilityName event.timeStamp event.eventId
        event.abilityId event.uid s) s
    s.notifyStatsChanged

def getOrCreateModuleRecord (s : ServiceState) (event : BundleActiveEvent) :
    BundleActiveModuleRecord :=
  (s.moduleRecords[combinedInfo event.bundleName event.uid event.moduleName]?).getD
    { bundleName := event.bundleName, moduleName := event.moduleName
      userId := s.userId, uid := event.uid }

def setModuleRecord (s : ServiceState) (event : BundleActiveEvent) (r : BundleActiveModuleRecord) :
    ServiceState :=
  { s with
    moduleRecords := s.moduleRecords.insert
      (combinedInfo event.bundleName event.uid event.moduleName) r }

def reportModuleEvent (s : ServiceState) (event : BundleActiveEvent) : ServiceState :=
  if event.eventId ≠ .abilityForeground then s
  else
    (s.setModuleRecord event
      ((s.getOrCreateModuleRecord event).updateModuleRecord event.timeStamp)).notifyStatsChanged

def reportFormEvent (s : ServiceState) (event : BundleActiveEvent) : ServiceState :=
  let moduleRecord := s.getOrCreateModuleRecord event
  match event.eventId with
  | .formIsClicked =>
    (s.setModuleRecord event (moduleRecord.addOrUpdateOneFormRecord event.formName
      event.formDimension event.formId event.timeStamp event.uid)).notifyStatsChanged
  | .formIsRemoved =>
    let s := s.setModuleRecord event (moduleRecord.removeOneFormRecord event.formId)
    s.setDatabase s.databaseState.removeFormData
  | _ => s.setModuleRecord event moduleRecord

def renewTableTime (s : ServiceState) (oldTime newTime : ℤ) : ServiceState :=
  s.setDatabase (s.databaseState.renewTableTime (newTime - oldTime))

/-! ### Removals -/

def deleteMemUsageStats (s : ServiceState) (bundleName : String) (deletedUid appIndex : ℤ)
    (stats : BundleActivePeriodStats) : BundleActivePeriodStats :=
  if appIndex ≠ 0 then
    { stats with bundleStats := stats.bundleStats.erase (getBundleUsageKey bundleName deletedUid) }
  else
    { stats with
      bundleStats := (s.packageContainUidMap.getPackageUidSet bundleName).toList.foldl
        (fun m uid => m.erase (getBundleUsageKey bundleName uid)) stats.bundleStats }

def deleteMemEvent (s : ServiceState) (bundleName : String) (deletedUid appIndex : ℤ)
    (stats : BundleActivePeriodStats) : BundleActivePeriodStats :=
  if appIndex ≠ 0 then
    { stats with
      events := stats.events.eraseIf fun e => e.bundleName = bundleName ∧ e.uid = deletedUid }
  else
    { stats with
      events := stats.events.eraseIf fun e => e.bundleName = bundleName ∧
        (s.packageContainUidMap.getPackageUidSet bundleName).contains e.uid }

def isSubstringOf (pattern str : String) : Bool := decide (pattern.toList <:+: str.toList)

def deleteMemRecords (s : ServiceState) (bundleName : String) (deletedUid appIndex : ℤ) :
    ServiceState :=
  let pattern := if appIndex ≠ 0 then bundleName ++ " " ++ toString deletedUid else bundleName
  { s with
    moduleRecords := Entries.eraseEntries (fun key _ => isSubstringOf pattern key) s.moduleRecords }

def deleteMemPackageUidSet (s : ServiceState) (bundleName : String) (deletedUid appIndex : ℤ) :
    ServiceState :=
  { s with
    packageContainUidMap :=
      if appIndex ≠ 0 then s.packageContainUidMap.deletePackageUid bundleName deletedUid
      else s.packageContainUidMap.deleteMemPackage bundleName }

def deleteUninstalledBundleStats (s : ServiceState) (bundleName : String) (uid appIndex : ℤ) :
    ServiceState :=
  let s := IntervalType.all.foldl (fun s i =>
    s.setStats i (s.deleteMemEvent bundleName uid appIndex
      (s.deleteMemUsageStats bundleName uid appIndex (s.currentStats i)))) s
  let s := (s.deleteMemRecords bundleName uid appIndex).deleteMemPackageUidSet bundleName uid
    appIndex
  s.setDatabase (s.databaseState.onPackageUninstalled s.userId bundleName uid appIndex)

def deleteExcessiveEventTableData (s : ServiceState) (deleteDays : ℤ) : ServiceState :=
  if deleteDays < 0 then s
  else s.setDatabase (s.databaseState.deleteExcessiveEventTableData deleteDays)

end ServiceState

end DeviceUsageStats
