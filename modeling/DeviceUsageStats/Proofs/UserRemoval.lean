import DeviceUsageStats.Proofs.NoLostFlush
import DeviceUsageStats.Sanity.RowRemoval
import DeviceUsageStats.Spec.UserRemoval

/-! The removal of a user. It goes through the user's service: without one nothing is erased, with one
the rows of the tables that its database object knows are. The bundle-history table is not among
these. -/

namespace DeviceUsageStats

/-! ### Services stand under their own users -/

namespace BundleActiveCore

open ReportMessage

variable {core : BundleActiveCore} (tz : TimeZone)

theorem UserIds.congr {core' : BundleActiveCore} (users : core.UserIds)
    (h : core'.userStatServices = core.userStatServices) : core'.UserIds := fun u service hu =>
  users u service (h ▸ hu)

theorem UserIds.checkTimeChange (users : core.UserIds) (u : ℤ) (clock : Clock) :
    (core.checkTimeChangeAndGetWallTime tz u clock).2.UserIds := by
  have hcheck := checked tz core u clock
  split_ifs at hcheck with ht
  · obtain ⟨service, s, hget, hn, -, -, -, hs⟩ := hcheck
    exact (users.putService (hn.userId.trans (users u service hget))).congr hs
  · exact users.congr hcheck.2.2

theorem UserIds.getUserData (users : core.UserIds) (u t : ℤ) :
    (core.getUserDataAndInitializeIfNeeded tz u t).UserIds := by
  unfold getUserDataAndInitializeIfNeeded
  split
  · exact users
  · exact users.putService (ServiceState.init_spec tz core.toProcessState u core.debugCore t).1

theorem UserIds.prepareService (users : core.UserIds) (u : ℤ) (clock : Clock) :
    (core.prepareService tz u clock).UserIds := by
  have hcheck := users.checkTimeChange tz u clock
  unfold BundleActiveCore.prepareService
  simp only
  split_ifs
  · exact hcheck
  · exact hcheck.getUserData tz u _

theorem UserIds.reportEvent (users : core.UserIds) (event : BundleActiveEvent) (u : ℤ)
    (launcher : Bool) (clock : Clock) : (core.reportEvent tz event u launcher clock).UserIds := by
  unfold BundleActiveCore.reportEvent
  simp only
  generalize hcore : (if core.currentUsedUser = -1 then { core with currentUsedUser := u }
    else core) = core'
  have hcore' : core'.UserIds := by
    rw [← hcore]
    split_ifs
    · exact users.congr rfl
    · exact users
  have hcheck := hcore'.checkTimeChange tz u clock
  split_ifs
  · exact users
  · exact hcore'
  · exact hcheck
  · exact (hcheck.getUserData tz u _).withService fun s =>
      (notifies_reportToService tz _ s).userId

theorem UserIds.onBundleUninstalled (users : core.UserIds) (u : ℤ) (b : String)
    (uid appIndex : ℤ) (clock : Clock) :
    (core.onBundleUninstalled tz u b uid appIndex clock).UserIds := by
  have hcheck := users.checkTimeChange tz u clock
  unfold BundleActiveCore.onBundleUninstalled
  simp only
  split_ifs
  · exact hcheck
  · exact (hcheck.getUserData tz u _).withService fun s =>
      (ServiceState.quiet_deleteUninstalledBundleStats s b uid appIndex).userId

theorem UserIds.restoreToDatabase (users : core.UserIds) (u : ℤ) (low : Bool) (clock : Clock) :
    (core.restoreToDatabase tz u low clock).UserIds := by
  unfold BundleActiveCore.restoreToDatabase
  split_ifs
  · exact users
  · refine UserIds.congr (users.withService (u := u) fun s => ?_) rfl
    exact (ServiceState.restoreStats_spec _ false).1.trans
      (ServiceState.notifies_reportEvent tz s _).userId

theorem UserIds.onUserSwitched (users : core.UserIds) (u : ℤ) (noActiveUser : Bool)
    (clock : Clock) : (core.onUserSwitched tz u noActiveUser clock).UserIds := by
  have hsaved : (core.withService core.currentUsedUser fun s =>
      (s.reportEvent tz
        { eventId := .flush, timeStamp := core.expectedSystemTime clock }).restoreStats
          true).UserIds := users.withService fun s =>
    (ServiceState.restoreStats_spec _ true).1.trans
      (ServiceState.notifies_reportEvent tz s _).userId
  unfold BundleActiveCore.onUserSwitched
  simp only
  split_ifs
  · exact hsaved
  · exact hsaved.congr rfl

theorem UserIds.apply (users : core.UserIds) (op : CoreOp) : (core.apply tz op).UserIds := by
  cases op with
  | report event u launcher clock => exact users.reportEvent tz event u launcher clock
  | switchUser u noActiveUser clock => exact users.onUserSwitched tz u noActiveUser clock
  | fireFlush task low clock =>
    have hstart : ({ core with handler := core.handler.start task } : BundleActiveCore).UserIds :=
      users.congr rfl
    have hrestore := hstart.restoreToDatabase tz task.userId low clock
    unfold BundleActiveCore.apply BundleActiveCore.fireFlush processFlushToDiskEvent
    simp only
    split_ifs
    · exact hstart.congr rfl
    · exact hrestore.congr rfl
  | query u clock => exact users.prepareService tz u clock
  | uninstalled u b uid appIndex clock =>
    exact users.onBundleUninstalled tz u b uid appIndex clock

end BundleActiveCore

namespace UsageProcess

variable {tz : TimeZone} {c : BundleActiveGroupController} {w : UsageProcess} {u : ℤ}

theorem userIds_run (run : Run tz c w) : w.core.UserIds := by
  induction run with
  | init clock files debugCore tables t =>
    intro u service h
    simp [BundleActiveCore.init] at h
  | @step w op run ih =>
    cases op with
    | core op => exact ih.apply tz op
    | history op => exact ih
    | userRemoved u =>
      change (w.onUserRemoved u).core.UserIds
      unfold onUserRemoved
      split_ifs
      · exact ih
      · split
        · exact ih
        · intro v service h
          simp only [Std.TreeMap.getElem?_erase] at h
          split_ifs at h
          exact ih v service h

/-! ### One removal -/

structure NoUserRow (w : UsageProcess) (userId : ℤ) : Prop where
  rows : NoRowOf w.core.files fun rowUser _ => rowUser = userId
  histories : ∀ row ∈ w.bundleUserHistory.bundleHistoryTable.getD [], row.userId ≠ userId

/-- Nothing of the user is left, in the tables or in memory. -/
structure UserErased (w : UsageProcess) (userId : ℤ) : Prop extends NoUserRow w userId where
  service : userId ∉ w.core.userStatServices
  history : userId ∉ w.bundleUserHistory.userHistory

/-- A removal can erase the user: either its service is there, knows all tables with rows of the user,
and the bundle-history table has none, or there is nothing of the user. -/
def CanErase (w : UsageProcess) (userId : ℤ) : Prop :=
  match w.core.userStatServices[userId]? with
  | some service => minUserId ≤ userId ∧
      RowsListedOf (w.core.serviceState service).databaseState (fun rowUser _ => rowUser = userId) ∧
      ∀ row ∈ w.bundleUserHistory.bundleHistoryTable.getD [], row.userId ≠ userId
  | none => NoUserRow w userId ∧ userId ∉ w.bundleUserHistory.userHistory

theorem noRowOf_onUserRemoved_iff (s : ServiceState) :
    NoRowOf s.onUserRemoved.files (fun rowUser _ => rowUser = s.userId) ↔
      RowsListedOf s.databaseState fun rowUser _ => rowUser = s.userId :=
  s.databaseState.noRowOf_onPackageUninstalled_iff s.userId "" 0 0 _ fun _ _ _ h => by
    rw [DatabaseState.uninstalledRow, if_pos rfl]
    exact decide_eq_true h

/-- In every state of a run a removal leaves nothing of a user exactly if it can erase it. -/
theorem userErased_iff (run : Run tz c w) (u : ℤ) :
    UserErased (w.onUserRemoved u) u ↔ CanErase w u := by
  have users := userIds_run run
  unfold CanErase onUserRemoved
  cases hservice : w.core.userStatServices[u]? with
  | none =>
    have hnot : u ∉ w.core.userStatServices := by
      rw [Std.TreeMap.mem_iff_isSome_getElem?, hservice]
      exact Bool.false_ne_true
    simp only [ite_self]
    exact ⟨fun h => ⟨h.toNoUserRow, h.history⟩, fun h => ⟨h.1, hnot, h.2⟩⟩
  | some service =>
    have hid : service.userId = u := users u service hservice
    by_cases hu : u < minUserId
    · -- a user id below the smallest one is refused, and its service stays
      rw [if_pos hu]
      refine ⟨fun h => absurd ?_ h.service, fun h => absurd h.1 (not_le.2 hu)⟩
      rw [Std.TreeMap.mem_iff_isSome_getElem?, hservice]
      rfl
    · rw [if_neg hu]
      have hrows := noRowOf_onUserRemoved_iff (w.core.serviceState service)
      rw [show (w.core.serviceState service).userId = u from hid] at hrows
      constructor
      · intro h
        exact ⟨not_lt.1 hu, hrows.1 h.rows, h.histories⟩
      · rintro ⟨-, hlisted, hhistories⟩
        exact ⟨⟨hrows.2 hlisted, hhistories⟩, by simp, by simp [HistoryState.onUserRemoved]⟩

def morning : Clock := { systemTime := 1709280000000, realTime := 1000 }

def mailOpened : UsageProcess :=
  apply utc (.init false)
    { core := .init morning {} false, bundleUserHistory := .new {} 1000 }
    (.core (.report
      { bundleName := "com.example.mail", abilityId := "1", eventId := .abilityForeground
        timeStamp := 2000, uid := 20010001 } 100 false { systemTime := 1709280001000, realTime := 2000 }))

theorem userErased_iff_mailOpened :
    UserErased (mailOpened.onUserRemoved 100) 100 ↔ CanErase mailOpened 100 :=
  userErased_iff (.step (.core _) (.init morning {} false {} 1000)) 100

/-- A process begins over the day of user 100 that an earlier one saved. -/
def restarted : UsageProcess :=
  { core := .init morning
      { packageTables := fun
          | .daily => ({} : Tables PackageLogRow).insert 1709251200000
              [{ userId := 100, bundleName := "com.example.mail", bundleStartedCount := 1
                 lastTime := 61000, lastTimeContinuousTask := -1, totalTime := 60000
                 totalTimeContinuousTask := 0, uid := 20010001 }]
          | _ => {} } false
    bundleUserHistory := .new {} 1000 }

/-- The user is removed before a service is made for it, and the row stays. -/
theorem not_userErased_restarted :
    Run utc (.init false) restarted ∧ ¬ UserErased (restarted.onUserRemoved 100) 100 := by
  refine ⟨.init morning _ false {} 1000, fun h => ?_⟩
  have hrows := h.rows.packages .daily
  revert hrows
  decide +kernel

end UsageProcess
end DeviceUsageStats
