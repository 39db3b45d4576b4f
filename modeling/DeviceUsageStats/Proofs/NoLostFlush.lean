import DeviceUsageStats.Sanity.FlushTask

/-! No flush is lost, as long as nobody takes the slot. The slot of the flush task is shared by all
users, and a firing that returns early leaves its key behind; after either the current user's changes
have no flush task and get none. The runs that avoid this are those of `FlushSafe`. -/

namespace DeviceUsageStats
namespace BundleActiveCore

open ReportMessage BundleActiveReportHandler

def userChanged (core : BundleActiveCore) (userId : ℤ) : Bool :=
  (core.userStatServices[userId]?).any (·.statsChanged)

/-- If the current user has unsaved changes, a flush task for that user is pending. -/
def FlushPending (core : BundleActiveCore) : Prop :=
  core.userChanged core.currentUsedUser = true →
    core.handler.FlushTaskPending core.currentUsedUser

instance (core : BundleActiveCore) : Decidable core.FlushPending :=
  inferInstanceAs (Decidable (_ → _))

/-- The clock check handles a change of at least ten minutes for an existing service. -/
def changesTime (core : BundleActiveCore) (userId : ℤ) (clock : Clock) : Bool :=
  clock.systemTime ≠ -1 ∧ clock.realTime ≠ -1 ∧
    ¬ |clock.systemTime - core.expectedSystemTime clock| < tenMinutes ∧
    (core.userStatServices[userId]?).isSome

/-- The flush of the old user at a switch rolls the day over and posts a task for that user. -/
def switchPosts (core : BundleActiveCore) (clock : Clock) : Bool :=
  (core.userStatServices[core.currentUsedUser]?).any fun service =>
    !service.statsChanged ∧ core.expectedSystemTime clock ≥ service.dailyExpiryDate.time ∧
      IntervalType.all.any fun i => !(service.currentStats i).bundleStats.isEmpty

def clockFails (clock : Clock) : Bool :=
  clock.systemTime = -1 ∨ clock.realTime = -1 ∨ clock.systemTime = errTimeOperationFailed

/-- A clock change handled for one user takes no task of another current user. -/
def TimeSafe (core : BundleActiveCore) (userId : ℤ) (clock : Clock) : Prop :=
  core.changesTime userId clock = true → userId ≠ core.currentUsedUser →
    core.userChanged core.currentUsedUser = false

def reportUser (core : BundleActiveCore) (userId : ℤ) : ℤ :=
  if core.currentUsedUser = -1 then userId else core.currentUsedUser

/-- A report that makes its user the current one finds no changes left without a task. -/
def AdoptSafe (core : BundleActiveCore) (userId : ℤ) (reached : Prop) (clock : Clock) : Prop :=
  core.currentUsedUser = -1 → core.userChanged userId = true →
    core.handler.FlushTaskPending userId ∨ reached ∧ core.changesTime userId clock = true

/-- The steps after which the property still holds, read off the state before the step. -/
def FlushSafe (core : BundleActiveCore) : CoreOp → Prop
  | .report event userId isLauncherApp clock =>
    userId ≠ 0 → userId ≠ -1 →
      core.AdoptSafe userId (isLauncherApp = false) clock ∧
      (isLauncherApp = false →
        (core.reportUser userId ≠ userId → core.TimeSafe userId clock) ∧
        (core.reportUser userId = userId →
          event.eventId = .flush ∨ event.eventId = .formIsRemoved ∨ clockFails clock = true ∨
            core.changesTime userId clock = true ∨ core.handler.SlotFreeFor userId))
  | .switchUser userId noActiveUser clock =>
    noActiveUser = false → userId ≠ core.currentUsedUser → core.userChanged userId = true →
      core.handler.FlushTaskPending userId ∨
        core.handler.hasEvent flushToDisk = false ∧ core.switchPosts clock = false
  | .fireFlush task isUserSpaceMemoryLimit _ =>
    task.userId = core.currentUsedUser → isUserSpaceMemoryLimit = true →
      core.userChanged core.currentUsedUser = false
  | .query userId clock => core.TimeSafe userId clock
  | .uninstalled userId _ _ _ clock => core.TimeSafe userId clock

def UserIds (core : BundleActiveCore) : Prop :=
  ∀ (u : ℤ) service, core.userStatServices[u]? = some service → service.userId = u

/-- The invariant of the safe runs; the first two parts hold in every run. -/
structure FlushInv (core : BundleActiveCore) : Prop where
  slot : core.handler.SlotOk
  users : core.UserIds
  pending : core.FlushPending

variable {core core' : BundleActiveCore} {u v : ℤ} {clock : Clock} (tz : TimeZone)

theorem getElem?_putService (core : BundleActiveCore) (u v : ℤ) (s : ServiceState) :
    (core.putService u s).userStatServices[v]? =
      if v = u then some s.toBundleActiveUserService else core.userStatServices[v]? := by
  by_cases h : v = u
  · simp [putService, h]
  · simp [putService, Std.TreeMap.getElem?_insert, h, Ne.symm h]

theorem userChanged_putService (core : BundleActiveCore) (u v : ℤ) (s : ServiceState) :
    (core.putService u s).userChanged v = if v = u then s.statsChanged else core.userChanged v := by
  unfold userChanged
  rw [getElem?_putService]
  split_ifs <;> rfl

theorem UserIds.putService (users : core.UserIds) {s : ServiceState} (hu : s.userId = u) :
    (core.putService u s).UserIds := by
  intro v service hv
  rw [getElem?_putService] at hv
  split_ifs at hv with h
  · obtain rfl := Option.some.inj hv
    rw [h]
    exact hu
  · exact users v service hv

theorem FlushInv.putService (inv : FlushInv core) {s s' : ServiceState}
    (hh : s.handler = core.handler) (hu : s.userId = u) (hn : s.Notifies s')
    (hp : core.currentUsedUser = u → s'.statsChanged = true → s'.handler.FlushTaskPending u) :
    FlushInv (core.putService u s') where
  slot := hn.slotOk (hh ▸ inv.slot)
  users := inv.users.putService (hn.userId.trans hu)
  pending hc := by
    change (core.putService u s').userChanged core.currentUsedUser = true at hc
    rw [userChanged_putService] at hc
    split_ifs at hc with h
    · exact h ▸ hp h hc
    · exact hn.flushTaskPending (hh ▸ inv.pending hc)

/-! ### The clock check -/

theorem handleTimeChange_spec (t t' : ℤ) (s : ServiceState) :
    s.Notifies (handleTimeChange tz t t' s) ∧ (handleTimeChange tz t t' s).statsChanged = false := by
  simp only [handleTimeChange, ServiceState.renewTableTime]
  have h₁ := s.notifies_reportEvent tz { eventId := .flush, timeStamp := t }
  set s₁ := s.reportEvent tz { eventId := .flush, timeStamp := t }
  obtain ⟨hu₂, hh₂, -⟩ := s₁.restoreStats_spec true
  set s₂ := s₁.restoreStats true
  have hq := s₂.quiet_setDatabase (s₂.databaseState.renewTableTime (t' - t))
  set s₃ := s₂.setDatabase (s₂.databaseState.renewTableTime (t' - t))
  obtain ⟨hu₄, hh₄, hc₄⟩ := s₃.loadActiveStats_spec tz t' true true
  set s₄ := s₃.loadActiveStats tz t' true true
  have hq₄ := s₄.quiet_loadModuleAndFormStats
  exact ⟨h₁.trans ⟨hq₄.userId.trans (hu₄.trans (hq.userId.trans hu₂)),
    .inl (hq₄.handler.trans (hh₄.trans (hq.handler.trans hh₂)))⟩, hq₄.changed.trans hc₄⟩

/-- What the clock check leaves: it moves nothing, or the change was handled for the service of the
user and the slot was emptied. -/
theorem checked (core : BundleActiveCore) (u : ℤ) (clock : Clock) :
    if core.changesTime u clock = true then
      ∃ service s, core.userStatServices[u]? = some service ∧
        (core.serviceState service).Notifies s ∧ s.statsChanged = false ∧
        (core.checkTimeChangeAndGetWallTime tz u clock).2.currentUsedUser = core.currentUsedUser ∧
        (core.checkTimeChangeAndGetWallTime tz u clock).2.handler =
          s.handler.removeEvent flushToDisk ∧
        (core.checkTimeChangeAndGetWallTime tz u clock).2.userStatServices =
          (core.putService u s).userStatServices
    else
      (core.checkTimeChangeAndGetWallTime tz u clock).2.currentUsedUser = core.currentUsedUser ∧
        (core.checkTimeChangeAndGetWallTime tz u clock).2.handler = core.handler ∧
        (core.checkTimeChangeAndGetWallTime tz u clock).2.userStatServices =
          core.userStatServices := by
  unfold checkTimeChangeAndGetWallTime
  simp only
  by_cases hclock : clock.systemTime = -1 ∨ clock.realTime = -1
  · rw [if_pos hclock, if_neg]
    · exact ⟨rfl, rfl, rfl⟩
    · rcases hclock with h | h <;> simp [changesTime, h]
  · rw [if_neg hclock]
    by_cases hdrift : |clock.systemTime - core.expectedSystemTime clock| < tenMinutes
    · rw [if_pos hdrift, if_neg (by simp [changesTime, hdrift])]
      split_ifs <;> exact ⟨rfl, rfl, rfl⟩
    · rw [if_neg hdrift]
      obtain ⟨hs, hr⟩ := not_or.1 hclock
      cases hget : core.userStatServices[u]? with
      | none =>
        rw [if_neg (by simp [changesTime, hget])]
        exact ⟨rfl, rfl, rfl⟩
      | some service =>
        rw [if_pos (by simp [changesTime, hget, hs, hr, hdrift])]
        obtain ⟨hn, hc⟩ := handleTimeChange_spec tz (core.expectedSystemTime clock)
          clock.systemTime (core.serviceState service)
        refine ⟨service, _, rfl, hn, hc, ?_, ?_, ?_⟩
        all_goals simp only [withService, hget, putService, removeFlushEvent]

theorem userChanged_congr (h : core'.userStatServices = core.userStatServices) (u : ℤ) :
    core'.userChanged u = core.userChanged u := by
  unfold userChanged
  rw [h]

/-- A handled change leaves the slot empty, so it repairs a current user without a task. -/
theorem FlushInv.checkTimeChange (slot : core.handler.SlotOk)
    (users : core.UserIds)
    (pending : core.FlushPending ∨ u = core.currentUsedUser ∧ core.changesTime u clock = true)
    (safe : core.TimeSafe u clock) :
    FlushInv (core.checkTimeChangeAndGetWallTime tz u clock).2 := by
  have hcheck := checked tz core u clock
  set core' := (core.checkTimeChangeAndGetWallTime tz u clock).2
  split_ifs at hcheck with ht
  · obtain ⟨service, s, hget, hn, hchanged, hcur, hh, hs⟩ := hcheck
    refine ⟨?_, fun v service' hv => ?_, fun hc => ?_⟩
    · rw [hh]
      exact (hn.slotOk slot).removeEvent.1
    · rw [hs] at hv
      exact users.putService (hn.userId.trans (users u service hget)) v service' hv
    · rw [userChanged_congr hs, userChanged_putService, hcur] at hc
      split_ifs at hc with h
      · rw [hchanged] at hc
        cases hc
      · rw [safe ht (Ne.symm h)] at hc
        cases hc
  · obtain ⟨hcur, hh, hs⟩ := hcheck
    refine ⟨hh ▸ slot, fun v service' hv => users v service' (hs ▸ hv), fun hc => ?_⟩
    rw [userChanged_congr hs, hcur] at hc
    rw [hcur, hh]
    exact pending.resolve_right (fun h => ht h.2) hc

theorem slotFreeFor_checkTimeChange (slot : core.handler.SlotOk)
    (h : core.changesTime u clock = true ∨ core.handler.SlotFreeFor u) :
    (core.checkTimeChangeAndGetWallTime tz u clock).2.handler.SlotFreeFor u := by
  have hcheck := checked tz core u clock
  split_ifs at hcheck with ht
  · obtain ⟨service, s, -, hn, -, -, hh, -⟩ := hcheck
    rw [hh]
    exact .inl (hn.slotOk slot).removeEvent.2
  · rw [hcheck.2.1]
    exact h.resolve_left ht

theorem checkTimeChange_of_clockFails (core : BundleActiveCore) (u : ℤ)
    (h : clockFails clock = true) :
    (core.checkTimeChangeAndGetWallTime tz u clock).1 = errTimeOperationFailed := by
  unfold checkTimeChangeAndGetWallTime
  simp only
  by_cases hclock : clock.systemTime = -1 ∨ clock.realTime = -1
  · rw [if_pos hclock]
  · have htime : clock.systemTime = errTimeOperationFailed := by
      obtain ⟨hs, hr⟩ := not_or.1 hclock
      simpa [clockFails, hs, hr] using h
    rw [if_neg hclock]
    split_ifs <;> exact htime

theorem currentUsedUser_checkTimeChange (core : BundleActiveCore) (u : ℤ) (clock : Clock) :
    (core.checkTimeChangeAndGetWallTime tz u clock).2.currentUsedUser = core.currentUsedUser := by
  have hcheck := checked tz core u clock
  split_ifs at hcheck
  · obtain ⟨_, _, -, -, -, hcur, -, -⟩ := hcheck
    exact hcur
  · exact hcheck.1

/-! ### The service of a user -/

theorem getUserData_handler (core : BundleActiveCore) (u t : ℤ) :
    (core.getUserDataAndInitializeIfNeeded tz u t).handler = core.handler ∧
      (core.getUserDataAndInitializeIfNeeded tz u t).currentUsedUser = core.currentUsedUser := by
  unfold getUserDataAndInitializeIfNeeded
  split
  · exact ⟨rfl, rfl⟩
  · exact ⟨(ServiceState.init_spec tz core.toProcessState u core.debugCore t).2.1, rfl⟩

theorem FlushInv.getUserData (inv : FlushInv core) (u t : ℤ) :
    FlushInv (core.getUserDataAndInitializeIfNeeded tz u t) := by
  unfold getUserDataAndInitializeIfNeeded
  split
  · exact inv
  · obtain ⟨hu, hh, hc⟩ := ServiceState.init_spec tz core.toProcessState u core.debugCore t
    refine inv.putService (u := u)
      (s := { toBundleActiveUserService := { userId := u }, toProcessState := core.toProcessState })
      rfl rfl ⟨hu, .inl hh⟩ fun _ h => ?_
    rw [hc] at h
    cases h

theorem FlushInv.withService (inv : FlushInv core) {f : ServiceState → ServiceState}
    (hn : ∀ s : ServiceState, s.Notifies (f s))
    (hp : ∀ s : ServiceState, core.currentUsedUser = u → s.userId = u → s.handler = core.handler →
      (s.statsChanged = true → s.handler.FlushTaskPending s.userId) →
      (f s).statsChanged = true → (f s).handler.FlushTaskPending u) :
    FlushInv (core.withService u f) := by
  unfold BundleActiveCore.withService
  cases hget : core.userStatServices[u]? with
  | none => exact inv
  | some service =>
    have hu : service.userId = u := inv.users u service hget
    refine inv.putService (s := core.serviceState service) rfl hu (hn _) fun hcur =>
      hp (core.serviceState service) hcur hu rfl fun hchanged => ?_
    have hpending : core.userChanged core.currentUsedUser = true := by
      rw [hcur, userChanged, hget]
      exact hchanged
    change core.handler.FlushTaskPending service.userId
    rw [hu, ← hcur]
    exact inv.pending hpending

theorem currentUsedUser_withService (core : BundleActiveCore) (u : ℤ)
    (f : ServiceState → ServiceState) :
    (core.withService u f).currentUsedUser = core.currentUsedUser := by
  unfold BundleActiveCore.withService
  split <;> rfl

theorem UserIds.withService (users : core.UserIds) {f : ServiceState → ServiceState}
    (hf : ∀ s, (f s).userId = s.userId) : (core.withService u f).UserIds := by
  unfold BundleActiveCore.withService
  split
  · exact users
  · exact users.putService ((hf _).trans (users u _ (by assumption)))

theorem handler_withService {f : ServiceState → ServiceState}
    (hn : ∀ s : ServiceState, s.Notifies (f s)) (h : core.handler.hasEvent flushToDisk = true) :
    (core.withService u f).handler = core.handler := by
  unfold BundleActiveCore.withService
  split
  · rfl
  · exact (hn (core.serviceState _)).of_hasEvent h

theorem userChanged_withService {f : ServiceState → ServiceState} (h : v ≠ u) :
    (core.withService u f).userChanged v = core.userChanged v := by
  unfold BundleActiveCore.withService
  split
  · rfl
  · rw [userChanged_putService, if_neg h]

theorem flushTaskPending_withService {f : ServiceState → ServiceState}
    (hn : ∀ s : ServiceState, s.Notifies (f s)) (hp : core.handler.FlushTaskPending v) :
    (core.withService u f).handler.FlushTaskPending v := by
  unfold BundleActiveCore.withService
  split
  · exact hp
  · exact (hn (core.serviceState _)).flushTaskPending hp

theorem notifies_reportToService (event : BundleActiveEvent) (s : ServiceState) :
    s.Notifies (reportToService tz event s) := by
  unfold reportToService
  split_ifs
  · rcases s.reportFormEvent_cases event with hq | ⟨-, s', hq, heq⟩
    · exact hq.notifies
    · rw [heq]
      exact hq.notifies.trans s'.notifies_notifyStatsChanged
  · exact (s.notifies_reportModuleEvent event).trans (ServiceState.notifies_reportEvent tz _ event)

theorem ready_reportToService {s : ServiceState} (h : s.Ready) (event : BundleActiveEvent) :
    (reportToService tz event s).Ready := by
  unfold reportToService
  split_ifs
  · rcases s.reportFormEvent_cases event with hq | ⟨-, s', hq, heq⟩
    · exact h.quiet hq
    · rw [heq]
      exact (h.quiet hq).notifyStatsChanged
  · exact (h.reportModuleEvent event).reportEvent tz event

theorem reportToService_statsChanged (event : BundleActiveEvent) {s : ServiceState}
    (he : event.eventId = .flush ∨ event.eventId = .formIsRemoved)
    (hc : (reportToService tz event s).statsChanged = true) : s.statsChanged = true := by
  unfold reportToService at hc
  rcases he with he | he
  · rw [if_neg (by simp [he])] at hc
    have hmodule : s.reportModuleEvent event = s := by
      simp [ServiceState.reportModuleEvent, he]
    rw [hmodule] at hc
    exact s.reportEvent_flush_statsChanged tz event he hc
  · rw [if_pos (.inr he)] at hc
    rcases s.reportFormEvent_cases event with hq | ⟨hclick, -⟩
    · exact hq.changed ▸ hc
    · rw [he] at hclick
      cases hclick

/-! ### The steps -/

theorem flushPending_of_unchanged (h : core.userChanged core.currentUsedUser = false) :
    core.FlushPending := by
  intro hc
  rw [h] at hc
  cases hc

theorem FlushInv.report (slot : core.handler.SlotOk)
    (users : core.UserIds)
    (pending : core.FlushPending ∨ u = core.currentUsedUser ∧ core.changesTime u clock = true)
    (other : core.currentUsedUser ≠ u → core.TimeSafe u clock) (event : BundleActiveEvent)
    (own : core.currentUsedUser = u → event.eventId = .flush ∨ event.eventId = .formIsRemoved ∨
      clockFails clock = true ∨ core.changesTime u clock = true ∨ core.handler.SlotFreeFor u) :
    FlushInv
      (let (timeNow, core) := core.checkTimeChangeAndGetWallTime tz u clock
      if timeNow = errTimeOperationFailed then core
      else (core.getUserDataAndInitializeIfNeeded tz u timeNow).withService u
        (reportToService tz (core.convertToSystemTimeLocked event))) := by
  have inv := FlushInv.checkTimeChange tz slot users pending fun ht hu => other (Ne.symm hu) ht hu
  have hcur := currentUsedUser_checkTimeChange tz core u clock
  have hfree (h : core.changesTime u clock = true ∨ core.handler.SlotFreeFor u) :=
    slotFreeFor_checkTimeChange tz slot h
  have hfails (h : clockFails clock = true) := checkTimeChange_of_clockFails tz core u h
  simp only
  set timeNow := (core.checkTimeChangeAndGetWallTime tz u clock).1
  set core' := (core.checkTimeChangeAndGetWallTime tz u clock).2
  split_ifs with herr
  · exact inv
  · obtain ⟨hh, hcur'⟩ := getUserData_handler tz core' u timeNow
    refine (inv.getUserData tz u timeNow).withService (notifies_reportToService tz _)
      fun s hu hs hhandler hpending hchanged => ?_
    rw [hcur', hcur] at hu
    have hn := notifies_reportToService tz (core'.convertToSystemTimeLocked event) s
    rcases or_assoc.2 (own hu) with he | hclock | hslot
    · exact hs ▸ hn.flushTaskPending (hpending (reportToService_statsChanged tz
        (core'.convertToSystemTimeLocked event) he hchanged))
    · exact absurd (hfails hclock) herr
    · have hready : s.Ready := by
        refine ⟨?_, hpending⟩
        rw [hs, hhandler, hh]
        exact hfree hslot
      rw [← hs, ← hn.userId]
      exact (ready_reportToService tz hready _).pending hchanged

theorem obtainSystemEventName_eventId (event : BundleActiveEvent) :
    (obtainSystemEventName event).eventId = event.eventId := by
  unfold obtainSystemEventName
  split <;> rfl

theorem flushInv_reportEvent (inv : FlushInv core) (event : BundleActiveEvent) (u : ℤ)
    (launcher : Bool) (safe : FlushSafe core (.report event u launcher clock)) :
    FlushInv (core.reportEvent tz event u launcher clock) := by
  unfold reportEvent
  simp only
  by_cases huser : u = 0 ∨ u = -1
  · rw [if_pos huser]
    exact inv
  · rw [if_neg huser]
    obtain ⟨hadopt, hreached⟩ := safe (not_or.1 huser).1 (not_or.1 huser).2
    by_cases hcur : core.currentUsedUser = -1
    · have huserEq : core.reportUser u = u := if_pos hcur
      rw [if_pos hcur]
      cases launcher with
      | true =>
        -- a launcher makes its user the current one and changes nothing else
        refine ⟨inv.slot, inv.users, fun hc => (hadopt hcur hc).resolve_right fun h => ?_⟩
        cases h.1
      | false =>
        rw [if_neg Bool.false_ne_true]
        have hslot : { core with currentUsedUser := u }.handler.SlotOk := inv.slot
        refine FlushInv.report tz hslot inv.users ?_ (fun h => absurd rfl h) _ fun _ => ?_
        · by_cases hc : core.userChanged u = true
          · exact (hadopt hcur hc).imp (fun h _ => h) fun h => ⟨rfl, h.2⟩
          · exact .inl fun h => absurd h hc
        · rw [obtainSystemEventName_eventId]
          exact (hreached rfl).2 huserEq
    · have huserEq : core.reportUser u = core.currentUsedUser := if_neg hcur
      rw [if_neg hcur]
      cases launcher with
      | true => exact inv
      | false =>
        rw [if_neg Bool.false_ne_true]
        refine FlushInv.report tz inv.slot inv.users (.inl inv.pending) (fun h => ?_) _ fun h => ?_
        · exact (hreached rfl).1 (huserEq.trans_ne h)
        · rw [obtainSystemEventName_eventId]
          exact (hreached rfl).2 (huserEq.trans h)

theorem flushInv_query (inv : FlushInv core) (safe : core.TimeSafe u clock) :
    FlushInv (core.prepareService tz u clock) := by
  have hinv := FlushInv.checkTimeChange tz inv.slot inv.users (.inl inv.pending) safe
  unfold prepareService
  simp only
  split_ifs
  · exact hinv
  · exact hinv.getUserData tz u _

theorem flushInv_uninstalled (inv : FlushInv core) (safe : core.TimeSafe u clock) (b : String)
    (uid appIndex : ℤ) : FlushInv (core.onBundleUninstalled tz u b uid appIndex clock) := by
  have hinv := FlushInv.checkTimeChange tz inv.slot inv.users (.inl inv.pending) safe
  unfold onBundleUninstalled
  simp only
  split_ifs
  · exact hinv
  · have hq := fun s : ServiceState => s.quiet_deleteUninstalledBundleStats b uid appIndex
    refine (hinv.getUserData tz u _).withService (fun s => (hq s).notifies)
      fun s _ hs _ hpending hchanged => ?_
    exact hs ▸ (hq s).notifies.flushTaskPending (hpending ((hq s).changed ▸ hchanged))

/-- The flush event and the save of a switch and of a firing. -/
def saveService (event : BundleActiveEvent) (forced : Bool) (s : ServiceState) : ServiceState :=
  (s.reportEvent tz event).restoreStats forced

theorem notifies_saveService (event : BundleActiveEvent) (forced : Bool) (s : ServiceState) :
    s.Notifies (saveService tz event forced s) := by
  obtain ⟨hu, hh, -⟩ := (s.reportEvent tz event).restoreStats_spec forced
  exact (s.notifies_reportEvent tz event).trans ⟨hu, .inl hh⟩

/-- A user whose stats are saved has none changed, whatever was reported before. -/
theorem userChanged_saveService (core : BundleActiveCore) (u : ℤ) (event : BundleActiveEvent)
    (forced : Bool) : (core.withService u (saveService tz event forced)).userChanged u = false := by
  unfold BundleActiveCore.withService
  cases hget : core.userStatServices[u]? with
  | none => simp [userChanged, hget]
  | some service =>
    simp only
    rw [userChanged_putService, if_pos rfl]
    exact (ServiceState.restoreStats_spec _ forced).2.2

/-- Without a rollover that finds entries, or with changes noted already, a switch posts nothing for
the old user. -/
theorem handler_saveService (h : core.switchPosts clock = false) :
    (core.withService core.currentUsedUser (saveService tz
      { eventId := .flush, timeStamp := core.expectedSystemTime clock } true)).handler =
      core.handler := by
  unfold BundleActiveCore.withService
  unfold switchPosts at h
  cases hget : core.userStatServices[core.currentUsedUser]? with
  | none => rfl
  | some service =>
    rw [hget, Option.any_some, decide_eq_false_iff_not] at h
    refine (ServiceState.restoreStats_spec _ true).2.1.trans
      (ServiceState.reportEvent_flush_handler tz (core.serviceState service) _ rfl ?_)
    by_cases hexp : core.expectedSystemTime clock < service.dailyExpiryDate.time
    · exact .inl hexp
    · by_cases hc : service.statsChanged = true
      · exact .inr (.inl hc)
      · refine .inr (.inr fun i => ?_)
        by_contra hempty
        refine h ⟨by simpa using hc, not_lt.1 hexp, List.any_eq_true.2 ⟨i, ?_, ?_⟩⟩
        · cases i <;> simp [IntervalType.all]
        · rw [Bool.not_eq_true] at hempty
          exact Bool.not_eq_true' _ ▸ hempty

theorem flushInv_switchUser (inv : FlushInv core) (u : ℤ) (noActiveUser : Bool)
    (safe : FlushSafe core (.switchUser u noActiveUser clock)) :
    FlushInv (core.onUserSwitched tz u noActiveUser clock) := by
  have hn := notifies_saveService tz
    { eventId := .flush, timeStamp := core.expectedSystemTime clock } true
  have hsaved := userChanged_saveService tz core core.currentUsedUser
    { eventId := .flush, timeStamp := core.expectedSystemTime clock } true
  have hposts (h : core.switchPosts clock = false) := handler_saveService tz h
  have hinv : FlushInv (core.withService core.currentUsedUser (saveService tz
      { eventId := .flush, timeStamp := core.expectedSystemTime clock } true)) := by
    refine inv.withService hn fun s _ _ _ _ hchanged => ?_
    rw [saveService, (ServiceState.restoreStats_spec _ true).2.2] at hchanged
    cases hchanged
  change FlushInv (if noActiveUser = true then core.withService core.currentUsedUser (saveService tz
      { eventId := .flush, timeStamp := core.expectedSystemTime clock } true) else _)
  cases noActiveUser with
  | true => exact hinv
  | false =>
    refine ⟨ServiceState.onStatsChanged_slotOk u hinv.slot, hinv.users, fun hc => ?_⟩
    change (core.withService core.currentUsedUser _).userChanged u = true at hc
    by_cases hu : u = core.currentUsedUser
    · rw [hu] at hc
      exact absurd (hsaved.symm.trans hc) Bool.false_ne_true
    · rw [userChanged_withService hu] at hc
      rcases safe rfl hu hc with hpending | ⟨hno, hquiet⟩
      · exact ServiceState.onStatsChanged_pending
          (.inr (flushTaskPending_withService hn hpending))
      · exact ServiceState.onStatsChanged_pending (.inl ((hposts hquiet).symm ▸ hno))

/-- The firing of the one flush task leaves the slot stale if it returns early, else empty. -/
theorem flushInv_fireFlush (inv : FlushInv core) (task : PendingTask) (low : Bool)
    (hmem : task ∈ core.handler.pending) (hev : task.eventId = flushToDisk)
    (safe : FlushSafe core (.fireFlush task low clock)) :
    FlushInv (core.fireFlush tz task low clock) := by
  obtain ⟨hkey, hnone⟩ := inv.slot.start hmem hev
  by_cases hcur : task.userId = core.currentUsedUser
  · cases low with
    | true =>
      have hcore : core.fireFlush tz task true clock =
          { core with handler := (core.handler.start task).finish flushToDisk } := by
        simp [fireFlush, processFlushToDiskEvent, restoreToDatabase, hcur]
      rw [hcore]
      exact ⟨slotOk_finish hkey hnone, inv.users, flushPending_of_unchanged (safe hcur rfl)⟩
    | false =>
      have hn := notifies_saveService tz { eventId := .flush, timeStamp := clock.systemTime } false
      set core₀ : BundleActiveCore := { core with handler := core.handler.start task } with hcore₀
      set core₁ := core₀.withService task.userId
        (saveService tz { eventId := .flush, timeStamp := clock.systemTime } false) with hcore₁
      have hhandler : core₁.handler = core.handler.start task :=
        handler_withService hn (by simp [hcore₀, hasEvent, hkey])
      have hprocess : core₀.processFlushToDiskEvent tz task.userId false clock =
          core₁.removeFlushEvent := by
        rw [processFlushToDiskEvent, if_neg (not_not.2 hcur), restoreToDatabase,
          if_neg Bool.false_ne_true]
        exact congrArg removeFlushEvent hcore₁.symm
      have hcore : core.fireFlush tz task false clock =
          { core₁ with
            handler := ((core.handler.start task).removeEvent flushToDisk).finish flushToDisk } := by
        simp only [fireFlush]
        rw [← hcore₀, hprocess, removeFlushEvent, hhandler]
      rw [hcore]
      refine ⟨slotOk_removeEvent_finish hnone, ?_, flushPending_of_unchanged ?_⟩
      · have husers : core₀.UserIds := inv.users
        exact husers.withService fun s => (hn s).userId
      · have hcur₁ : core₁.currentUsedUser = task.userId := by
          rw [hcore₁, currentUsedUser_withService, hcur]
        change core₁.userChanged core₁.currentUsedUser = false
        rw [hcur₁]
        exact userChanged_saveService tz core₀ task.userId _ false
  · have hcore : core.fireFlush tz task low clock =
        { core with
          handler := ((core.handler.start task).removeEvent flushToDisk).finish flushToDisk } := by
      simp [fireFlush, processFlushToDiskEvent, removeFlushEvent, hcur]
    rw [hcore]
    refine ⟨slotOk_removeEvent_finish hnone, inv.users, flushPending_of_unchanged ?_⟩
    change core.userChanged core.currentUsedUser = false
    by_contra hc
    -- the only pending flush task is the one that fired
    have hpending := inv.pending (by simpa using hc)
    exact hcur (inv.slot.userId_eq hmem hev hpending)

theorem FlushInv.step (inv : FlushInv core) (op : CoreOp) (enabled : core.Enabled op)
    (safe : core.FlushSafe op) : FlushInv (core.apply tz op) := by
  cases op with
  | report event userId launcher clock =>
    exact flushInv_reportEvent tz inv event userId launcher safe
  | switchUser userId noActiveUser clock =>
    exact flushInv_switchUser tz inv userId noActiveUser safe
  | fireFlush task low clock => exact flushInv_fireFlush tz inv task low enabled.1 enabled.2 safe
  | query userId clock => exact flushInv_query tz inv safe
  | uninstalled userId bundleName uid appIndex clock =>
    exact flushInv_uninstalled tz inv safe bundleName uid appIndex

theorem flushInv_run (run : Run tz FlushSafe core) : FlushInv core := by
  induction run with
  | init clock files debugCore =>
    refine ⟨.empty rfl rfl, fun u service h => ?_, fun h => ?_⟩
    · simp [init] at h
    · simp [userChanged, init] at h
  | step op _ enabled safe ih => exact ih.step tz op enabled safe

/-- Along the runs that take the slot from nobody no flush of the current user is lost. -/
theorem no_flush_lost (run : Run tz FlushSafe core) : core.FlushPending :=
  (flushInv_run tz run).pending

def afterReport : BundleActiveCore :=
  (init { systemTime := 1709280000000, realTime := 1000 } {} false).apply utc
    (.report
      { bundleName := "com.example.mail", abilityId := "1", eventId := .abilityForeground
        timeStamp := 2000, uid := 20010001 }
      100 false { systemTime := 1709280001000, realTime := 2000 })

theorem no_flush_lost_after_report :
    afterReport.userChanged 100 = true ∧ afterReport.FlushPending := by
  refine ⟨by decide +kernel, no_flush_lost utc (.step _ (.init _ _ _) trivial ?_)⟩
  intro _ _
  refine ⟨fun _ h => ?_, fun _ => ⟨fun h => ?_, fun _ => ?_⟩⟩
  · cases h
  · exact absurd rfl h
  · exact .inr (.inr (.inr (.inr (.inl rfl))))

/-- The flush task of that report fires while the user space is low. -/
def afterLowSpace : BundleActiveCore :=
  afterReport.apply utc
    (.fireFlush { handle := 0, eventId := .flushToDisk, userId := 100, delayTime := 1800000 } true
      { systemTime := 1709281801000, realTime := 1802000 })

theorem flush_lost_after_low_space :
    Run utc (fun _ _ => True) afterLowSpace ∧ ¬ afterLowSpace.FlushPending := by
  refine ⟨.step _ (.step _ (.init _ _ _) trivial trivial) ?_ trivial, by decide +kernel⟩
  change _ ∈ afterReport.handler.pending ∧ _
  decide +kernel

end BundleActiveCore
end DeviceUsageStats
