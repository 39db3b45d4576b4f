import DeviceUsageStats.Spec.Core

/-! The flush task. The handler's slot for it is empty, stale (a key without a handle) or holds the
handle of the one pending flush task. No operation of a service touches the slot except that it posts
a task of its own user into the empty slot; `Notifies` says so and composes along every loop. -/

namespace DeviceUsageStats

open ReportMessage

namespace BundleActiveReportHandler

def pendingFlush (h : BundleActiveReportHandler) : List PendingTask :=
  h.pending.filter fun task => task.eventId = flushToDisk

/-- A flush task of the user is pending. -/
def FlushTaskPending (h : BundleActiveReportHandler) (userId : ℤ) : Prop :=
  ∃ task ∈ h.pending, task.eventId = flushToDisk ∧ task.userId = userId

instance (h : BundleActiveReportHandler) (userId : ℤ) : Decidable (h.FlushTaskPending userId) :=
  inferInstanceAs (Decidable (∃ task ∈ h.pending, _))

/-- The slot does not keep the user from having a flush task. -/
def SlotFreeFor (h : BundleActiveReportHandler) (userId : ℤ) : Prop :=
  h.hasEvent flushToDisk = false ∨ h.FlushTaskPending userId

instance (h : BundleActiveReportHandler) (userId : ℤ) : Decidable (h.SlotFreeFor userId) :=
  inferInstanceAs (Decidable (_ ∨ _))

inductive SlotOk (h : BundleActiveReportHandler) : Prop where
  | empty (key : h.taskHandlerMap flushToDisk = none) (pending : h.pendingFlush = [])
  | stale (key : h.taskHandlerMap flushToDisk = some []) (pending : h.pendingFlush = [])
  | one (task : PendingTask) (key : h.taskHandlerMap flushToDisk = some [task.handle])
    (pending : h.pendingFlush = [task])

variable {h : BundleActiveReportHandler} {task : PendingTask} {u v d : ℤ}

theorem flushTaskPending_iff :
    h.FlushTaskPending u ↔ ∃ task ∈ h.pendingFlush, task.userId = u := by
  simp [FlushTaskPending, pendingFlush, and_assoc]

theorem hasEvent_eq_false_iff : h.hasEvent flushToDisk = false ↔
    h.taskHandlerMap flushToDisk = none := by
  simp [hasEvent]

theorem hasEvent_sendEvent : (h.sendEvent flushToDisk u d).hasEvent flushToDisk = true := by
  simp [hasEvent, sendEvent]

theorem flushTaskPending_sendEvent : (h.sendEvent flushToDisk u d).FlushTaskPending u :=
  ⟨_, List.mem_append_right _ (List.mem_singleton_self _), rfl, rfl⟩

theorem FlushTaskPending.sendEvent (hp : h.FlushTaskPending v) :
    (h.sendEvent flushToDisk u d).FlushTaskPending v := by
  obtain ⟨task, hmem, htask⟩ := hp
  exact ⟨task, List.mem_append_left _ hmem, htask⟩

theorem SlotOk.sendEvent (ok : h.SlotOk) (hno : h.hasEvent flushToDisk = false) :
    (h.sendEvent flushToDisk u d).SlotOk := by
  rw [hasEvent_eq_false_iff] at hno
  cases ok with
  | empty key pending =>
    refine .one { handle := h.nextHandle, eventId := flushToDisk, userId := u, delayTime := d }
      (by simp [BundleActiveReportHandler.sendEvent, hno]) ?_
    unfold pendingFlush at pending
    simp [BundleActiveReportHandler.sendEvent, pendingFlush, List.filter_append, pending]
  | stale key pending => rw [hno] at key; cases key
  | one task key pending => rw [hno] at key; cases key

/-- With at most one flush task pending, a cancelled slot leaves none. -/
theorem SlotOk.removeEvent (ok : h.SlotOk) : (h.removeEvent flushToDisk).SlotOk ∧
    (h.removeEvent flushToDisk).hasEvent flushToDisk = false := by
  have hfilter : ∀ handles : List ℕ,
      (h.pending.filter fun task => task.handle ∉ handles).filter
        (fun task => task.eventId = flushToDisk) =
      h.pendingFlush.filter fun task => task.handle ∉ handles := by
    intro handles
    simp only [pendingFlush, List.filter_filter, Bool.and_comm]
  cases ok with
  | empty key pending =>
    have heq : h.removeEvent flushToDisk = h := by simp [BundleActiveReportHandler.removeEvent, key]
    rw [heq]
    exact ⟨.empty key pending, hasEvent_eq_false_iff.2 key⟩
  | stale key pending =>
    refine ⟨.empty ?_ ?_, ?_⟩
    · simp [BundleActiveReportHandler.removeEvent, key]
    · simp only [BundleActiveReportHandler.removeEvent, key]
      rw [pendingFlush, hfilter, pending, List.filter_nil]
    · simp [hasEvent, BundleActiveReportHandler.removeEvent, key]
  | one task key pending =>
    refine ⟨.empty ?_ ?_, ?_⟩
    · simp [BundleActiveReportHandler.removeEvent, key]
    · simp only [BundleActiveReportHandler.removeEvent, key]
      rw [pendingFlush, hfilter, pending]
      simp
    · simp [hasEvent, BundleActiveReportHandler.removeEvent, key]

/-- A started flush task was the pending one; its key outlives it. -/
theorem SlotOk.start (ok : h.SlotOk) (hmem : task ∈ h.pending)
    (hev : task.eventId = flushToDisk) :
    (h.start task).taskHandlerMap flushToDisk = some [task.handle] ∧
      (h.start task).pendingFlush = [] := by
  have hpf : task ∈ h.pendingFlush := List.mem_filter.2 ⟨hmem, by simpa using hev⟩
  have herase : (h.start task).pendingFlush = h.pendingFlush.erase task := by
    rw [pendingFlush, BundleActiveReportHandler.start, pendingFlush, List.erase_filter]
  cases ok with
  | empty key pending => rw [pending] at hpf; cases hpf
  | stale key pending => rw [pending] at hpf; cases hpf
  | one t key pending =>
    rw [pending, List.mem_singleton] at hpf
    subst hpf
    exact ⟨key, by rw [herase, pending, List.erase_cons_head]⟩

/-- A pending flush task is the only one. -/
theorem SlotOk.userId_eq (ok : h.SlotOk) (hmem : task ∈ h.pending)
    (hev : task.eventId = flushToDisk) (hp : h.FlushTaskPending u) : task.userId = u := by
  have hpf : task ∈ h.pendingFlush := List.mem_filter.2 ⟨hmem, by simpa using hev⟩
  obtain ⟨task', hpf', hu⟩ := flushTaskPending_iff.1 hp
  cases ok with
  | empty key pending => rw [pending] at hpf; cases hpf
  | stale key pending => rw [pending] at hpf; cases hpf
  | one t key pending =>
    rw [pending, List.mem_singleton] at hpf hpf'
    rw [hpf, ← hpf', hu]

theorem slotOk_finish {handle : ℕ} (hkey : h.taskHandlerMap flushToDisk = some [handle])
    (hnone : h.pendingFlush = []) : (h.finish flushToDisk).SlotOk := by
  refine .stale ?_ ?_
  · simp [finish, hkey]
  · simp only [finish, hkey]
    exact hnone

theorem slotOk_removeEvent_finish (hnone : h.pendingFlush = []) :
    ((h.removeEvent flushToDisk).finish flushToDisk).SlotOk := by
  have hkey : (h.removeEvent flushToDisk).taskHandlerMap flushToDisk = none := by
    unfold removeEvent
    split
    · assumption
    · simp
  have hfinish : (h.removeEvent flushToDisk).finish flushToDisk = h.removeEvent flushToDisk := by
    simp only [finish, hkey]
  rw [hfinish]
  refine .empty hkey (List.filter_eq_nil_iff.2 fun task htask => ?_)
  refine List.filter_eq_nil_iff.1 hnone task ?_
  unfold removeEvent at htask
  split at htask
  · exact htask
  · exact List.mem_of_mem_filter htask

end BundleActiveReportHandler

namespace ServiceState

open BundleActiveReportHandler

variable {s s' s'' : ServiceState}

/-- From `s` to `s'` the slot is left alone, or took a task of the service's user while empty. -/
structure Notifies (s s' : ServiceState) : Prop where
  userId : s'.userId = s.userId
  handler : s'.handler = s.handler ∨
    s.handler.hasEvent flushToDisk = false ∧
      ∃ d, s'.handler = s.handler.sendEvent flushToDisk s.userId d

theorem Notifies.refl (s : ServiceState) : Notifies s s := ⟨rfl, .inl rfl⟩

theorem Notifies.trans (h : Notifies s s') (h' : Notifies s' s'') : Notifies s s'' := by
  refine ⟨h'.userId.trans h.userId, ?_⟩
  rcases h.handler with heq | ⟨hno, d, heq⟩
  · rcases h'.handler with heq' | ⟨hno', d, heq'⟩
    · exact .inl (heq'.trans heq)
    · exact .inr ⟨heq ▸ hno', d, by rw [heq', heq, h.userId]⟩
  · rcases h'.handler with heq' | ⟨hno', -⟩
    · exact .inr ⟨hno, d, heq'.trans heq⟩
    · rw [heq, hasEvent_sendEvent] at hno'
      cases hno'

theorem Notifies.flushTaskPending (h : Notifies s s') {u : ℤ}
    (hp : s.handler.FlushTaskPending u) : s'.handler.FlushTaskPending u := by
  rcases h.handler with heq | ⟨-, d, heq⟩ <;> rw [heq]
  · exact hp
  · exact hp.sendEvent

theorem Notifies.of_hasEvent (h : Notifies s s') (hev : s.handler.hasEvent flushToDisk = true) :
    s'.handler = s.handler := by
  rcases h.handler with heq | ⟨hno, -⟩
  · exact heq
  · rw [hev] at hno
    cases hno

theorem Notifies.slotOk (h : Notifies s s') (ok : s.handler.SlotOk) : s'.handler.SlotOk := by
  rcases h.handler with heq | ⟨hno, d, heq⟩ <;> rw [heq]
  · exact ok
  · exact ok.sendEvent hno

theorem Notifies.slotFreeFor (h : Notifies s s') (hfree : s.handler.SlotFreeFor s.userId) :
    s'.handler.SlotFreeFor s'.userId := by
  rcases hfree with hno | hp
  · rcases h.handler with heq | ⟨-, d, heq⟩
    · exact .inl (heq ▸ hno)
    · exact .inr (by rw [heq, h.userId]; exact flushTaskPending_sendEvent)
  · exact .inr (h.userId ▸ h.flushTaskPending hp)

/-- Neither the slot nor the change flag moves. -/
structure Quiet (s s' : ServiceState) : Prop where
  userId : s'.userId = s.userId
  handler : s'.handler = s.handler
  changed : s'.statsChanged = s.statsChanged

theorem Quiet.refl (s : ServiceState) : Quiet s s := ⟨rfl, rfl, rfl⟩

theorem Quiet.trans (h : Quiet s s') (h' : Quiet s' s'') : Quiet s s'' :=
  ⟨h'.userId.trans h.userId, h'.handler.trans h.handler, h'.changed.trans h.changed⟩

theorem Quiet.notifies (h : Quiet s s') : Notifies s s' := ⟨h.userId, .inl h.handler⟩

theorem Quiet.foldl {α : Type} {f : ServiceState → α → ServiceState}
    (h : ∀ s x, Quiet s (f s x)) (l : List α) (s : ServiceState) : Quiet s (l.foldl f s) := by
  induction l generalizing s with
  | nil => exact .refl s
  | cons x l ih => exact (h s x).trans (ih _)

theorem quiet_setDatabase (s : ServiceState) (d : DatabaseState) : Quiet s (s.setDatabase d) :=
  ⟨rfl, rfl, rfl⟩

theorem quiet_setStats (s : ServiceState) (i : IntervalType) (p : BundleActivePeriodStats) :
    Quiet s (s.setStats i p) :=
  ⟨rfl, rfl, rfl⟩

theorem quiet_updateStats (i : IntervalType) (b n : String) (t : ℤ) (e : EventId) (a : String)
    (uid : ℤ) (s : ServiceState) : Quiet s (updateStats i b n t e a uid s) :=
  ⟨rfl, rfl, rfl⟩

theorem quiet_restoreStatsOf (s : ServiceState) (i : IntervalType) : Quiet s (s.restoreStatsOf i) :=
  quiet_setDatabase s _

theorem restoreStats_spec (s : ServiceState) (forced : Bool) :
    (s.restoreStats forced).userId = s.userId ∧ (s.restoreStats forced).handler = s.handler ∧
      (s.restoreStats forced).statsChanged = false := by
  unfold restoreStats
  split_ifs with h
  · have hq := Quiet.foldl quiet_restoreStatsOf IntervalType.all s
    refine ⟨?_, ?_, rfl⟩ <;> (simp only; split_ifs)
    · exact hq.userId
    · exact hq.userId
    · exact hq.handler
    · exact hq.handler
  · exact ⟨rfl, rfl, by simpa using (not_or.1 h).1⟩

variable (tz : TimeZone)

theorem quiet_loadActiveStatsOf (t : ℤ) (force : Bool) (s : ServiceState) (i : IntervalType) :
    Quiet s (loadActiveStatsOf tz t force s i) := by
  unfold loadActiveStatsOf
  simp only
  split_ifs
  · exact .refl s
  · split <;> exact ⟨rfl, rfl, rfl⟩

theorem loadActiveStats_spec (s : ServiceState) (t : ℤ) (force changed : Bool) :
    (s.loadActiveStats tz t force changed).userId = s.userId ∧
      (s.loadActiveStats tz t force changed).handler = s.handler ∧
      (s.loadActiveStats tz t force changed).statsChanged = false :=
  have hq := Quiet.foldl (quiet_loadActiveStatsOf tz t force) IntervalType.all s
  ⟨hq.userId, hq.handler, rfl⟩

theorem onStatsChanged_handler (p : ProcessState) (u : ℤ) :
    (onStatsChanged p u).handler = p.handler ∨
      p.handler.hasEvent flushToDisk = false ∧
        ∃ d, (onStatsChanged p u).handler = p.handler.sendEvent flushToDisk u d := by
  unfold onStatsChanged
  split_ifs with h
  · exact .inl rfl
  · exact .inr ⟨by simpa using h, _, rfl⟩

theorem onStatsChanged_slotOk {p : ProcessState} (u : ℤ) (ok : p.handler.SlotOk) :
    (onStatsChanged p u).handler.SlotOk := by
  rcases onStatsChanged_handler p u with heq | ⟨hno, d, heq⟩ <;> rw [heq]
  · exact ok
  · exact ok.sendEvent hno

theorem onStatsChanged_pending {p : ProcessState} {u : ℤ} (h : p.handler.SlotFreeFor u) :
    (onStatsChanged p u).handler.FlushTaskPending u := by
  unfold onStatsChanged
  split_ifs with hev
  · rcases h with hno | hp
    · rw [hev] at hno
      cases hno
    · exact hp
  · exact flushTaskPending_sendEvent

theorem notifies_notifyStatsChanged (s : ServiceState) : Notifies s s.notifyStatsChanged := by
  unfold notifyStatsChanged
  split_ifs
  · exact .refl s
  · exact ⟨rfl, onStatsChanged_handler s.toProcessState s.userId⟩

/-- What keeps a service's next change from being lost. -/
structure Ready (s : ServiceState) : Prop where
  free : s.handler.SlotFreeFor s.userId
  pending : s.statsChanged = true → s.handler.FlushTaskPending s.userId

theorem Ready.notifyStatsChanged (h : s.Ready) : s.notifyStatsChanged.Ready := by
  refine ⟨(notifies_notifyStatsChanged s).slotFreeFor h.free, fun _ => ?_⟩
  rw [(notifies_notifyStatsChanged s).userId]
  unfold ServiceState.notifyStatsChanged
  split_ifs with hc
  · exact h.pending hc
  · exact onStatsChanged_pending h.free

theorem Ready.of_unchanged (h : s.Ready) (hn : Notifies s s') (hc : s'.statsChanged = false) :
    s'.Ready :=
  ⟨hn.slotFreeFor h.free, fun h' => by rw [hc] at h'; cases h'⟩

theorem Ready.quiet (h : s.Ready) (hq : Quiet s s') : s'.Ready :=
  ⟨hq.notifies.slotFreeFor h.free,
    fun h' => hq.userId ▸ hq.notifies.flushTaskPending (h.pending (hq.changed ▸ h'))⟩

/-! ### The rollover -/

theorem notifies_flushEntry (i : IntervalType) (cs : ContinueStats × ServiceState)
    (st : BundleActivePackageStats) : Notifies cs.2 (flushEntry i cs st).2 :=
  (quiet_updateStats i _ _ _ _ _ _ cs.2).notifies.trans (notifies_notifyStatsChanged _)

theorem notifies_foldl_flushEntry (i : IntervalType) (l : List BundleActivePackageStats)
    (cs : ContinueStats × ServiceState) : Notifies cs.2 (l.foldl (flushEntry i) cs).2 := by
  induction l generalizing cs with
  | nil => exact .refl _
  | cons st l ih => exact (notifies_flushEntry i cs st).trans (ih _)

theorem notifies_flushDataInMemOf (cs : ContinueStats × ServiceState) (i : IntervalType) :
    Notifies cs.2 (flushDataInMemOf cs i).2 :=
  (notifies_foldl_flushEntry i _ cs).trans (quiet_setStats _ i _).notifies

theorem notifies_flushDataInMem (s : ServiceState) : Notifies s s.flushDataInMem.2 := by
  have hfold : ∀ (l : List IntervalType) (cs : ContinueStats × ServiceState),
      Notifies cs.2 (l.foldl flushDataInMemOf cs).2 := by
    intro l
    induction l with
    | nil => exact fun cs => .refl _
    | cons i l ih => exact fun cs => (notifies_flushDataInMemOf cs i).trans (ih _)
  exact hfold IntervalType.all ({}, s)

theorem quiet_continueAbilitiesOfUids (i : IntervalType) (t : ℤ) (c : ContinueStats) (b : String)
    (uids : List ℤ) (s : ServiceState) : Quiet s (continueAbilitiesOfUids i t c b uids s) := by
  induction uids generalizing s with
  | nil => exact .refl s
  | cons uid uids ih =>
    unfold continueAbilitiesOfUids
    split
    · exact .refl s
    · refine (Quiet.foldl (fun s ability => ?_) _ s).trans (ih _)
      split_ifs
      · exact .refl s
      · exact quiet_updateStats i b "" t _ _ uid s

theorem quiet_continueServicesOfUids (i : IntervalType) (t : ℤ) (c : ContinueStats) (b : String)
    (uids : List ℤ) (s : ServiceState) : Quiet s (continueServicesOfUids i t c b uids s) := by
  induction uids generalizing s with
  | nil => exact .refl s
  | cons uid uids ih =>
    unfold continueServicesOfUids
    split
    · exact .refl s
    · refine (Quiet.foldl (fun s service => ?_) _ s).trans (ih _)
      exact quiet_updateStats i b service.1 t _ "" uid s

theorem quiet_updateContinueAbilitiesMemory (t : ℤ) (c : ContinueStats) (b : String)
    (i : IntervalType) (s : ServiceState) :
    Quiet s (updateContinueAbilitiesMemory t c b i s) := by
  unfold updateContinueAbilitiesMemory
  apply quiet_continueAbilitiesOfUids

theorem quiet_updateContinueServicesMemory (t : ℤ) (c : ContinueStats) (b : String)
    (i : IntervalType) (s : ServiceState) :
    Quiet s (updateContinueServicesMemory t c b i s) := by
  unfold updateContinueServicesMemory
  apply quiet_continueServicesOfUids

theorem quiet_continueBundleOf (t : ℤ) (c : ContinueStats) (b : String) (s : ServiceState)
    (i : IntervalType) : Quiet s (continueBundleOf t c b s i) := by
  unfold continueBundleOf
  apply (quiet_updateContinueAbilitiesMemory t c b i s).trans
  apply quiet_updateContinueServicesMemory

theorem quiet_continueBundle (c : ContinueStats) (s : ServiceState) (b : String) :
    Quiet s (continueBundle c s b) := by
  unfold continueBundle
  apply Quiet.foldl
  intro s i
  apply quiet_continueBundleOf

theorem saveAndReload_spec (s : ServiceState) (t : ℤ) :
    (s.saveAndReload tz t).userId = s.userId ∧ (s.saveAndReload tz t).handler = s.handler := by
  unfold saveAndReload
  obtain ⟨hu₁, hh₁, -⟩ := restoreStats_spec s true
  set s₁ := s.restoreStats true
  have hq := quiet_setDatabase s₁ (s₁.databaseState.removeOldData t)
  set s₂ := s₁.setDatabase (s₁.databaseState.removeOldData t)
  obtain ⟨hu₂, hh₂, -⟩ := loadActiveStats_spec tz s₂ t false false
  exact ⟨hu₂.trans (hq.userId.trans hu₁), hh₂.trans (hq.handler.trans hh₁)⟩

/-- Only the flush at the head of a rollover may take the slot. -/
theorem renewStatsInMemory_spec (s : ServiceState) (t : ℤ) :
    (s.renewStatsInMemory tz t).userId = s.flushDataInMem.2.userId ∧
      (s.renewStatsInMemory tz t).handler = s.flushDataInMem.2.handler ∧
      (s.renewStatsInMemory tz t).statsChanged = false := by
  simp only [renewStatsInMemory]
  obtain ⟨hu₁, hh₁⟩ := saveAndReload_spec tz s.flushDataInMem.2 t
  have hq := Quiet.foldl (quiet_continueBundle s.flushDataInMem.1)
    s.flushDataInMem.1.continueBundles.toList (s.flushDataInMem.2.saveAndReload tz t)
  set s₂ := s.flushDataInMem.1.continueBundles.toList.foldl (continueBundle s.flushDataInMem.1)
    (s.flushDataInMem.2.saveAndReload tz t)
  obtain ⟨hu, hh, hc⟩ := restoreStats_spec s₂ true
  exact ⟨hu.trans (hq.userId.trans hu₁), hh.trans (hq.handler.trans hh₁), hc⟩

theorem notifies_renewStatsInMemory (s : ServiceState) (t : ℤ) :
    Notifies s (s.renewStatsInMemory tz t) :=
  (notifies_flushDataInMem s).trans
    ⟨(renewStatsInMemory_spec tz s t).1, .inl (renewStatsInMemory_spec tz s t).2.1⟩

/-- A service whose change is noted already asks for no flush. -/
theorem flushEntry_of_changed (i : IntervalType) (cs : ContinueStats × ServiceState)
    (st : BundleActivePackageStats) (hc : cs.2.statsChanged = true) :
    Quiet cs.2 (flushEntry i cs st).2 := by
  have hq := quiet_updateStats i st.bundleName "" (cs.2.dailyExpiryDate.time - 1) .endOfTheDay ""
    st.uid cs.2
  simp only [flushEntry]
  rw [notifyStatsChanged, if_pos (hq.changed.trans hc)]
  exact hq

theorem flushDataInMemOf_of_changed (cs : ContinueStats × ServiceState) (i : IntervalType)
    (hc : cs.2.statsChanged = true) : Quiet cs.2 (flushDataInMemOf cs i).2 := by
  have hfold : ∀ (l : List BundleActivePackageStats) (cs : ContinueStats × ServiceState),
      cs.2.statsChanged = true → Quiet cs.2 (l.foldl (flushEntry i) cs).2 := by
    intro l
    induction l with
    | nil => exact fun cs _ => .refl _
    | cons st l ih =>
      intro cs hc
      have hq := flushEntry_of_changed i cs st hc
      exact hq.trans (ih _ (hq.changed.trans hc))
  exact (hfold _ cs hc).trans (quiet_setStats _ i _)

theorem flushDataInMem_of_changed (s : ServiceState) (hc : s.statsChanged = true) :
    s.flushDataInMem.2.handler = s.handler := by
  have hfold : ∀ (l : List IntervalType) (cs : ContinueStats × ServiceState),
      cs.2.statsChanged = true → Quiet cs.2 (l.foldl flushDataInMemOf cs).2 := by
    intro l
    induction l with
    | nil => exact fun cs _ => .refl _
    | cons i l ih =>
      intro cs hc
      have hq := flushDataInMemOf_of_changed cs i hc
      exact hq.trans (ih _ (hq.changed.trans hc))
  have hq := hfold IntervalType.all ({}, s) hc
  unfold flushDataInMem
  exact hq.handler

/-- Without an entry the flush of the memory finds nothing to note. -/
theorem flushDataInMem_of_empty (s : ServiceState)
    (h : ∀ i, (s.currentStats i).bundleStats.isEmpty = true) :
    s.flushDataInMem.2.handler = s.handler := by
  have hfold : ∀ (l : List IntervalType) (cs : ContinueStats × ServiceState),
      (∀ i, (cs.2.currentStats i).bundleStats.isEmpty = true) →
        (l.foldl flushDataInMemOf cs).2.handler = cs.2.handler := by
    intro l
    induction l with
    | nil => exact fun cs _ => rfl
    | cons i l ih =>
      intro cs h
      have hlist : (cs.2.currentStats i).bundleStats.toList = [] := by
        simpa [Std.TreeMap.isEmpty_toList] using List.isEmpty_iff.1
          ((Std.TreeMap.isEmpty_toList (t := (cs.2.currentStats i).bundleStats)).trans (h i))
      have hstep : (flushDataInMemOf cs i).2 = cs.2.setStats i
          ((cs.2.currentStats i).commitTime (cs.2.dailyExpiryDate.time - 1)) := by
        simp [flushDataInMemOf, hlist]
      rw [List.foldl_cons, ih _ fun j => ?_, hstep]
      · rfl
      · rw [hstep]
        by_cases hj : j = i
        · subst hj
          simpa [setStats, BundleActivePeriodStats.commitTime] using h j
        · simpa [setStats, hj] using h j
  have hq := hfold IntervalType.all ({}, s) h
  unfold flushDataInMem
  exact hq

/-! ### Reports -/

theorem notifies_renewIfExpired (s : ServiceState) (t : ℤ) :
    Notifies s (s.renewIfExpired tz t) := by
  unfold renewIfExpired
  split_ifs
  · exact notifies_renewStatsInMemory tz s t
  · exact .refl s

theorem Ready.renewIfExpired (h : s.Ready) (t : ℤ) : (s.renewIfExpired tz t).Ready := by
  unfold ServiceState.renewIfExpired
  split_ifs
  · exact h.of_unchanged (notifies_renewStatsInMemory tz s t) (renewStatsInMemory_spec tz s t).2.2
  · exact h

theorem quiet_addDailyEvent (s : ServiceState) (event : BundleActiveEvent) :
    Quiet s (s.addDailyEvent event) :=
  quiet_setStats s .daily _

theorem quiet_updatePeriodStatsOf (event : BundleActiveEvent) (launch : Bool) (s : ServiceState)
    (i : IntervalType) : Quiet s (updatePeriodStatsOf event launch s i) := by
  unfold updatePeriodStatsOf
  simp only
  split
  all_goals first
    | exact quiet_setStats s i _
    | skip
  split_ifs
  · exact (quiet_updateStats i _ _ _ _ _ _ s).trans (quiet_setStats _ i _)
  · exact quiet_updateStats i _ _ _ _ _ _ s

theorem quiet_updatePeriodStats_loop (event : BundleActiveEvent) (launch : Bool)
    (s : ServiceState) : Quiet s (IntervalType.all.foldl (updatePeriodStatsOf event launch) s) :=
  Quiet.foldl (quiet_updatePeriodStatsOf event launch) _ s

theorem notifies_updatePeriodStats (event : BundleActiveEvent) (launch : Bool) (s : ServiceState) :
    Notifies s (s.updatePeriodStats event launch) := by
  have hq := quiet_updatePeriodStats_loop event launch s
  unfold updatePeriodStats
  simp only
  split_ifs
  · exact hq.notifies.trans (notifies_notifyStatsChanged _)
  · exact hq.notifies

theorem Ready.updatePeriodStats (h : s.Ready) (event : BundleActiveEvent) (launch : Bool) :
    (s.updatePeriodStats event launch).Ready := by
  have hq := quiet_updatePeriodStats_loop event launch s
  unfold ServiceState.updatePeriodStats
  simp only
  split_ifs
  · exact (h.quiet hq).notifyStatsChanged
  · exact h.quiet hq

/-- What a report does before its period stats are updated. -/
theorem reportEvent_cases (s : ServiceState) (event : BundleActiveEvent) :
    ∃ s' launch, Quiet (s.renewIfExpired tz event.timeStamp) s' ∧
      s.reportEvent tz event = s'.updatePeriodStats event launch := by
  have hq : Quiet (s.renewIfExpired tz event.timeStamp)
      (if event.eventId ≠ .systemInteractive ∧ event.eventId ≠ .flush then
        (s.renewIfExpired tz event.timeStamp).addDailyEvent event
      else s.renewIfExpired tz event.timeStamp) := by
    split_ifs
    · exact quiet_addDailyEvent _ event
    · exact .refl _
  simp only [reportEvent]
  split_ifs at hq ⊢
  · refine ⟨_, true, ?_, rfl⟩
    exact hq.trans ⟨rfl, rfl, rfl⟩
  · exact ⟨_, false, hq, rfl⟩
  · refine ⟨_, true, ?_, rfl⟩
    exact hq.trans ⟨rfl, rfl, rfl⟩
  · exact ⟨_, false, hq, rfl⟩

theorem notifies_reportEvent (s : ServiceState) (event : BundleActiveEvent) :
    Notifies s (s.reportEvent tz event) := by
  obtain ⟨s', launch, hq, heq⟩ := reportEvent_cases tz s event
  rw [heq]
  exact ((notifies_renewIfExpired tz s _).trans hq.notifies).trans
    (notifies_updatePeriodStats event launch s')

theorem Ready.reportEvent (h : s.Ready) (event : BundleActiveEvent) :
    (s.reportEvent tz event).Ready := by
  obtain ⟨s', launch, hq, heq⟩ := reportEvent_cases tz s event
  rw [heq]
  exact ((h.renewIfExpired tz _).quiet hq).updatePeriodStats event launch

/-- A flush event never sets the change flag. -/
theorem reportEvent_flush_statsChanged (s : ServiceState) (event : BundleActiveEvent)
    (he : event.eventId = .flush) (hc : (s.reportEvent tz event).statsChanged = true) :
    s.statsChanged = true := by
  obtain ⟨s', launch, hq, heq⟩ := reportEvent_cases tz s event
  rw [heq, updatePeriodStats, if_neg (by simpa using he),
    (quiet_updatePeriodStats_loop event launch s').changed, hq.changed] at hc
  unfold renewIfExpired at hc
  split_ifs at hc
  · rw [(renewStatsInMemory_spec tz s _).2.2] at hc
    cases hc
  · exact hc

/-- A flush event takes the slot only where it finds entries to roll over and no change noted. -/
theorem reportEvent_flush_handler (s : ServiceState) (event : BundleActiveEvent)
    (he : event.eventId = .flush)
    (h : event.timeStamp < s.dailyExpiryDate.time ∨ s.statsChanged = true ∨
      ∀ i, (s.currentStats i).bundleStats.isEmpty = true) :
    (s.reportEvent tz event).handler = s.handler := by
  obtain ⟨s', launch, hq, heq⟩ := reportEvent_cases tz s event
  rw [heq, updatePeriodStats, if_neg (by simpa using he),
    (quiet_updatePeriodStats_loop event launch s').handler, hq.handler]
  unfold renewIfExpired
  split_ifs with hexp
  · rw [(renewStatsInMemory_spec tz s _).2.1]
    rcases h with hlt | hc | hempty
    · exact absurd hexp (not_le.2 hlt)
    · exact flushDataInMem_of_changed s hc
    · exact flushDataInMem_of_empty s hempty
  · rfl

theorem reportModuleEvent_cases (s : ServiceState) (event : BundleActiveEvent) :
    s.reportModuleEvent event = s ∨
      ∃ s', Quiet s s' ∧ s.reportModuleEvent event = s'.notifyStatsChanged := by
  unfold reportModuleEvent
  split_ifs
  · exact .inl rfl
  · refine .inr ⟨_, ?_, rfl⟩
    exact ⟨rfl, rfl, rfl⟩

theorem notifies_reportModuleEvent (s : ServiceState) (event : BundleActiveEvent) :
    Notifies s (s.reportModuleEvent event) := by
  rcases reportModuleEvent_cases s event with heq | ⟨s', hq, heq⟩ <;> rw [heq]
  · exact .refl s
  · exact hq.notifies.trans (notifies_notifyStatsChanged s')

theorem Ready.reportModuleEvent (h : s.Ready) (event : BundleActiveEvent) :
    (s.reportModuleEvent event).Ready := by
  rcases reportModuleEvent_cases s event with heq | ⟨s', hq, heq⟩ <;> rw [heq]
  · exact h
  · exact (h.quiet hq).notifyStatsChanged

theorem reportFormEvent_cases (s : ServiceState) (event : BundleActiveEvent) :
    Quiet s (s.reportFormEvent event) ∨
      event.eventId = .formIsClicked ∧
        ∃ s', Quiet s s' ∧ s.reportFormEvent event = s'.notifyStatsChanged := by
  unfold reportFormEvent
  simp only
  split
  · refine .inr ⟨by assumption, _, ?_, rfl⟩
    exact ⟨rfl, rfl, rfl⟩
  · exact .inl ⟨rfl, rfl, rfl⟩
  · exact .inl ⟨rfl, rfl, rfl⟩

/-! ### The other operations -/

theorem quiet_loadModuleAndFormStats (s : ServiceState) : Quiet s s.loadModuleAndFormStats :=
  ⟨rfl, rfl, rfl⟩

theorem init_spec (p : ProcessState) (u : ℤ) (debug : Bool) (t : ℤ) :
    (init tz p u debug t).userId = u ∧ (init tz p u debug t).handler = p.handler ∧
      (init tz p u debug t).statsChanged = false := by
  have hopen : (openDatabase p u debug t).userId = u ∧
      (openDatabase p u debug t).handler = p.handler := ⟨rfl, rfl⟩
  obtain ⟨hu, hh, hc⟩ := loadActiveStats_spec tz (openDatabase p u debug t) t true false
  have hq := (quiet_loadModuleAndFormStats ((openDatabase p u debug t).loadActiveStats tz t true
    false)).trans (quiet_addDailyEvent _
      { eventId := .startup, timeStamp := t - oneSecondMilliseconds
        bundleName := deviceEventPackageName })
  exact ⟨hq.userId.trans (hu.trans hopen.1), hq.handler.trans (hh.trans hopen.2),
    hq.changed.trans hc⟩

theorem quiet_deleteUninstalledBundleStats (s : ServiceState) (b : String) (uid appIndex : ℤ) :
    Quiet s (s.deleteUninstalledBundleStats b uid appIndex) := by
  unfold deleteUninstalledBundleStats
  have hq := Quiet.foldl (fun (s : ServiceState) (i : IntervalType) => quiet_setStats s i
    (s.deleteMemEvent b uid appIndex (s.deleteMemUsageStats b uid appIndex (s.currentStats i))))
    IntervalType.all s
  exact ⟨hq.userId, hq.handler, hq.changed⟩

end ServiceState
end DeviceUsageStats
