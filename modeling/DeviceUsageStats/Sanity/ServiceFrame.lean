import DeviceUsageStats.Sanity.Caches
import DeviceUsageStats.Spec.ServiceQuery

/-! What the operations of a service leave alone. The steps on the statistics in memory touch neither
the database nor the bounds of the periods, except that the end of a period moves forward; `MemoryOnly`
says so and composes along every loop. Every state of a run is `Tidy`. -/

namespace DeviceUsageStats

namespace BundleActivePeriodStats

variable {p : BundleActivePeriodStats}

theorem extendEndTime_spec (p : BundleActivePeriodStats) (t : ℤ) :
    (p.extendEndTime t).beginTime = p.beginTime ∧ (p.extendEndTime t).userId = p.userId ∧
      p.endTime ≤ (p.extendEndTime t).endTime := by
  unfold extendEndTime
  split_ifs with h
  · exact ⟨rfl, rfl, h.le⟩
  · exact ⟨rfl, rfl, le_rfl⟩

theorem update_bounds (p : BundleActivePeriodStats) (uids : PackageContainUidMap) (b n : String)
    (t : ℤ) (e : EventId) (a : String) (uid : ℤ) :
    (p.update uids b n t e a uid).1.beginTime = p.beginTime ∧
      (p.update uids b n t e a uid).1.userId = p.userId ∧
      p.endTime ≤ (p.update uids b n t e a uid).1.endTime := by
  unfold update
  split_ifs
  · obtain ⟨h₁, h₂, h₃⟩ := extendEndTime_spec { p with
      bundleStats := Entries.mapEntries
        (fun _ usageStats => usageStats.update "" t e a) p.bundleStats } t
    exact ⟨h₁, h₂, h₃⟩
  · obtain ⟨h₁, h₂, h₃⟩ := extendEndTime_spec { p with
      bundleStats := p.bundleStats.insert (getBundleUsageKey b uid)
        ((p.getOrCreateUsageStats uids b uid).1.update n t e a) } t
    exact ⟨h₁, h₂, h₃⟩
  · exact extendEndTime_spec p t

end BundleActivePeriodStats

namespace ServiceState

variable {s s' s'' : ServiceState}

structure MemoryOnly (s s' : ServiceState) : Prop where
  database : s'.database = s.database
  files : s'.files = s.files
  userId : s'.userId = s.userId
  debug : s'.debugUserService = s.debugUserService
  expiry : s'.dailyExpiryDate = s.dailyExpiryDate
  begins : ∀ i, (s'.currentStats i).beginTime = (s.currentStats i).beginTime
  users : ∀ i, (s'.currentStats i).userId = (s.currentStats i).userId
  ends : ∀ i, (s.currentStats i).endTime ≤ (s'.currentStats i).endTime

theorem MemoryOnly.refl (s : ServiceState) : MemoryOnly s s :=
  ⟨rfl, rfl, rfl, rfl, rfl, fun _ => rfl, fun _ => rfl, fun _ => le_rfl⟩

theorem MemoryOnly.trans (h : MemoryOnly s s') (h' : MemoryOnly s' s'') : MemoryOnly s s'' where
  database := h'.database.trans h.database
  files := h'.files.trans h.files
  userId := h'.userId.trans h.userId
  debug := h'.debug.trans h.debug
  expiry := h'.expiry.trans h.expiry
  begins i := (h'.begins i).trans (h.begins i)
  users i := (h'.users i).trans (h.users i)
  ends i := (h.ends i).trans (h'.ends i)

theorem MemoryOnly.databaseState (h : MemoryOnly s s') : s'.databaseState = s.databaseState := by
  unfold ServiceState.databaseState
  rw [h.database, h.files]

theorem memoryOnly_setStats (s : ServiceState) (i : IntervalType) (p : BundleActivePeriodStats)
    (hb : p.beginTime = (s.currentStats i).beginTime) (hu : p.userId = (s.currentStats i).userId)
    (he : (s.currentStats i).endTime ≤ p.endTime) : MemoryOnly s (s.setStats i p) := by
  refine ⟨rfl, rfl, rfl, rfl, rfl, fun j => ?_, fun j => ?_, fun j => ?_⟩
  all_goals
    by_cases hj : j = i
    · subst hj
      simpa [setStats]
    · simp [setStats, hj]

theorem memoryOnly_updateStats (i : IntervalType) (b n : String) (t : ℤ) (e : EventId) (a : String)
    (uid : ℤ) (s : ServiceState) : MemoryOnly s (updateStats i b n t e a uid s) := by
  obtain ⟨hb, hu, he⟩ := (s.currentStats i).update_bounds s.packageContainUidMap b n t e a uid
  have h := memoryOnly_setStats s i _ hb hu he
  exact ⟨h.database, h.files, h.userId, h.debug, h.expiry, h.begins, h.users, h.ends⟩

theorem memoryOnly_notifyStatsChanged (s : ServiceState) : MemoryOnly s s.notifyStatsChanged := by
  unfold notifyStatsChanged
  split_ifs
  · exact .refl s
  · refine ⟨rfl, ?_, rfl, rfl, rfl, fun _ => rfl, fun _ => rfl, fun _ => le_rfl⟩
    change (onStatsChanged s.toProcessState s.userId).files = s.files
    unfold onStatsChanged
    split_ifs <;> rfl

theorem currentStats_loadModuleAndFormStats (s : ServiceState) :
    s.loadModuleAndFormStats.currentStats = s.currentStats :=
  rfl

theorem memoryOnly_loadModuleAndFormStats (s : ServiceState) :
    MemoryOnly s s.loadModuleAndFormStats :=
  ⟨rfl, rfl, rfl, rfl, rfl, fun _ => rfl, fun _ => rfl, fun _ => le_rfl⟩

/-! ### What every step in memory keeps -/

/-- A property that every step on the statistics in memory keeps; the loops over such steps, and the
reports of events but for their rollover, keep it too. -/
structure KeptByStats (P : ServiceState → Prop) : Prop where
  updateStats : ∀ {s} i b n t e a uid, P s → P (updateStats i b n t e a uid s)
  incrementLaunch : ∀ {s} i key, P s → P (s.setStats i
    { s.currentStats i with
      bundleStats := (s.currentStats i).bundleStats.modify key (·.incrementBundleLaunchedCount) })
  frame : ∀ {s} i p, P s → p.userId = (s.currentStats i).userId →
    p.beginTime = (s.currentStats i).beginTime → p.bundleStats = (s.currentStats i).bundleStats →
    (s.currentStats i).endTime ≤ p.endTime → P (s.setStats i p)
  notifyStatsChanged : ∀ {s}, P s → P s.notifyStatsChanged
  lastForeground : ∀ {s} lastForegroundBundle, P s →
    P { s with lastForegroundBundle := lastForegroundBundle }

/-- The module records do not matter either. -/
structure KeptInMemory (P : ServiceState → Prop) : Prop extends KeptByStats P where
  records : ∀ {s} moduleRecords, P s → P { s with moduleRecords := moduleRecords }

theorem KeptInMemory.of_memoryOnly {P : ServiceState → Prop}
    (h : ∀ {s s'}, P s → MemoryOnly s s' → P s') : KeptInMemory P where
  updateStats i b n t e a uid hs := h hs (memoryOnly_updateStats i b n t e a uid _)
  incrementLaunch i _ hs := h hs (memoryOnly_setStats _ i _ rfl rfl le_rfl)
  frame i p hs hu hb _ he := h hs (memoryOnly_setStats _ i p hb hu he)
  notifyStatsChanged hs := h hs (memoryOnly_notifyStatsChanged _)
  lastForeground _ hs := h hs ⟨rfl, rfl, rfl, rfl, rfl, fun _ => rfl, fun _ => rfl, fun _ => le_rfl⟩
  records _ hs := h hs ⟨rfl, rfl, rfl, rfl, rfl, fun _ => rfl, fun _ => rfl, fun _ => le_rfl⟩

theorem keptInMemory_memoryOnly (s₀ : ServiceState) : KeptInMemory (MemoryOnly s₀) :=
  .of_memoryOnly MemoryOnly.trans

namespace KeptByStats

variable {P : ServiceState → Prop} (kept : KeptByStats P)
include kept

theorem flushDataInMemOf {cs : ContinueStats × ServiceState} (i : IntervalType) (h : P cs.2) :
    P (flushDataInMemOf cs i).2 := by
  have hentries : P (((cs.2.currentStats i).bundleStats.toList.map Prod.snd).foldl (flushEntry i)
      cs).2 :=
    List.foldlRecOn _ (flushEntry i) (motive := fun cs => P cs.2) h fun _ h _ _ =>
      kept.notifyStatsChanged (kept.updateStats i _ _ _ _ _ _ h)
  exact kept.frame i _ hentries rfl rfl rfl le_rfl

theorem flushDataInMem (h : P s) : P s.flushDataInMem.2 :=
  List.foldlRecOn IntervalType.all ServiceState.flushDataInMemOf (motive := fun cs => P cs.2)
    (b := ({}, s)) h fun _ h i _ => kept.flushDataInMemOf i h

theorem continueAbilitiesOfUids (i : IntervalType) (t : ℤ) (c : ContinueStats) (b : String)
    (uids : List ℤ) (h : P s) : P (continueAbilitiesOfUids i t c b uids s) := by
  induction uids generalizing s with
  | nil => exact h
  | cons uid uids ih =>
    unfold ServiceState.continueAbilitiesOfUids
    split
    · exact h
    · refine ih (List.foldlRecOn _ _ h fun s h ability _ => ?_)
      split_ifs
      · exact h
      · exact kept.updateStats i b "" t _ _ uid h

theorem continueServicesOfUids (i : IntervalType) (t : ℤ) (c : ContinueStats) (b : String)
    (uids : List ℤ) (h : P s) : P (continueServicesOfUids i t c b uids s) := by
  induction uids generalizing s with
  | nil => exact h
  | cons uid uids ih =>
    unfold ServiceState.continueServicesOfUids
    split
    · exact h
    · exact ih (List.foldlRecOn _ _ h fun s h service _ =>
        kept.updateStats i b service.1 t _ "" uid h)

theorem continueBundle (c : ContinueStats) (b : String) (h : P s) : P (continueBundle c s b) := by
  refine List.foldlRecOn _ _ h fun s h i _ => ?_
  exact kept.continueServicesOfUids i _ c b _ (kept.continueAbilitiesOfUids i _ c b _ h)

theorem addDailyEvent (event : BundleActiveEvent) (h : P s) : P (s.addDailyEvent event) := by
  obtain ⟨hb, hu, he⟩ := BundleActivePeriodStats.extendEndTime_spec
    { s.currentStats .daily with events := (s.currentStats .daily).events.insert event }
    event.timeStamp
  refine kept.frame .daily _ h hu hb ?_ he
  unfold BundleActivePeriodStats.addEvent BundleActivePeriodStats.extendEndTime
  split_ifs <;> rfl

theorem updatePeriodStatsOf (event : BundleActiveEvent) (launch : Bool) (i : IntervalType)
    (h : P s) : P (updatePeriodStatsOf event launch s i) := by
  unfold ServiceState.updatePeriodStatsOf
  simp only
  split
  all_goals first
    | exact kept.frame i _ h rfl rfl rfl le_rfl
    | skip
  split_ifs
  · exact kept.incrementLaunch i _ (kept.updateStats i _ _ _ _ _ _ h)
  · exact kept.updateStats i _ _ _ _ _ _ h

theorem updatePeriodStats (event : BundleActiveEvent) (launch : Bool) (h : P s) :
    P (s.updatePeriodStats event launch) := by
  have hloop : P (IntervalType.all.foldl (ServiceState.updatePeriodStatsOf event launch) s) :=
    List.foldlRecOn _ _ h fun s h i _ => kept.updatePeriodStatsOf event launch i h
  unfold ServiceState.updatePeriodStats
  simp only
  split_ifs
  · exact kept.notifyStatsChanged hloop
  · exact hloop

/-- A report is a rollover, if the day is over, and steps in memory. -/
theorem reportEvent (tz : TimeZone) (event : BundleActiveEvent)
    (h : P (s.renewIfExpired tz event.timeStamp)) : P (s.reportEvent tz event) := by
  have h' : P (if event.eventId ≠ .systemInteractive ∧ event.eventId ≠ .flush then
        (s.renewIfExpired tz event.timeStamp).addDailyEvent event
      else s.renewIfExpired tz event.timeStamp) := by
    split_ifs
    · exact kept.addDailyEvent event h
    · exact h
  simp only [ServiceState.reportEvent]
  set s' := if event.eventId ≠ .systemInteractive ∧ event.eventId ≠ .flush then
    (s.renewIfExpired tz event.timeStamp).addDailyEvent event
    else s.renewIfExpired tz event.timeStamp
  split_ifs
  · exact kept.updatePeriodStats event true (kept.lastForeground event.bundleName h')
  · exact kept.updatePeriodStats event false h'

/-- A rollover is steps in memory around a save and a load. -/
theorem renewStatsInMemory (tz : TimeZone) (restore : ∀ s forced, P s → P (s.restoreStats forced))
    {t : ℤ} (reload : ∀ s, P s → P (s.saveAndReload tz t)) (h : P s) :
    P (s.renewStatsInMemory tz t) :=
  restore _ _ (List.foldlRecOn _ _ (reload _ (kept.flushDataInMem h)) fun _ h b _ =>
    kept.continueBundle _ b h)

theorem renewIfExpired (tz : TimeZone) (restore : ∀ s forced, P s → P (s.restoreStats forced))
    {t : ℤ} (reload : ∀ s, P s → P (s.saveAndReload tz t)) (h : P s) :
    P (s.renewIfExpired tz t) := by
  unfold ServiceState.renewIfExpired
  split_ifs
  · exact kept.renewStatsInMemory tz restore reload h
  · exact h

theorem reportForShutdown (tz : TimeZone) (restore : ∀ s forced, P s → P (s.restoreStats forced))
    (event : BundleActiveEvent) (reload : ∀ s, P s → P (s.saveAndReload tz event.timeStamp))
    (h : P s) : P (s.reportForShutdown tz event) := by
  unfold ServiceState.reportForShutdown
  split_ifs
  · exact h
  · refine kept.notifyStatsChanged (List.foldlRecOn _ _ ?_ fun s h i _ =>
      kept.updateStats i _ _ _ _ _ _ h)
    exact kept.renewIfExpired tz restore reload (kept.addDailyEvent event h)

end KeptByStats

namespace KeptInMemory

variable {P : ServiceState → Prop} (kept : KeptInMemory P)
include kept

theorem setModuleRecord (event : BundleActiveEvent) (r : BundleActiveModuleRecord) (h : P s) :
    P (s.setModuleRecord event r) :=
  kept.records _ h

theorem reportModuleEvent (event : BundleActiveEvent) (h : P s) :
    P (s.reportModuleEvent event) := by
  unfold ServiceState.reportModuleEvent
  split_ifs
  · exact h
  · exact kept.notifyStatsChanged (kept.setModuleRecord event _ h)

theorem reportFormEvent (event : BundleActiveEvent) (h : P s) : P (s.reportFormEvent event) := by
  unfold ServiceState.reportFormEvent
  simp only
  split
  · exact kept.notifyStatsChanged (kept.setModuleRecord event _ h)
  · exact kept.setModuleRecord event _ h
  · exact kept.setModuleRecord event _ h

end KeptInMemory

end ServiceState
end DeviceUsageStats
