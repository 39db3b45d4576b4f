import DeviceUsageStats.Sanity.PackageStats
import DeviceUsageStats.Sanity.SaveAndLoad

/-! What the operations keep of every entry of the period statistics holds in every state of a run:
each entry is stored under the key of its own bundle, and the periods belong to the user of the service.
The entry of a bundle only grows. -/

namespace DeviceUsageStats

namespace BundleActivePackageStats

variable {s s' s'' : BundleActivePackageStats}

/-- A later state of the counters of one bundle. -/
structure Grows (s s' : BundleActivePackageStats) : Prop where
  bundleName : s'.bundleName = s.bundleName
  uid : s'.uid = s.uid
  front : s.totalInFrontTime ≤ s'.totalInFrontTime
  task : s.totalContiniousTaskUsedTime ≤ s'.totalContiniousTaskUsedTime

theorem Grows.refl (s : BundleActivePackageStats) : Grows s s := ⟨rfl, rfl, le_rfl, le_rfl⟩

theorem Grows.trans (h : Grows s s') (h' : Grows s' s'') : Grows s s'' :=
  ⟨h'.bundleName.trans h.bundleName, h'.uid.trans h.uid, h.front.trans h'.front,
    h.task.trans h'.task⟩

theorem grows_incrementTimeUsed (s : BundleActivePackageStats) (t : ℤ) :
    Grows s (s.incrementTimeUsed t) := by
  unfold incrementTimeUsed
  split_ifs
  · exact ⟨rfl, rfl, by simp only; omega, le_rfl⟩
  · exact .refl s

theorem grows_incrementServiceTimeUsed (s : BundleActivePackageStats) (t : ℤ) :
    Grows s (s.incrementServiceTimeUsed t) := by
  unfold incrementServiceTimeUsed
  split_ifs
  · exact ⟨rfl, rfl, le_rfl, by simp only; omega⟩
  · exact .refl s

theorem grows_tick (s : BundleActivePackageStats) (t : ℤ) : Grows s (s.tick t) := by
  have hfront : Grows s (if s.hasFrontAbility then s.incrementTimeUsed t else s) := by
    split_ifs
    · exact grows_incrementTimeUsed s t
    · exact .refl s
  unfold tick
  simp only
  split_ifs at hfront ⊢
  · exact hfront.trans (grows_incrementServiceTimeUsed _ t)
  · exact hfront
  · exact hfront.trans (grows_incrementServiceTimeUsed _ t)
  · exact hfront

theorem grows_updateAbility (s : BundleActivePackageStats) (t : ℤ) (e : EventId) (a : String) :
    Grows s (s.updateAbility t e a) := by
  have hfirst : Grows s (s.noteFirstForeground t e) := by
    unfold noteFirstForeground
    split_ifs <;> exact ⟨rfl, rfl, le_rfl, le_rfl⟩
  have hbook : ∀ s : BundleActivePackageStats, Grows s (s.bookLastAbilityEvent t e a) := by
    intro s
    unfold bookLastAbilityEvent
    split
    · exact grows_incrementTimeUsed s t
    · split_ifs <;> exact ⟨rfl, rfl, le_rfl, le_rfl⟩
    · exact .refl s
  have hrecord : ∀ s : BundleActivePackageStats, Grows s (s.recordAbilityEvent t e a) := by
    intro s
    unfold recordAbilityEvent
    split <;> exact ⟨rfl, rfl, le_rfl, le_rfl⟩
  unfold updateAbility
  split_ifs
  · exact (hfirst.trans (hbook _)).trans (hrecord _)
  · exact .refl s

theorem grows_updateLongTimeTask (s : BundleActivePackageStats) (n : String) (t : ℤ)
    (e : EventId) : Grows s (s.updateLongTimeTask n t e) := by
  have hbook : Grows s (s.bookLastTaskEvent n t) := by
    unfold bookLastTaskEvent
    split
    · exact grows_incrementServiceTimeUsed s t
    · exact .refl s
  have hrecord : ∀ s : BundleActivePackageStats, Grows s (s.recordTaskEvent n t e) := by
    intro s
    unfold recordTaskEvent
    split <;> exact ⟨rfl, rfl, le_rfl, le_rfl⟩
  unfold updateLongTimeTask
  split_ifs
  · exact hbook.trans (hrecord _)
  · exact .refl s

theorem grows_update (s : BundleActivePackageStats) (n : String) (t : ℤ) (e : EventId)
    (a : String) : Grows s (s.update n t e a) := by
  have hend : ∀ s : BundleActivePackageStats, Grows s { s with endTimeStamp := t } :=
    fun _ => ⟨rfl, rfl, le_rfl, le_rfl⟩
  obtain ⟨-, h⟩ | ⟨-, h⟩ | ⟨-, h⟩ | ⟨-, -, -, h⟩ := update_cases s n t e a
  · exact h ▸ (grows_updateAbility s t e a).trans (hend _)
  · exact h ▸ (grows_updateLongTimeTask s n t e).trans (hend _)
  · exact h ▸ (grows_tick s t).trans (hend _)
  · exact h ▸ hend s

end BundleActivePackageStats

/-! ### Entries -/

/-- A property of the entries of a period and their keys. -/
def EntriesHold (Q : String → BundleActivePackageStats → Prop)
    (m : Std.TreeMap String BundleActivePackageStats) : Prop :=
  ∀ k e, m[k]? = some e → Q k e

namespace EntriesHold

variable {Q : String → BundleActivePackageStats → Prop}
  {m : Std.TreeMap String BundleActivePackageStats}

theorem empty : EntriesHold Q {} := fun k e h => by simp at h

theorem insert (hm : EntriesHold Q m) {k : String} {e : BundleActivePackageStats} (he : Q k e) :
    EntriesHold Q (m.insert k e) := by
  intro k' v h
  rw [Std.TreeMap.getElem?_insert] at h
  split_ifs at h with hk
  · cases h
    exact Std.LawfulEqCmp.eq_of_compare hk ▸ he
  · exact hm k' v h

theorem erase (hm : EntriesHold Q m) (k : String) : EntriesHold Q (m.erase k) := by
  intro k' v h
  rw [Std.TreeMap.getElem?_erase] at h
  split_ifs at h
  exact hm k' v h

theorem foldl_erase {α : Type} (key : α → String) (l : List α) (hm : EntriesHold Q m) :
    EntriesHold Q (l.foldl (fun m x => m.erase (key x)) m) :=
  List.foldlRecOn l _ hm fun _ h x _ => h.erase (key x)

theorem mapEntries {f : String → BundleActivePackageStats → BundleActivePackageStats}
    (hf : ∀ k e, Q k e → Q k (f k e)) (hm : EntriesHold Q m) :
    EntriesHold Q (Entries.mapEntries f m) := by
  intro k e he
  rw [Entries.getElem?_mapEntries] at he
  obtain ⟨e₀, hk, rfl⟩ := Option.map_eq_some_iff.1 he
  exact hf k e₀ (hm k e₀ hk)

theorem modify (hm : EntriesHold Q m) (k : String)
    {f : BundleActivePackageStats → BundleActivePackageStats} (hf : ∀ e, Q k e → Q k (f e)) :
    EntriesHold Q (m.modify k f) := by
  intro k' e he
  rw [Std.TreeMap.getElem?_modify] at he
  split_ifs at he with hk
  · obtain ⟨e₀, he₀, rfl⟩ := Option.map_eq_some_iff.1 he
    exact Std.LawfulEqCmp.eq_of_compare hk ▸ hf e₀ (hm k e₀ he₀)
  · exact hm k' e he

end EntriesHold

/-- What the creation, the updates and the load of an entry keep of it. -/
structure EntryKept (Q : String → BundleActivePackageStats → Prop) : Prop where
  created : ∀ b uid t, Q (getBundleUsageKey b uid) { endTimeStamp := t, bundleName := b, uid := uid }
  update : ∀ {k e} n t ev a, Q k e → Q k (e.update n t ev a)
  launch : ∀ {k e}, Q k e → Q k e.incrementBundleLaunchedCount
  userId : ∀ {k e} u, Q k e → Q k { e with userId := u }
  loaded : ∀ t (row : PackageLogRow),
    Q (getBundleUsageKey row.bundleName row.uid) (DatabaseState.loadedStats t row)

theorem getElem?_loadedBundleStats (t : ℤ) (rows : List PackageLogRow) (k : String) :
    (DatabaseState.loadedBundleStats t rows)[k]? =
      (rows.find? fun row => getBundleUsageKey row.bundleName row.uid = k).map
        (DatabaseState.loadedStats t) := by
  unfold DatabaseState.loadedBundleStats
  rw [Entries.getElem?_foldl_insertIfNew fun row : PackageLogRow =>
    getBundleUsageKey row.bundleName row.uid]
  simp

theorem EntriesHold.loadedBundleStats {Q : String → BundleActivePackageStats → Prop}
    (loaded : ∀ t (row : PackageLogRow),
      Q (getBundleUsageKey row.bundleName row.uid) (DatabaseState.loadedStats t row))
    (t : ℤ) (rows : List PackageLogRow) :
    EntriesHold Q (DatabaseState.loadedBundleStats t rows) := by
  intro k e he
  rw [getElem?_loadedBundleStats] at he
  obtain ⟨row, hrow, rfl⟩ := Option.map_eq_some_iff.1 he
  have hkey := List.find?_some hrow
  exact of_decide_eq_true hkey ▸ loaded t row

namespace EntryKept

variable {Q : String → BundleActivePackageStats → Prop} (kept : EntryKept Q)
include kept

theorem period_update {p : BundleActivePeriodStats} (hp : EntriesHold Q p.bundleStats)
    (uids : PackageContainUidMap) (b n : String) (t : ℤ) (ev : EventId) (a : String) (uid : ℤ) :
    EntriesHold Q (p.update uids b n t ev a uid).1.bundleStats := by
  have hend : ∀ p : BundleActivePeriodStats, (p.extendEndTime t).bundleStats = p.bundleStats := by
    intro p
    unfold BundleActivePeriodStats.extendEndTime
    split_ifs <;> rfl
  have hown : Q (getBundleUsageKey b uid) (p.getOrCreateUsageStats uids b uid).1 := by
    unfold BundleActivePeriodStats.getOrCreateUsageStats
    split
    · exact hp _ _ ‹_›
    · exact kept.created b uid _
  unfold BundleActivePeriodStats.update
  split_ifs
  · rw [hend]
    exact hp.mapEntries fun _ _ => kept.update "" t ev a
  · simp only
    rw [hend]
    exact hp.insert (kept.update n t ev a hown)
  · rw [hend]
    exact hp

end EntryKept

namespace ServiceState

variable {s : ServiceState}

theorem bundleStats_addDailyEvent (s : ServiceState) (event : BundleActiveEvent)
    (i : IntervalType) :
    ((s.addDailyEvent event).currentStats i).bundleStats = (s.currentStats i).bundleStats := by
  by_cases hi : i = .daily
  · subst hi
    simp only [addDailyEvent, setStats, Function.update_self, BundleActivePeriodStats.addEvent,
      BundleActivePeriodStats.extendEndTime]
    split_ifs <;> rfl
  · simp only [addDailyEvent, setStats, Function.update_of_ne hi]

/-- The four periods belong to the user of the service, and every entry of them has a property. -/
structure Holds (Q : String → BundleActivePackageStats → Prop) (s : ServiceState) : Prop where
  entries : ∀ i, EntriesHold Q (s.currentStats i).bundleStats
  users : ∀ i, (s.currentStats i).userId = s.userId

theorem Holds.setStats {Q : String → BundleActivePackageStats → Prop} (h : s.Holds Q)
    {i : IntervalType} {p : BundleActivePeriodStats} (hp : EntriesHold Q p.bundleStats)
    (hu : p.userId = (s.currentStats i).userId) : (s.setStats i p).Holds Q := by
  constructor <;> intro j <;> by_cases hj : j = i
  · subst hj
    simpa [ServiceState.setStats]
  · simpa [ServiceState.setStats, hj] using h.entries j
  · subst hj
    simpa [ServiceState.setStats, hu] using h.users j
  · simpa [ServiceState.setStats, hj] using h.users j

theorem Holds.restoreStats {Q : String → BundleActivePackageStats → Prop} (h : s.Holds Q)
    (forced : Bool) : (s.restoreStats forced).Holds Q := by
  constructor <;> intro i <;> obtain ⟨events, hstats⟩ := currentStats_restoreStats s forced i <;>
    rw [hstats]
  · exact h.entries i
  · exact (h.users i).trans (restoreStats_user s forced).1.symm

theorem Holds.loadModuleAndFormStats {Q : String → BundleActivePackageStats → Prop}
    (h : s.Holds Q) : s.loadModuleAndFormStats.Holds Q :=
  ⟨h.entries, h.users⟩

theorem Holds.deleteUninstalledBundleStats {Q : String → BundleActivePackageStats → Prop}
    (h : s.Holds Q) (b : String) (uid appIndex : ℤ) :
    (s.deleteUninstalledBundleStats b uid appIndex).Holds Q := by
  have hloop : (IntervalType.all.foldl (fun s i => s.setStats i
      (s.deleteMemEvent b uid appIndex
        (s.deleteMemUsageStats b uid appIndex (s.currentStats i)))) s).Holds Q := by
    refine List.foldlRecOn _ _ h fun s' h i _ => ?_
    unfold deleteMemEvent deleteMemUsageStats
    split_ifs
    · exact h.setStats ((h.entries i).erase _) rfl
    · exact h.setStats ((h.entries i).foldl_erase _ _) rfl
  exact ⟨hloop.entries, hloop.users⟩

end ServiceState

theorem entriesHold_loadedPeriod (tz : TimeZone) {Q : String → BundleActivePackageStats → Prop}
    (loaded : ∀ t (row : PackageLogRow),
      Q (getBundleUsageKey row.bundleName row.uid) (DatabaseState.loadedStats t row))
    (t : ℤ) (s : ServiceState) (i : IntervalType) :
    EntriesHold Q (ServiceState.loadedPeriod tz t s i).bundleStats ∧
      (ServiceState.loadedPeriod tz t s i).userId = s.userId := by
  unfold ServiceState.loadedPeriod DatabaseState.getCurrentUsageData
  split
  · rename_i stats hstats
    obtain ⟨hsome, -⟩ := Option.filter_eq_some_iff.1 hstats
    split at hsome <;> cases hsome
    exact ⟨.loadedBundleStats loaded _ _, rfl⟩
  · exact ⟨.empty, rfl⟩

namespace EntryKept

open ServiceState

variable (tz : TimeZone) {s : ServiceState} {Q : String → BundleActivePackageStats → Prop}
  (kept : EntryKept Q)
include kept

theorem keptInMemory : KeptInMemory (Holds Q) where
  updateStats {s} i b n t ev a uid h := by
    have hp := kept.period_update (h.entries i) s.packageContainUidMap b n t ev a uid
    have hu := (s.currentStats i).update_bounds s.packageContainUidMap b n t ev a uid
    have hset := h.setStats hp hu.2.1
    exact ⟨hset.entries, hset.users⟩
  incrementLaunch i key h := h.setStats ((h.entries i).modify key fun _ => kept.launch) rfl
  frame i p h hu _ hb _ := h.setStats (hb ▸ h.entries i) hu
  notifyStatsChanged {s} h := by
    unfold notifyStatsChanged
    split_ifs
    · exact h
    · exact ⟨h.entries, h.users⟩
  lastForeground _ h := ⟨h.entries, h.users⟩
  records _ h := ⟨h.entries, h.users⟩

theorem loadActiveStats {t : ℤ} {force : Bool} (timeChanged : Bool)
    (h : force = true ∨ s.Holds Q) : (s.loadActiveStats tz t force timeChanged).Holds Q := by
  have huser := (loadActiveStats_source tz s t force timeChanged).2.1
  have hkeeps : ∀ i, Keeps tz t force s i → s.Holds Q := fun i hk =>
    h.resolve_left fun hf => by rw [hk.1] at hf; cases hf
  constructor <;> intro i <;> rw [currentStats_loadActiveStats] <;> split_ifs with hk
  · exact (hkeeps i hk).entries i
  · exact (entriesHold_loadedPeriod tz kept.loaded t s i).1
  · exact ((hkeeps i hk).users i).trans huser.symm
  · exact (entriesHold_loadedPeriod tz kept.loaded t s i).2.trans huser.symm

theorem saveAndReload (h : s.Holds Q) (t : ℤ) : (s.saveAndReload tz t).Holds Q := by
  have hsaved := h.restoreStats true
  exact kept.loadActiveStats tz false (.inr ⟨hsaved.entries, hsaved.users⟩)

theorem handleTimeChange (s : ServiceState) (t t' : ℤ) :
    (BundleActiveCore.handleTimeChange tz t t' s).Holds Q := by
  unfold BundleActiveCore.handleTimeChange
  exact (kept.loadActiveStats tz true (.inl rfl)).loadModuleAndFormStats

theorem queryBundleStatsInfos (h : s.Holds Q) (k b e userId : ℤ) (n : String) :
    (s.queryBundleStatsInfos k b e userId n).2.Holds Q := by
  unfold ServiceState.queryBundleStatsInfos
  split
  · exact h
  · simp only
    split_ifs
    all_goals first
      | exact h
      | exact h.setStats ((h.entries _).mapEntries fun _ _ => kept.userId userId) rfl

theorem init (p : ProcessState) (userId : ℤ) (debug : Bool) (t : ℤ) :
    (init tz p userId debug t).Holds Q := by
  unfold ServiceState.init
  exact kept.keptInMemory.addDailyEvent _
    (kept.loadActiveStats tz false (.inl rfl)).loadModuleAndFormStats

theorem apply (h : s.Holds Q) (op : ServiceOp) : (s.apply tz op).Holds Q := by
  have restore : ∀ s forced, Holds Q s → (s.restoreStats forced).Holds Q :=
    fun _ forced h => h.restoreStats forced
  have reload : ∀ t s, Holds Q s → (s.saveAndReload tz t).Holds Q :=
    fun t _ h => kept.saveAndReload tz h t
  cases op with
  | reportEvent event =>
    exact kept.keptInMemory.reportEvent tz event
      (kept.keptInMemory.renewIfExpired tz restore (reload _) h)
  | reportForShutdown event =>
    exact kept.keptInMemory.reportForShutdown tz restore event (reload _) h
  | reportModuleEvent event => exact kept.keptInMemory.reportModuleEvent event h
  | reportFormEvent event => exact kept.keptInMemory.reportFormEvent event h
  | restoreStats forced => exact h.restoreStats forced
  | handleTimeChange t t' => exact kept.handleTimeChange tz s t t'
  | deleteUninstalledBundleStats b uid appIndex =>
    exact h.deleteUninstalledBundleStats b uid appIndex
  | deleteExcessiveEventTableData days =>
    change (s.deleteExcessiveEventTableData days).Holds Q
    unfold deleteExcessiveEventTableData
    split_ifs
    · exact h
    · exact ⟨h.entries, h.users⟩
  | queryBundleStatsInfos k b e userId n => exact kept.queryBundleStatsInfos h k b e userId n
  | otherServices p => exact ⟨h.entries, h.users⟩

theorem holds_run {Allowed : ServiceState → ServiceOp → Prop} (run : Run tz Allowed s) :
    s.Holds Q := by
  induction run with
  | init p userId debug t _ => exact kept.init tz p userId debug t
  | step op _ _ _ ih => exact kept.apply tz ih op

end EntryKept

/-! ### Keys -/

/-- Every entry is stored under its own key. -/
def Keyed (m : Std.TreeMap String BundleActivePackageStats) : Prop :=
  ∀ k e, m[k]? = some e → getBundleUsageKey e.bundleName e.uid = k

theorem Keyed.empty : Keyed {} := EntriesHold.empty

theorem Keyed.insert {m : Std.TreeMap String BundleActivePackageStats} (hm : Keyed m) {k : String}
    {e : BundleActivePackageStats} (he : getBundleUsageKey e.bundleName e.uid = k) :
    Keyed (m.insert k e) :=
  EntriesHold.insert hm he

theorem entryKept_key : EntryKept fun k e => getBundleUsageKey e.bundleName e.uid = k where
  created _ _ _ := rfl
  update {k e} n t ev a h := by
    rw [(e.grows_update n t ev a).bundleName, (e.grows_update n t ev a).uid]
    exact h
  launch h := h
  userId _ h := h
  loaded _ _ := rfl

namespace ServiceState

variable (tz : TimeZone) {s : ServiceState}

/-- The periods of a service. -/
structure Owned (s : ServiceState) : Prop where
  keyed : ∀ i, Keyed (s.currentStats i).bundleStats
  users : ∀ i, (s.currentStats i).userId = s.userId

theorem owned_run {Allowed : ServiceState → ServiceOp → Prop} (run : Run tz Allowed s) :
    s.Owned := by
  have hrun := entryKept_key.holds_run tz run
  exact ⟨hrun.entries, hrun.users⟩

end ServiceState

end DeviceUsageStats
