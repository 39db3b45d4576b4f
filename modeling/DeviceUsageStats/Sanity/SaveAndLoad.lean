import DeviceUsageStats.Sanity.ServiceFrame

/-! What a save writes and what a load reads. A save treats the four types one by one, and each leaves
the tables of the other types alone; a load takes each type from the newest table or starts it anew. -/

namespace DeviceUsageStats
namespace ServiceState

open DatabaseState

variable {s s' : ServiceState} {i j : IntervalType}

/-! ### Saves -/

/-- The tables after the statistics of one type are saved. -/
def savedPackages (s : ServiceState) (i : IntervalType) : DatabaseState :=
  if (s.currentStats i).bundleStats.isEmpty then s.databaseState
  else s.databaseState.updateBundleUsageData i (s.currentStats i)

theorem samePackages_restoreStatsOf (s : ServiceState) (i : IntervalType) :
    SamePackages (s.savedPackages i) (s.restoreStatsOf i).databaseState := by
  change SamePackages (s.savedPackages i)
    (if i = .daily then (s.savedPackages i).updateEventData (s.currentStats i)
      else s.savedPackages i)
  split_ifs
  · exact samePackages_updateEventData _ _
  · exact .refl _

theorem sameType_restoreStatsOf (s : ServiceState) (h : j ≠ i) :
    SameType j s.databaseState (s.restoreStatsOf i).databaseState := by
  refine .trans ?_ ((samePackages_restoreStatsOf s i).sameType j)
  unfold savedPackages
  split_ifs
  · exact .refl _ _
  · exact sameType_updateBundleUsageData h _ _

theorem sameType_foldl_restoreStatsOf (l : List IntervalType) (h : j ∉ l) (s : ServiceState) :
    SameType j s.databaseState (l.foldl restoreStatsOf s).databaseState := by
  induction l generalizing s with
  | nil => exact .refl _ _
  | cons i l ih =>
    obtain ⟨hne, hnot⟩ := List.ne_and_not_mem_of_not_mem_cons h
    exact (sameType_restoreStatsOf s hne).trans (ih hnot _)

theorem currentStats_foldl_restoreStatsOf (l : List IntervalType) (s : ServiceState) :
    (l.foldl restoreStatsOf s).currentStats = s.currentStats := by
  induction l generalizing s with
  | nil => rfl
  | cons i l ih => exact ih _

theorem restoreStats_user (s : ServiceState) (forced : Bool) :
    (s.restoreStats forced).userId = s.userId ∧
      (s.restoreStats forced).debugUserService = s.debugUserService ∧
        (s.restoreStats forced).packageContainUidMap = s.packageContainUidMap := by
  have hloop : ∀ (l : List IntervalType) (s : ServiceState),
      (l.foldl restoreStatsOf s).userId = s.userId ∧
        (l.foldl restoreStatsOf s).debugUserService = s.debugUserService ∧
          (l.foldl restoreStatsOf s).packageContainUidMap = s.packageContainUidMap := by
    intro l
    induction l with
    | nil => exact fun _ => ⟨rfl, rfl, rfl⟩
    | cons i l ih => exact fun s => ih (s.restoreStatsOf i)
  unfold restoreStats
  split_ifs
  · simp only
    split_ifs <;> exact hloop _ s
  · exact ⟨rfl, rfl, rfl⟩

/-- The package tables of a type after a save: its own round of the loop left them. -/
theorem restoreStats_packages (s : ServiceState) (i : IntervalType) :
    (s.restoreStats true).databaseState.sortedTableArray i = (s.savedPackages i).sortedTableArray i ∧
      ∀ x : ℤ, ((s.restoreStats true).databaseState.packageTables i)[x]? =
        ((s.savedPackages i).packageTables i)[x]? := by
  have hloop : SamePackages (IntervalType.all.foldl restoreStatsOf s).databaseState
      (s.restoreStats true).databaseState := by
    unfold restoreStats
    rw [if_pos (.inr rfl)]
    simp only
    split_ifs
    · exact .refl _
    · exact samePackages_updateModuleData _ _ _
  have hround : ∀ l₁ l₂ : List IntervalType, IntervalType.all = l₁ ++ i :: l₂ → i ∉ l₁ → i ∉ l₂ →
      (IntervalType.all.foldl restoreStatsOf s).databaseState.sortedTableArray i =
          (s.savedPackages i).sortedTableArray i ∧
        ∀ x : ℤ, ((IntervalType.all.foldl restoreStatsOf s).databaseState.packageTables i)[x]? =
          ((s.savedPackages i).packageTables i)[x]? := by
    intro l₁ l₂ hall h₁ h₂
    rw [hall, List.foldl_append, List.foldl_cons]
    have hbefore := sameType_foldl_restoreStatsOf l₁ h₁ s
    have hstats := congrFun (currentStats_foldl_restoreStatsOf l₁ s) i
    set s₁ := l₁.foldl restoreStatsOf s
    have hafter := ((samePackages_restoreStatsOf s₁ i).sameType i).trans
      (sameType_foldl_restoreStatsOf l₂ h₂ _)
    rw [hafter.arrays, hafter.tables]
    unfold savedPackages
    rw [hstats]
    split_ifs
    · exact ⟨hbefore.arrays, fun x => by rw [hbefore.tables]⟩
    · exact updateBundleUsageData_congr hbefore _
  rw [hloop.arrays, hloop.tables]
  cases i with
  | daily => exact hround [] [.weekly, .monthly, .yearly] rfl (by decide) (by decide)
  | weekly => exact hround [.daily] [.monthly, .yearly] rfl (by decide) (by decide)
  | monthly => exact hround [.daily, .weekly] [.yearly] rfl (by decide) (by decide)
  | yearly => exact hround [.daily, .weekly, .monthly] [] rfl (by decide) (by decide)

/-- A save leaves the period statistics alone but for the events. -/
theorem currentStats_restoreStats (s : ServiceState) (forced : Bool) (i : IntervalType) :
    ∃ events, (s.restoreStats forced).currentStats i = { s.currentStats i with events := events } := by
  unfold restoreStats
  split_ifs with h
  · have hloop := currentStats_foldl_restoreStatsOf IntervalType.all s
    set s₁ := IntervalType.all.foldl restoreStatsOf s
    have hrecords : (if s₁.moduleRecords.isEmpty = true then s₁ else s₁.setDatabase
        (s₁.databaseState.updateModuleData s₁.moduleRecords
          (s₁.currentStats .daily).beginTime)).currentStats = s.currentStats := by
      split_ifs <;> exact hloop
    simp only [setStats, hrecords]
    by_cases hi : i = .daily
    · subst hi
      exact ⟨_, Function.update_self ..⟩
    · exact ⟨_, Function.update_of_ne hi ..⟩
  · exact ⟨_, rfl⟩

/-! ### Loads -/

variable (tz : TimeZone)

/-- The period that a load puts in the place of the old one. -/
def loadedPeriod (t : ℤ) (s : ServiceState) (i : IntervalType) : BundleActivePeriodStats :=
  match (s.databaseState.getCurrentUsageData s.packageContainUidMap i s.userId).1.filter
    fun stats => t > stats.beginTime ∧ t < stats.beginTime + periodLength s.debugUserService i with
  | some stats =>
    { stats with beginTime := truncate tz s.debugUserService i t, endTime := t }
  | none =>
    { userId := s.userId, beginTime := truncate tz s.debugUserService i t, endTime := t }

/-- A load that is not forced keeps a period that still runs. -/
def Keeps (t : ℤ) (force : Bool) (s : ServiceState) (i : IntervalType) : Prop :=
  force = false ∧ (s.currentStats i).beginTime = truncate tz s.debugUserService i t

instance (t : ℤ) (force : Bool) (s : ServiceState) (i : IntervalType) :
    Decidable (Keeps tz t force s i) :=
  inferInstanceAs (Decidable (_ ∧ _))

theorem loadedPeriod_bounds (t : ℤ) (s : ServiceState) (i : IntervalType) :
    (loadedPeriod tz t s i).beginTime = truncate tz s.debugUserService i t ∧
      (loadedPeriod tz t s i).endTime = t := by
  unfold loadedPeriod
  split <;> exact ⟨rfl, rfl⟩

/-- What a load of other types leaves alone. -/
structure SameSource (s s' : ServiceState) : Prop where
  packages : SamePackages s.databaseState s'.databaseState
  userId : s'.userId = s.userId
  debug : s'.debugUserService = s.debugUserService
  expiry : s'.dailyExpiryDate = s.dailyExpiryDate

theorem SameSource.trans {s'' : ServiceState} (h : SameSource s s') (h' : SameSource s' s'') :
    SameSource s s'' :=
  ⟨h.packages.trans h'.packages, h'.userId.trans h.userId, h'.debug.trans h.debug,
    h'.expiry.trans h.expiry⟩

theorem loadedPeriod_congr (h : SameSource s s') (t : ℤ) (i : IntervalType) :
    loadedPeriod tz t s' i = loadedPeriod tz t s i := by
  have hdata : (s'.databaseState.getCurrentUsageData s'.packageContainUidMap i s'.userId).1 =
      (s.databaseState.getCurrentUsageData s.packageContainUidMap i s.userId).1 := by
    unfold getCurrentUsageData
    rw [h.packages.arrays, h.packages.tables, h.userId]
    split <;> rfl
  unfold loadedPeriod
  rw [hdata, h.debug, h.userId]

theorem loadActiveStatsOf_spec (t : ℤ) (force : Bool) (s : ServiceState) (i : IntervalType) :
    SameSource s (loadActiveStatsOf tz t force s i) ∧
      (loadActiveStatsOf tz t force s i).currentStats =
        Function.update s.currentStats i
          (if Keeps tz t force s i then s.currentStats i else loadedPeriod tz t s i) := by
  have hpackages := samePackages_getCurrentUsageData s.databaseState s.packageContainUidMap i
    s.userId
  have hguard : (¬ force = true ∧ (s.currentStats i).beginTime =
      truncate tz s.debugUserService i t) ↔ Keeps tz t force s i := by simp [Keeps]
  by_cases h : Keeps tz t force s i
  · have hsame : loadActiveStatsOf tz t force s i = s := by
      unfold loadActiveStatsOf
      simp only
      rw [if_pos (hguard.2 h)]
    rw [hsame, if_pos h, Function.update_eq_self]
    exact ⟨⟨.refl _, rfl, rfl, rfl⟩, rfl⟩
  · rw [if_neg h]
    unfold loadActiveStatsOf loadedPeriod
    simp only
    rw [if_neg fun h' => h (hguard.1 h')]
    cases ((s.databaseState.getCurrentUsageData s.packageContainUidMap i s.userId).1.filter
      fun stats => t > stats.beginTime ∧
        t < stats.beginTime + periodLength s.debugUserService i) with
    | some stats => exact ⟨⟨hpackages, rfl, rfl, rfl⟩, rfl⟩
    | none => exact ⟨⟨hpackages, rfl, rfl, rfl⟩, rfl⟩

theorem foldl_loadActiveStatsOf (t : ℤ) (force : Bool) (l : List IntervalType) (hl : l.Nodup)
    (s : ServiceState) :
    SameSource s (l.foldl (loadActiveStatsOf tz t force) s) ∧
      ∀ i, (l.foldl (loadActiveStatsOf tz t force) s).currentStats i =
        if i ∈ l ∧ ¬ Keeps tz t force s i then loadedPeriod tz t s i else s.currentStats i := by
  induction l generalizing s with
  | nil => exact ⟨⟨.refl _, rfl, rfl, rfl⟩, by simp⟩
  | cons j l ih =>
    obtain ⟨hj, hl⟩ := List.nodup_cons.1 hl
    obtain ⟨hsource, hstats⟩ := loadActiveStatsOf_spec tz t force s j
    obtain ⟨hsource', hstats'⟩ := ih hl (loadActiveStatsOf tz t force s j)
    refine ⟨hsource.trans hsource', fun i => (hstats' i).trans ?_⟩
    rw [loadedPeriod_congr tz hsource]
    by_cases hi : i = j
    · subst hi
      rw [hstats, Function.update_self, if_neg fun h => hj h.1]
      simp only [List.mem_cons_self, true_and, ite_not]
    · have hsame : (loadActiveStatsOf tz t force s j).currentStats i = s.currentStats i := by
        rw [hstats, Function.update_of_ne hi]
      have hkeeps : Keeps tz t force (loadActiveStatsOf tz t force s j) i ↔ Keeps tz t force s i := by
        unfold Keeps
        rw [hsame, hsource.debug]
      simp only [hsame, hkeeps, List.mem_cons, hi, false_or]

/-- A load takes up each type that it does not keep; the tables stay. -/
theorem loadActiveStats_source (s : ServiceState) (t : ℤ) (force timeChanged : Bool) :
    SamePackages s.databaseState (s.loadActiveStats tz t force timeChanged).databaseState ∧
      (s.loadActiveStats tz t force timeChanged).userId = s.userId ∧
      (s.loadActiveStats tz t force timeChanged).debugUserService = s.debugUserService := by
  obtain ⟨hsource, -⟩ := foldl_loadActiveStatsOf tz t force IntervalType.all (by decide) s
  exact ⟨hsource.packages, hsource.userId, hsource.debug⟩

theorem currentStats_loadActiveStats (s : ServiceState) (t : ℤ) (force timeChanged : Bool)
    (i : IntervalType) :
    (s.loadActiveStats tz t force timeChanged).currentStats i =
      if Keeps tz t force s i then s.currentStats i else loadedPeriod tz t s i := by
  obtain ⟨-, hstats⟩ := foldl_loadActiveStatsOf tz t force IntervalType.all (by decide) s
  have hi : i ∈ IntervalType.all := by cases i <;> decide
  refine (hstats i).trans ?_
  simp only [hi, true_and, ite_not]

/-! ### Every state of a run -/

/-- The cached start times are strictly sorted and every period has an end. -/
structure Tidy (s : ServiceState) : Prop where
  arrays : s.databaseState.ArraysSorted
  ends : ∀ i, 0 < (s.currentStats i).endTime

theorem Tidy.memoryOnly (h : s.Tidy) (hm : MemoryOnly s s') : s'.Tidy :=
  ⟨hm.databaseState.symm ▸ h.arrays, fun i => (h.ends i).trans_le (hm.ends i)⟩

theorem arraysSorted_restoreStats (h : s.databaseState.ArraysSorted) (forced : Bool) :
    (s.restoreStats forced).databaseState.ArraysSorted := by
  by_cases hf : s.statsChanged = true ∨ forced = true
  · have hsame : s.restoreStats forced = s.restoreStats true := by
      simp only [restoreStats, hf, or_true, if_true]
    intro i
    rw [hsame, (restoreStats_packages s i).1]
    unfold savedPackages
    split_ifs
    · exact h i
    · exact h.updateBundleUsageData i _ i
  · rw [restoreStats, if_neg hf]
    exact h

theorem Tidy.restoreStats (h : s.Tidy) (forced : Bool) : (s.restoreStats forced).Tidy := by
  refine ⟨arraysSorted_restoreStats h.arrays forced, fun i => ?_⟩
  obtain ⟨events, heq⟩ := currentStats_restoreStats s forced i
  rw [heq]
  exact h.ends i

theorem Tidy.setDatabase (h : s.Tidy) {d : DatabaseState} (hd : d.ArraysSorted) :
    (s.setDatabase d).Tidy :=
  ⟨hd, h.ends⟩

theorem tidy_loadActiveStats (arrays : s.databaseState.ArraysSorted) {t : ℤ} (ht : 0 < t)
    {force : Bool} (timeChanged : Bool) (ends : force = true ∨ ∀ i, 0 < (s.currentStats i).endTime) :
    (s.loadActiveStats tz t force timeChanged).Tidy := by
  refine ⟨(loadActiveStats_source tz s t force timeChanged).1.arraysSorted arrays, fun i => ?_⟩
  rw [currentStats_loadActiveStats]
  split_ifs with hk
  · exact (ends.resolve_left fun hf => by rw [hk.1] at hf; cases hf) i
  · rw [(loadedPeriod_bounds tz t s i).2]
    exact ht

theorem keptInMemory_tidy : KeptInMemory Tidy := .of_memoryOnly Tidy.memoryOnly

theorem Tidy.saveAndReload (h : s.Tidy) {t : ℤ} (ht : 0 < t) : (s.saveAndReload tz t).Tidy := by
  have h₁ := h.restoreStats true
  have h₂ := h₁.setDatabase (h₁.arrays.removeOldData t)
  exact tidy_loadActiveStats tz h₂.arrays ht false (.inr h₂.ends)

theorem Tidy.reportEvent (h : s.Tidy) {event : BundleActiveEvent} (ht : 0 < event.timeStamp) :
    (s.reportEvent tz event).Tidy :=
  keptInMemory_tidy.reportEvent tz event <| keptInMemory_tidy.renewIfExpired tz
    (fun _ forced h => h.restoreStats forced) (fun _ h => h.saveAndReload tz ht) h

theorem Tidy.reportForShutdown (h : s.Tidy) {event : BundleActiveEvent}
    (ht : 0 < event.timeStamp) : (s.reportForShutdown tz event).Tidy :=
  keptInMemory_tidy.reportForShutdown tz (fun _ forced h => h.restoreStats forced) event
    (fun _ h => h.saveAndReload tz ht) h

theorem Tidy.handleTimeChange (h : s.Tidy) {t t' : ℤ} (ht : 0 < t) (ht' : 0 < t') :
    (BundleActiveCore.handleTimeChange tz t t' s).Tidy := by
  simp only [BundleActiveCore.handleTimeChange, ServiceState.renewTableTime]
  have hflushed : (s.reportEvent tz { eventId := .flush, timeStamp := t }).Tidy :=
    h.reportEvent tz ht
  have h₁ := hflushed.restoreStats true
  set s₁ := (s.reportEvent tz { eventId := .flush, timeStamp := t }).restoreStats true
  have h₂ := h₁.setDatabase (h₁.arrays.renewTableTime (t' - t))
  exact (tidy_loadActiveStats tz h₂.arrays ht' true (.inl rfl)).memoryOnly
    (memoryOnly_loadModuleAndFormStats _)

theorem Tidy.deleteUninstalledBundleStats (h : s.Tidy) (b : String) (uid appIndex : ℤ) :
    (s.deleteUninstalledBundleStats b uid appIndex).Tidy := by
  have hloop : MemoryOnly s (IntervalType.all.foldl (fun s i => s.setStats i
      (s.deleteMemEvent b uid appIndex
        (s.deleteMemUsageStats b uid appIndex (s.currentStats i)))) s) := by
    refine List.foldlRecOn _ _ (.refl s) fun s' h i _ => h.trans ?_
    unfold deleteMemEvent deleteMemUsageStats
    refine memoryOnly_setStats s' i _ ?_ ?_ ?_ <;> split_ifs <;> rfl
  have h₁ := h.memoryOnly hloop
  exact ⟨fun i => h₁.arrays i, h₁.ends⟩

theorem tidy_init (p : ProcessState) (userId : ℤ) (debug : Bool) {t : ℤ} (ht : 0 < t) :
    (init tz p userId debug t).Tidy := by
  have harrays : (openDatabase p userId debug t).databaseState.ArraysSorted :=
    fun i => ArraysSorted.initDatabaseTableInfo (fun _ => List.Pairwise.nil) t i
  have hload := tidy_loadActiveStats tz harrays ht false (.inl (rfl : true = true))
  exact keptInMemory_tidy.addDailyEvent _
    (hload.memoryOnly (memoryOnly_loadModuleAndFormStats _))

theorem memoryOnly_queryBundleStatsInfos (s : ServiceState) (k b e userId : ℤ) (n : String) :
    MemoryOnly s (s.queryBundleStatsInfos k b e userId n).2 := by
  unfold queryBundleStatsInfos
  split
  · exact .refl s
  · simp only
    split_ifs
    all_goals first
      | exact .refl s
      | exact memoryOnly_setStats s _ _ rfl rfl le_rfl

/-- Every step keeps the state tidy. -/
theorem Tidy.apply (h : s.Tidy) (op : ServiceOp) (stamped : op.Stamped) : (s.apply tz op).Tidy := by
  cases op with
  | reportEvent event => exact h.reportEvent tz stamped
  | reportForShutdown event => exact h.reportForShutdown tz stamped
  | reportModuleEvent event => exact keptInMemory_tidy.reportModuleEvent event h
  | reportFormEvent event => exact keptInMemory_tidy.reportFormEvent event h
  | restoreStats forced => exact h.restoreStats forced
  | handleTimeChange t t' => exact h.handleTimeChange tz stamped.1 stamped.2
  | deleteUninstalledBundleStats b uid appIndex => exact h.deleteUninstalledBundleStats b uid appIndex
  | deleteExcessiveEventTableData days =>
    change (s.deleteExcessiveEventTableData days).Tidy
    unfold deleteExcessiveEventTableData
    split_ifs
    · exact h
    · exact h.setDatabase
        ((samePackages_deleteExcessiveEventTableData _ _).arraysSorted h.arrays)
  | queryBundleStatsInfos k b e userId n =>
    exact h.memoryOnly (memoryOnly_queryBundleStatsInfos s k b e userId n)
  | otherServices p => exact ⟨h.arrays, h.ends⟩

theorem tidy_run {Allowed : ServiceState → ServiceOp → Prop} (run : Run tz Allowed s) : s.Tidy := by
  induction run with
  | init p userId debug t ht => exact tidy_init tz p userId debug ht
  | step op _ stamped _ ih => exact ih.apply tz op stamped

end ServiceState
end DeviceUsageStats
