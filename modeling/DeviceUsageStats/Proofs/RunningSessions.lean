import DeviceUsageStats.Sanity.SessionReplay

/-! Running sessions over a rollover. A session of a bundle survives in the periods that the load keeps;
in the others it is started again if the replay gets to its uid, that is if sessions of its kind are
known under every smaller uid that is known for the name, whoever has it. -/

namespace DeviceUsageStats
namespace ServiceState

open PackageContainUidMap (getPackageUidSet)

variable (tz : TimeZone) {s s' : ServiceState} {i j : IntervalType} {k : String} {x : Session}

/-- The state that the load of a rollover begins with. -/
def saved (s : ServiceState) (t : ℤ) : ServiceState :=
  (s.restoreStats true).setDatabase ((s.restoreStats true).databaseState.removeOldData t)

theorem saveAndReload_eq (s : ServiceState) (t : ℤ) :
    s.saveAndReload tz t = (s.saved t).loadActiveStats tz t false false :=
  rfl

theorem currentStats_saved (s : ServiceState) (t : ℤ) :
    (s.saved t).currentStats = (s.restoreStats true).currentStats :=
  rfl

theorem packageContainUidMap_saved (s : ServiceState) (t : ℤ) :
    (s.saved t).packageContainUidMap = s.packageContainUidMap := by
  rw [saved, setDatabase, (restoreStats_user s true).2.2]

theorem keeps_saved (h : Flushed s s') (t : ℤ) (i : IntervalType) :
    Keeps tz t false (s'.saved t) i ↔ Keeps tz t false s i := by
  have hbegin : ((s'.saved t).currentStats i).beginTime = (s.currentStats i).beginTime := by
    obtain ⟨events, hstats⟩ := currentStats_restoreStats s' true i
    rw [currentStats_saved, hstats]
    exact h.begins i
  have hdebug : (s'.saved t).debugUserService = s.debugUserService :=
    (restoreStats_user s' true).2.1.trans h.debug
  unfold Keeps
  rw [hbegin, hdebug]

/-- The sessions before the replay: those of the periods that the load keeps. -/
theorem runs_saveAndReload (h : Flushed s s') (t : ℤ) :
    ((s'.saveAndReload tz t).currentStats j).Runs k x ↔
      Keeps tz t false s j ∧ (s.currentStats j).Runs k x := by
  rw [saveAndReload_eq, currentStats_loadActiveStats, ← keeps_saved tz h]
  split_ifs with hkeeps
  · rw [currentStats_saved, sameRuns_restoreStats s' true j, id, h.runs j, id]
    exact (and_iff_right hkeeps).symm
  · exact iff_of_false (not_runs_loadedPeriod tz t _ j k x) fun h => hkeeps h.1

theorem runs_renewStatsInMemory (keyed : ∀ i, Keyed (s.currentStats i).bundleStats)
    (known : s.Holds fun _ e => e.StatesKnown) (t : ℤ) :
    ((s.renewStatsInMemory tz t).currentStats j).Runs k x ↔
      (∃ n ∈ s.flushDataInMem.1.continueBundles,
        ReplayedOf (s.flushDataInMem.2.saveAndReload tz t) s.flushDataInMem.1 n k x) ∨
      Keeps tz t false s j ∧ (s.currentStats j).Runs k x := by
  have hflushed := flushed_flushDataInMem keyed
  have hcaptured := statesCaptured_flushDataInMem keyed known
  unfold renewStatsInMemory
  generalize s.flushDataInMem = cs at hflushed hcaptured ⊢
  have hstarts := starts_continueBundles hcaptured (cs.2.saveAndReload tz t)
  simp only
  rw [sameRuns_restoreStats _ true j, id, hstarts.runs, runs_saveAndReload tz hflushed]

theorem Flushed.keyed (h : Flushed s s') (keyed : ∀ i, Keyed (s.currentStats i).bundleStats)
    (i : IntervalType) : Keyed (s'.currentStats i).bundleStats := by
  intro k e hk
  have hold := h.idents i k
  rw [hk, Option.map_some] at hold
  obtain ⟨e₀, hk₀, hident⟩ := Option.map_eq_some_iff.1 hold.symm
  obtain ⟨hname, huid⟩ := Prod.mk.inj hident
  rw [← hname, ← huid]
  exact keyed i k e₀ hk₀

theorem Flushed.storedUid (h : Flushed s s') {n : String} {v : ℤ} (hv : s'.StoredUid i n v) :
    s.StoredUid i n v := by
  rcases hv with ⟨k, e, hk, rfl, rfl⟩ | hrow
  · have hold := h.idents i k
    rw [hk, Option.map_some] at hold
    obtain ⟨e₀, hk₀, hident⟩ := Option.map_eq_some_iff.1 hold.symm
    obtain ⟨hname, huid⟩ := Prod.mk.inj hident
    exact .inl ⟨k, e₀, hk₀, hname, huid⟩
  · rw [h.databaseState, h.files, h.userId] at hrow
    exact .inr hrow

theorem kept_uids_saveAndReload (h : Flushed s s') {t : ℤ} {n : String} {v : ℤ}
    (hv : v ∈ getPackageUidSet s.packageContainUidMap n) :
    v ∈ getPackageUidSet (s'.saveAndReload tz t).packageContainUidMap n := by
  have huids := (packageContainUidMap_saved s' t).trans h.uids
  exact (uidsFrom_loadActiveStats tz (s'.saved t) t false false).kept n v (huids.symm ▸ hv)

/-- The uids after the load: those known before, and those of the entries and rows that it reads. -/
theorem mem_uids_saveAndReload (h : Flushed s s') (tidy : s.Tidy)
    (keyed : ∀ i, Keyed (s.currentStats i).bundleStats) {t : ℤ} {n : String} {v : ℤ}
    (hv : v ∈ getPackageUidSet (s'.saveAndReload tz t).packageContainUidMap n) :
    v ∈ getPackageUidSet s.packageContainUidMap n ∨
      ∃ i, ¬ Keeps tz t false s i ∧ s.StoredUid i n v := by
  have huids := (packageContainUidMap_saved s' t).trans h.uids
  rcases (uidsFrom_loadActiveStats tz (s'.saved t) t false false).from_fresh n v hv with
    hv | ⟨i, hkeeps, hread⟩
  · exact .inl (huids ▸ hv)
  · refine .inr ⟨i, fun hk => hkeeps ((keeps_saved tz h t i).2 hk), ?_⟩
    exact h.storedUid (storedUid_of_readRow (tidy.memoryOnly h.toMemoryOnly) (h.keyed keyed) hread)

/-- For every running session the load keeps all periods, or the replay gets to the uid of its bundle. -/
def SessionsReached (s : ServiceState) (t : ℤ) : Prop :=
  ∀ i (k : String) e x, (s.currentStats i).bundleStats[k]? = some e → e.Runs x →
    (∀ j, Keeps tz t false s j) ∨
    e.uid ∈ getPackageUidSet s.packageContainUidMap e.bundleName ∧
      ∀ v ≤ e.uid, (v ∈ getPackageUidSet s.packageContainUidMap e.bundleName ∨
          ∃ j, ¬ Keeps tz t false s j ∧ s.StoredUid j e.bundleName v) →
        s.SomeKnown x e.bundleName v

/-- A rollover that reaches the running sessions starts and ends none. -/
theorem sameRuns_renewStatsInMemory (tidy : s.Tidy)
    (keyed : ∀ i, Keyed (s.currentStats i).bundleStats) (known : s.Holds fun _ e => e.StatesKnown)
    (agree : s.SessionsAgree) {t : ℤ} (reached : s.SessionsReached tz t) :
    SameRuns s (s.renewStatsInMemory tz t) := by
  intro j
  funext k x
  have hflushed := flushed_flushDataInMem keyed
  rw [eq_iff_iff, runs_renewStatsInMemory tz keyed known, id]
  constructor
  · rintro (⟨n, -, u, -, -, hx⟩ | ⟨-, hx⟩)
    · exact (captured_iff keyed agree j k x).1 hx
    · exact hx
  · intro hx
    obtain ⟨e, hk, hruns⟩ := hx
    rcases reached j k e x hk hruns with hall | ⟨huid, hsmaller⟩
    · exact .inr ⟨hall j, e, hk, hruns⟩
    · refine .inl ⟨e.bundleName, mem_continueBundles.2 ⟨e, mem_entries.2 ⟨j, k, hk⟩, rfl⟩, e.uid,
        ⟨kept_uids_saveAndReload tz hflushed huid, fun v hv hle => ?_⟩, (keyed j k e hk).symm,
        (captured_iff keyed agree j k x).2 ⟨e, hk, hruns⟩⟩
      exact anyCaptured_of_someKnown keyed
        (hsmaller v hle (mem_uids_saveAndReload tz hflushed tidy keyed hv))

/-! ### Runs -/

theorem SessionsReached.memoryOnly {t : ℤ} (reached : s.SessionsReached tz t)
    (h : MemoryOnly s s')
    (stats : ∀ i, (s'.currentStats i).bundleStats = (s.currentStats i).bundleStats)
    (uids : s'.packageContainUidMap = s.packageContainUidMap) : s'.SessionsReached tz t := by
  unfold SessionsReached Keeps StoredUid SomeKnown at reached ⊢
  simpa only [stats, uids, h.begins, h.debug, h.databaseState, h.files, h.userId] using reached

theorem sameRuns_reportModuleEvent (s : ServiceState) (event : BundleActiveEvent) :
    SameRuns s (s.reportModuleEvent event) := by
  unfold reportModuleEvent
  split_ifs
  · exact .refl s
  · exact (sameRuns_of_currentStats rfl).trans (sameRuns_notifyStatsChanged _)

theorem sameRuns_reportFormEvent (s : ServiceState) (event : BundleActiveEvent) :
    SameRuns s (s.reportFormEvent event) := by
  unfold reportFormEvent
  simp only
  split
  · exact (sameRuns_of_currentStats rfl).trans (sameRuns_notifyStatsChanged _)
  · exact sameRuns_of_currentStats rfl
  · exact sameRuns_of_currentStats rfl

/-- A rollover of the step gets to all running sessions. -/
def RolloverReached (s : ServiceState) : ServiceOp → Prop
  | .reportEvent event =>
    s.dailyExpiryDate.time ≤ event.timeStamp → s.SessionsReached tz event.timeStamp
  | .reportForShutdown event =>
    event.eventId = .shutdown → s.dailyExpiryDate.time ≤ event.timeStamp →
      s.SessionsReached tz event.timeStamp
  | _ => True

structure SessionsTidy (s : ServiceState) : Prop where
  tidy : s.Tidy
  keyed : ∀ i, Keyed (s.currentStats i).bundleStats
  known : s.Holds fun _ e => e.StatesKnown
  agree : s.SessionsAgree

theorem SessionsTidy.renewStatsInMemory (h : s.SessionsTidy) {t : ℤ}
    (reached : s.SessionsReached tz t) : SameRuns s (s.renewStatsInMemory tz t) :=
  sameRuns_renewStatsInMemory tz h.tidy h.keyed h.known h.agree reached

theorem SessionsTidy.renewIfExpired (h : s.SessionsTidy) {t : ℤ}
    (reached : s.dailyExpiryDate.time ≤ t → s.SessionsReached tz t) :
    SameRuns s (s.renewIfExpired tz t) := by
  unfold ServiceState.renewIfExpired
  split_ifs with hexpired
  · exact h.renewStatsInMemory tz (reached hexpired)
  · exact .refl s

theorem SessionsTidy.addDailyEvent (h : s.SessionsTidy) (event : BundleActiveEvent) :
    (s.addDailyEvent event).SessionsTidy where
  tidy := keptInMemory_tidy.addDailyEvent event h.tidy
  keyed := (EntryKept.keptInMemory entryKept_key).addDailyEvent event
    ⟨h.keyed, h.known.users⟩ |>.entries
  known := (EntryKept.keptInMemory BundleActivePackageStats.entryKept_statesKnown).addDailyEvent
    event h.known
  agree := h.agree.after (sameRuns_addDailyEvent s event)

theorem SessionsTidy.apply (h : s.SessionsTidy) (op : ServiceOp)
    (reached : s.RolloverReached tz op) : (s.apply tz op).SessionsAgree := by
  cases op with
  | reportEvent event =>
    exact (h.agree.after (h.renewIfExpired tz reached)).after (runsAfter_reportEvent tz s event)
  | reportForShutdown event =>
    by_cases hid : event.eventId = .shutdown
    · have hadded := h.addDailyEvent event
      refine (hadded.agree.after (hadded.renewIfExpired tz fun hexpired => ?_)).after
        (runsAfter_reportForShutdown tz s hid)
      exact (reached hid hexpired).memoryOnly tz
        ((keptInMemory_memoryOnly s).addDailyEvent event (.refl s))
        (bundleStats_addDailyEvent s event) rfl
    · change (s.reportForShutdown tz event).SessionsAgree
      unfold ServiceState.reportForShutdown
      rw [if_pos hid]
      exact h.agree
  | reportModuleEvent event => exact h.agree.after (sameRuns_reportModuleEvent s event)
  | reportFormEvent event => exact h.agree.after (sameRuns_reportFormEvent s event)
  | restoreStats forced => exact h.agree.after (sameRuns_restoreStats s forced)
  | handleTimeChange t t' =>
    have hforced := sessionsAgree_of_forced tz (((s.reportEvent tz
      { eventId := .flush, timeStamp := t }).restoreStats true).renewTableTime t t') t' true
    exact hforced.after (sameRuns_of_currentStats (currentStats_loadModuleAndFormStats _))
  | deleteUninstalledBundleStats b uid appIndex =>
    exact h.agree.deleteUninstalledBundleStats b uid appIndex
  | deleteExcessiveEventTableData days =>
    refine h.agree.after (sameRuns_of_currentStats ?_)
    change (s.deleteExcessiveEventTableData days).currentStats = s.currentStats
    unfold deleteExcessiveEventTableData
    split_ifs <;> rfl
  | queryBundleStatsInfos k b e userId n =>
    exact h.agree.after (sameRuns_queryBundleStatsInfos s k b e userId n)
  | otherServices p => exact h.agree.after (sameRuns_of_currentStats rfl)

theorem sessionsTidy_run (run : Run tz (RolloverReached tz) s) : s.SessionsTidy := by
  refine ⟨tidy_run tz run, (owned_run tz run).keyed,
    BundleActivePackageStats.entryKept_statesKnown.holds_run tz run, ?_⟩
  induction run with
  | init p userId debug t _ =>
    have hforced := sessionsAgree_of_forced tz (openDatabase p userId debug t) t false
    exact (hforced.after (sameRuns_of_currentStats
      (currentStats_loadModuleAndFormStats _))).after (sameRuns_addDailyEvent _ _)
  | step op run _ reached ih =>
    have h : SessionsTidy _ := ⟨tidy_run tz run, (owned_run tz run).keyed,
      BundleActivePackageStats.entryKept_statesKnown.holds_run tz run, ih⟩
    exact h.apply tz op reached

/-- After a run whose rollovers got to all running sessions, the next one that does keeps each of them
running in all periods. -/
theorem sessions_kept (run : Run tz (RolloverReached tz) s) {t : ℤ}
    (reached : s.SessionsReached tz t) (n : String) (u : ℤ)
    (running : (s.currentStats i).Runs (getBundleUsageKey n u) x) (j : IntervalType) :
    ((s.renewStatsInMemory tz t).currentStats j).Runs (getBundleUsageKey n u) x := by
  have htidy := sessionsTidy_run tz run
  rw [htidy.renewStatsInMemory tz reached j, id, htidy.agree j i]
  exact running

instance (e : BundleActivePackageStats) : DecidablePred e.Runs
  | .ability a => inferInstanceAs (Decidable (e.abilities[a]? = some .abilityForeground))
  | .task n => inferInstanceAs (Decidable (e.longTimeTasks[n]? = some .longTimeTaskStartted))

instance (p : BundleActivePeriodStats) (k : String) (x : Session) : Decidable (p.Runs k x) :=
  inferInstanceAs (Decidable (∃ e ∈ p.bundleStats[k]?, e.Runs x))

def mailAbility (eventId : EventId) (timeStamp uid : ℤ) : ServiceOp :=
  .reportEvent
    { bundleName := "com.example.mail", abilityId := "1", eventId := eventId
      timeStamp := timeStamp, uid := uid }

def mailShown : ServiceState :=
  (init utc {} 100 false 1709280000000).apply utc
    (mailAbility .abilityForeground 1709280001000 20010001)

/-- Its ability ends, and one of a clone of the bundle comes to the foreground. -/
def cloneShown : ServiceState :=
  (mailShown.apply utc (mailAbility .abilityStop 1709280002000 20010001)).apply utc
    (mailAbility .abilityForeground 1709280003000 20010002)

theorem run_mailShown : Run utc (RolloverReached utc) mailShown := by
  refine .step _ (.init {} 100 false 1709280000000 (by decide)) (by decide) fun hexpired => ?_
  exact absurd hexpired (by decide +kernel)

theorem sessionsReached_mailShown : mailShown.SessionsReached utc 1709337600000 := by
  intro i k e x hk hx
  refine .inr ?_
  have hentries : ∀ i, ∀ p ∈ (mailShown.currentStats i).bundleStats.toList,
      p.2.bundleName = "com.example.mail" ∧ p.2.uid = 20010001 := by
    intro i
    cases i <;> decide +kernel
  have huids : (getPackageUidSet mailShown.packageContainUidMap "com.example.mail").toList =
      [20010001] := by decide +kernel
  have hrows : ∀ j, ∀ p ∈ (mailShown.files.packageTables j).toList, p.2 = [] := by
    intro j
    cases j <;> decide +kernel
  obtain ⟨hname, huid⟩ := hentries i (k, e) (Std.TreeMap.mem_toList_iff_getElem?_eq_some.2 hk)
  simp only at hname huid
  rw [hname, huid]
  refine ⟨?_, fun v _ hv => ?_⟩
  · rw [← Std.TreeSet.mem_toList, huids]
    exact List.mem_singleton_self _
  · have hv : v = 20010001 := by
      rcases hv with hv | ⟨j, -, ⟨k', e', hk', -, rfl⟩ | ⟨y, -, row, hrow, -⟩⟩
      · rw [← Std.TreeSet.mem_toList, huids] at hv
        exact List.mem_singleton.1 hv
      · exact (hentries j (k', e') (Std.TreeMap.mem_toList_iff_getElem?_eq_some.2 hk')).2
      · unfold Tables.rows at hrow
        cases hget : (mailShown.files.packageTables j)[y]? with
        | none =>
          rw [hget] at hrow
          cases hrow
        | some rows =>
          have hempty : rows = [] :=
            hrows j (y, rows) (Std.TreeMap.mem_toList_iff_getElem?_eq_some.2 hget)
          rw [hget, hempty] at hrow
          cases hrow
    subst hv
    refine someKnown_of_runs (i := i) ?_
    have hkey := (sessionsTidy_run utc run_mailShown).keyed i k e hk
    rw [hname, huid] at hkey
    exact ⟨e, hkey ▸ hk, hx⟩

/-- The ability of the mail bundle runs on after midnight. -/
theorem sessions_kept_mailShown :
    ((mailShown.renewStatsInMemory utc 1709337600000).currentStats .daily).Runs
      (getBundleUsageKey "com.example.mail" 20010001) (.ability "1") := by
  have running : (mailShown.currentStats .daily).Runs (getBundleUsageKey "com.example.mail" 20010001)
      (.ability "1") := by decide +kernel
  exact sessions_kept utc run_mailShown sessionsReached_mailShown "com.example.mail" 20010001 running
    .daily

/-- The replay stops at the uid whose ability has ended. -/
theorem session_lost_cloneShown :
    Run utc (fun _ _ => True) cloneShown ∧ cloneShown.dailyExpiryDate.time ≤ 1709337600000 ∧
      (cloneShown.currentStats .daily).Runs (getBundleUsageKey "com.example.mail" 20010002)
        (.ability "1") ∧
      ¬ ((cloneShown.renewStatsInMemory utc 1709337600000).currentStats .daily).Runs
        (getBundleUsageKey "com.example.mail" 20010002) (.ability "1") := by
  refine ⟨?_, by decide +kernel, by decide +kernel, by decide +kernel⟩
  exact (Run.init {} 100 false 1709280000000 (by decide)).foldl utc
    [mailAbility .abilityForeground 1709280001000 20010001,
      mailAbility .abilityStop 1709280002000 20010001,
      mailAbility .abilityForeground 1709280003000 20010002] (by decide)

end ServiceState
end DeviceUsageStats
