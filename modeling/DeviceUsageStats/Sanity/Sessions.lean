import DeviceUsageStats.Sanity.Keyed

/-! The sessions of a bundle: its abilities in the foreground and its started long-time tasks. An update
starts or ends sessions of one bundle whatever its time stamp, so the four periods, which see the same
updates, run the same sessions. -/

namespace DeviceUsageStats

/-- An ability or a long-time task of a bundle. -/
inductive Session where
  | ability (abilityId : String)
  | task (longTimeTaskName : String)
  deriving DecidableEq

namespace Session

/-- An update starts the session. -/
def Started (e : EventId) (n a : String) : Session → Prop
  | ability a' => e = .abilityForeground ∧ a' = a
  | task n' => e = .longTimeTaskStartted ∧ n' = n

/-- An update ends the session. -/
def Ended (e : EventId) (n a : String) : Session → Prop
  | ability a' => (e = .abilityBackground ∨ e = .abilityStop) ∧ a' = a
  | task n' => e = .longTimeTaskEnded ∧ n' = n

/-- The running sessions of a period, by usage key, after an update of one bundle. -/
def afterUpdate (key : String) (e : EventId) (n a : String) (R : String → Session → Prop)
    (k : String) (x : Session) : Prop :=
  k = key ∧ Started e n a x ∨ R k x ∧ ¬ (k = key ∧ Ended e n a x)

theorem afterUpdate_eq_self {key : String} {e : EventId} {n a : String}
    (hs : ∀ x, ¬ Started e n a x) (he : ∀ x, ¬ Ended e n a x) (R : String → Session → Prop) :
    afterUpdate key e n a R = R := by
  funext k x
  simp [afterUpdate, hs, he]

/-- An event that is no event of a bundle's session starts and ends none. -/
theorem afterUpdate_of_not_isBundleEvent {key : String} {e : EventId} {n a : String}
    (h : e.isBundleEvent = false) (R : String → Session → Prop) :
    afterUpdate key e n a R = R := by
  refine afterUpdate_eq_self (fun x hx => ?_) (fun x hx => ?_) R
  · cases x <;> obtain ⟨rfl, -⟩ := hx <;> cases h
  · cases x with
    | ability _ => obtain ⟨rfl | rfl, -⟩ := hx <;> cases h
    | task _ => obtain ⟨rfl, -⟩ := hx; cases h

end Session

namespace BundleActivePackageStats

variable {s : BundleActivePackageStats}

def Runs (s : BundleActivePackageStats) : Session → Prop
  | .ability a => s.abilities[a]? = some .abilityForeground
  | .task n => s.longTimeTasks[n]? = some .longTimeTaskStartted

theorem runs_update (n : String) (t : ℤ) (e : EventId) (a : String) (x : Session) :
    (s.update n t e a).Runs x ↔ Session.Started e n a x ∨ s.Runs x ∧ ¬ Session.Ended e n a x := by
  cases x with
  | ability a' =>
    simp only [Runs, getElem?_abilities_update, Session.Started, Session.Ended]
    by_cases ha : a' = a
    · cases e <;> simp [ha, EventId.isAppStateEvent]
    · simp [ha]
  | task n' =>
    simp only [Runs, getElem?_longTimeTasks_update, Session.Started, Session.Ended]
    by_cases hn : n' = n
    · cases e <;> simp [hn, EventId.isTaskEvent]
    · simp [hn]

/-- The maps hold the states of sessions only. -/
structure StatesKnown (s : BundleActivePackageStats) : Prop where
  abilities : ∀ (a : String) v, s.abilities[a]? = some v →
    v = .abilityForeground ∨ v = .abilityBackground
  tasks : s.TasksStarted

theorem entryKept_statesKnown : EntryKept fun _ e => e.StatesKnown where
  created _ _ _ := ⟨fun _ _ h => by simp at h, fun _ _ h => by simp at h⟩
  update {_ e} n t ev a h := by
    refine ⟨fun a' v hv => ?_, h.tasks.update⟩
    rw [getElem?_abilities_update] at hv
    split_ifs at hv with hev hstop
    · obtain rfl := Option.some.inj hv
      rcases isAppStateEvent_iff.1 hev.1 with rfl | rfl | rfl
      · exact .inl rfl
      · exact .inr rfl
      · exact absurd rfl hstop
    · exact h.abilities a' v hv
  launch h := ⟨h.abilities, h.tasks⟩
  userId _ h := ⟨h.abilities, h.tasks⟩
  loaded _ _ := ⟨fun _ _ h => by simp [DatabaseState.loadedStats] at h,
    fun _ _ h => by simp [DatabaseState.loadedStats] at h⟩

end BundleActivePackageStats

namespace BundleActivePeriodStats

variable {p : BundleActivePeriodStats}

/-- A session of the bundle with a usage key runs in a period. -/
def Runs (p : BundleActivePeriodStats) (k : String) (x : Session) : Prop :=
  ∃ e, p.bundleStats[k]? = some e ∧ e.Runs x

theorem runs_congr {p' : BundleActivePeriodStats} (h : p'.bundleStats = p.bundleStats) :
    p'.Runs = p.Runs := by
  unfold Runs
  rw [h]

theorem runs_extendEndTime (p : BundleActivePeriodStats) (t : ℤ) :
    (p.extendEndTime t).Runs = p.Runs := by
  refine runs_congr ?_
  unfold extendEndTime
  split_ifs <;> rfl

theorem runs_mapEntries {f : String → BundleActivePackageStats → BundleActivePackageStats}
    (hf : ∀ k e x, (f k e).Runs x ↔ e.Runs x) :
    { p with bundleStats := Entries.mapEntries f p.bundleStats }.Runs = p.Runs := by
  funext k x
  simp only [Runs, Entries.getElem?_mapEntries, Option.map_eq_some_iff, eq_iff_iff]
  constructor
  · rintro ⟨_, ⟨e, hk, rfl⟩, hx⟩
    exact ⟨e, hk, (hf k e x).1 hx⟩
  · rintro ⟨e, hk, hx⟩
    exact ⟨_, ⟨e, hk, rfl⟩, (hf k e x).2 hx⟩

theorem runs_insert (p : BundleActivePeriodStats) (key : String) (e : BundleActivePackageStats)
    (k : String) (x : Session) :
    { p with bundleStats := p.bundleStats.insert key e }.Runs k x ↔
      if k = key then e.Runs x else p.Runs k x := by
  unfold Runs
  simp only [Std.TreeMap.getElem?_insert, Std.LawfulEqCmp.compare_eq_iff_eq, eq_comm (a := key)]
  split_ifs <;> simp

theorem runs_update (p : BundleActivePeriodStats) (uids : PackageContainUidMap) (b n : String)
    (t : ℤ) (ev : EventId) (a : String) (uid : ℤ) :
    (p.update uids b n t ev a uid).1.Runs =
      Session.afterUpdate (getBundleUsageKey b uid) ev n a p.Runs := by
  have hcreated : ∀ x, (p.getOrCreateUsageStats uids b uid).1.Runs x ↔
      p.Runs (getBundleUsageKey b uid) x := by
    intro x
    unfold getOrCreateUsageStats Runs
    cases hk : p.bundleStats[getBundleUsageKey b uid]? with
    | some e => simp
    | none => cases x <;> simp [BundleActivePackageStats.Runs]
  unfold update
  split_ifs with hall hbundle
  · -- a tick reaches every bundle and ends no session
    have hnone : ev.isBundleEvent = false := by
      rcases hall with rfl | rfl <;> rfl
    rw [Session.afterUpdate_of_not_isBundleEvent hnone, runs_extendEndTime]
    refine runs_mapEntries fun _ e x => ?_
    rw [BundleActivePackageStats.runs_update]
    rcases hall with rfl | rfl <;> cases x <;> simp [Session.Started, Session.Ended]
  · simp only
    rw [runs_extendEndTime]
    funext k x
    rw [eq_iff_iff, runs_insert, BundleActivePackageStats.runs_update, hcreated]
    unfold Session.afterUpdate
    by_cases hk : k = getBundleUsageKey b uid
    · simp [hk]
    · simp [hk]
  · rw [Session.afterUpdate_of_not_isBundleEvent (Bool.eq_false_iff.2 hbundle), runs_extendEndTime]

theorem runs_modify_launch (p : BundleActivePeriodStats) (key : String) :
    { p with
      bundleStats := p.bundleStats.modify key (·.incrementBundleLaunchedCount) }.Runs = p.Runs := by
  funext k x
  simp only [Runs, Std.TreeMap.getElem?_modify, Std.LawfulEqCmp.compare_eq_iff_eq, eq_iff_iff]
  split_ifs with hk
  · subst hk
    simp only [Option.map_eq_some_iff]
    constructor
    · rintro ⟨_, ⟨e, hk, rfl⟩, hx⟩
      exact ⟨e, hk, by cases x <;> exact hx⟩
    · rintro ⟨e, hk, hx⟩
      exact ⟨_, ⟨e, hk, rfl⟩, by cases x <;> exact hx⟩
  · rfl

end BundleActivePeriodStats

namespace ServiceState

open Session (afterUpdate)

variable (tz : TimeZone) {s s' s'' : ServiceState}

/-- Every period runs the sessions that a change makes of its own. -/
def RunsAfter (R : (String → Session → Prop) → String → Session → Prop) (s s' : ServiceState) :
    Prop :=
  ∀ i, (s'.currentStats i).Runs = R (s.currentStats i).Runs

/-- No session starts or ends. -/
def SameRuns (s s' : ServiceState) : Prop := RunsAfter id s s'

theorem SameRuns.refl (s : ServiceState) : SameRuns s s := fun _ => rfl

theorem SameRuns.trans (h : SameRuns s s') (h' : SameRuns s' s'') : SameRuns s s'' :=
  fun i => (h' i).trans (h i)

theorem RunsAfter.sameRuns {R : (String → Session → Prop) → String → Session → Prop}
    (h : RunsAfter R s s') (h' : SameRuns s' s'') : RunsAfter R s s'' :=
  fun i => (h' i).trans (h i)

theorem sameRuns_of_currentStats (h : s'.currentStats = s.currentStats) : SameRuns s s' :=
  fun i => by rw [h]; rfl

theorem sameRuns_setStats {i : IntervalType} {p : BundleActivePeriodStats}
    (hp : p.Runs = (s.currentStats i).Runs) : SameRuns s (s.setStats i p) := by
  intro j
  by_cases hj : j = i
  · subst hj
    simpa [setStats] using hp
  · simp [setStats, hj]

theorem sameRuns_notifyStatsChanged (s : ServiceState) : SameRuns s s.notifyStatsChanged := by
  unfold notifyStatsChanged
  split_ifs <;> exact .refl _

theorem sameRuns_restoreStats (s : ServiceState) (forced : Bool) :
    SameRuns s (s.restoreStats forced) := by
  intro i
  obtain ⟨events, hstats⟩ := currentStats_restoreStats s forced i
  rw [hstats]
  rfl

theorem sameRuns_addDailyEvent (s : ServiceState) (event : BundleActiveEvent) :
    SameRuns s (s.addDailyEvent event) :=
  sameRuns_setStats (BundleActivePeriodStats.runs_extendEndTime _ _)

/-- The four periods run the same sessions. -/
def SessionsAgree (s : ServiceState) : Prop :=
  ∀ i j, (s.currentStats i).Runs = (s.currentStats j).Runs

theorem SessionsAgree.after {R : (String → Session → Prop) → String → Session → Prop}
    (h : s.SessionsAgree) (hs : RunsAfter R s s') : s'.SessionsAgree :=
  fun i j => by rw [hs i, hs j, h i j]

/-- A loop over the types that changes each period on its own. -/
theorem runsAfter_foldl {R : (String → Session → Prop) → String → Session → Prop}
    {f : ServiceState → IntervalType → ServiceState}
    (own : ∀ s i, ((f s i).currentStats i).Runs = R (s.currentStats i).Runs)
    (other : ∀ s i j, j ≠ i → (f s i).currentStats j = s.currentStats j) (s : ServiceState) :
    RunsAfter R s (IntervalType.all.foldl f s) := by
  have hloop : ∀ l : List IntervalType, l.Nodup → ∀ s i,
      ((l.foldl f s).currentStats i).Runs =
        if i ∈ l then R (s.currentStats i).Runs else (s.currentStats i).Runs := by
    intro l
    induction l with
    | nil => exact fun _ _ _ => rfl
    | cons j l ih =>
      intro hl s i
      obtain ⟨hj, hl⟩ := List.nodup_cons.1 hl
      rw [List.foldl_cons, ih hl]
      by_cases hi : i = j
      · subst hi
        rw [if_neg hj, if_pos (List.mem_cons_self ..), own]
      · simp only [other s j i hi, List.mem_cons, hi, false_or]
  intro i
  rw [hloop _ DatabaseState.IntervalType.nodup_all, if_pos (DatabaseState.IntervalType.mem_all i)]

theorem currentStats_updateStats_of_ne {i j : IntervalType} (h : j ≠ i) (b n : String) (t : ℤ)
    (e : EventId) (a : String) (uid : ℤ) (s : ServiceState) :
    (updateStats i b n t e a uid s).currentStats j = s.currentStats j :=
  Function.update_of_ne h ..

theorem runs_updateStats (i : IntervalType) (b n : String) (t : ℤ) (e : EventId) (a : String)
    (uid : ℤ) (s : ServiceState) :
    ((updateStats i b n t e a uid s).currentStats i).Runs =
      afterUpdate (getBundleUsageKey b uid) e n a (s.currentStats i).Runs := by
  rw [← BundleActivePeriodStats.runs_update (s.currentStats i) s.packageContainUidMap b n t e a uid]
  exact congrArg _ (Function.update_self ..)

theorem runsAfter_updatePeriodStats (s : ServiceState) (event : BundleActiveEvent)
    (launch : Bool) :
    RunsAfter (afterUpdate (getBundleUsageKey event.bundleName event.uid) event.eventId
      event.continuousTaskAbilityName event.abilityId) s (s.updatePeriodStats event launch) := by
  have hloop := runsAfter_foldl (f := updatePeriodStatsOf event launch)
    (R := afterUpdate (getBundleUsageKey event.bundleName event.uid) event.eventId
      event.continuousTaskAbilityName event.abilityId) (fun s i => ?_) (fun s i j hj => ?_) s
  · unfold updatePeriodStats
    simp only
    split_ifs
    · exact hloop.sameRuns (sameRuns_notifyStatsChanged _)
    · exact hloop
  · unfold updatePeriodStatsOf
    simp only
    split
    all_goals first
      | (rename_i he
         rw [Session.afterUpdate_of_not_isBundleEvent (by rw [he]; rfl)]
         simp only [setStats, Function.update_self]
         exact BundleActivePeriodStats.runs_congr rfl)
      | skip
    split_ifs
    · simp only [setStats, Function.update_self]
      rw [BundleActivePeriodStats.runs_modify_launch, runs_updateStats]
    · exact runs_updateStats i _ _ _ _ _ _ s
  · unfold updatePeriodStatsOf
    simp only
    split
    all_goals first
      | exact Function.update_of_ne hj ..
      | skip
    split_ifs
    · simp only [setStats, Function.update_of_ne hj]
      exact currentStats_updateStats_of_ne hj _ _ _ _ _ _ s
    · exact currentStats_updateStats_of_ne hj _ _ _ _ _ _ s

/-- A report changes the sessions that its rollover has left by its own event. -/
theorem runsAfter_reportEvent (s : ServiceState) (event : BundleActiveEvent) :
    RunsAfter (afterUpdate (getBundleUsageKey event.bundleName event.uid) event.eventId
      event.continuousTaskAbilityName event.abilityId) (s.renewIfExpired tz event.timeStamp)
      (s.reportEvent tz event) := by
  simp only [reportEvent]
  set s₁ := s.renewIfExpired tz event.timeStamp
  have hadd : SameRuns s₁ (if event.eventId ≠ .systemInteractive ∧ event.eventId ≠ .flush then
      s₁.addDailyEvent event else s₁) := by
    split_ifs
    · exact sameRuns_addDailyEvent s₁ event
    · exact .refl s₁
  set s₂ := if event.eventId ≠ .systemInteractive ∧ event.eventId ≠ .flush then
    s₁.addDailyEvent event else s₁
  intro i
  split_ifs
  · rw [runsAfter_updatePeriodStats _ event true i]
    exact congrArg _ (hadd i)
  · rw [runsAfter_updatePeriodStats _ event false i]
    exact congrArg _ (hadd i)

theorem runsAfter_reportForShutdown (s : ServiceState) {event : BundleActiveEvent}
    (h : event.eventId = .shutdown) :
    SameRuns ((s.addDailyEvent event).renewIfExpired tz event.timeStamp)
      (s.reportForShutdown tz event) := by
  unfold reportForShutdown
  rw [if_neg (not_not.2 h)]
  simp only
  refine SameRuns.trans (runsAfter_foldl (fun s i => ?_) (fun s i j hj => ?_) _)
    (sameRuns_notifyStatsChanged _)
  · rw [runs_updateStats, h, Session.afterUpdate_of_not_isBundleEvent rfl]
    rfl
  · exact currentStats_updateStats_of_ne hj _ _ _ _ _ _ s

/-- A loaded period runs no session. -/
theorem not_runs_loadedPeriod (t : ℤ) (s : ServiceState) (i : IntervalType) (k : String)
    (x : Session) : ¬ (loadedPeriod tz t s i).Runs k x := by
  rintro ⟨e, hk, hx⟩
  refine (entriesHold_loadedPeriod tz (Q := fun _ e => ∀ x, ¬ e.Runs x) (fun t row x => ?_) t s
    i).1 k e hk x hx
  cases x <;> simp [BundleActivePackageStats.Runs, DatabaseState.loadedStats]

theorem sessionsAgree_of_forced (s : ServiceState) (t : ℤ) (timeChanged : Bool) :
    (s.loadActiveStats tz t true timeChanged).SessionsAgree := by
  have hnone : ∀ i, ((s.loadActiveStats tz t true timeChanged).currentStats i).Runs =
      fun _ _ => False := fun i => by
    have hkeeps : ¬ Keeps tz t true s i := fun h => by cases h.1
    rw [currentStats_loadActiveStats, if_neg hkeeps]
    funext k x
    exact eq_false (not_runs_loadedPeriod tz t s i k x)
  exact fun i j => (hnone i).trans (hnone j).symm

/-- A removal ends the sessions of the keys that it erases. -/
theorem SessionsAgree.deleteUninstalledBundleStats (h : s.SessionsAgree) (b : String)
    (uid appIndex : ℤ) : (s.deleteUninstalledBundleStats b uid appIndex).SessionsAgree := by
  set keys := if appIndex ≠ 0 then [getBundleUsageKey b uid]
    else (s.packageContainUidMap.getPackageUidSet b).toList.map (getBundleUsageKey b) with hkeys
  have hstats : ∀ i (k : String), ((s.deleteUninstalledBundleStats b uid appIndex).currentStats
      i).bundleStats[k]? = if k ∈ keys then none else (s.currentStats i).bundleStats[k]? := by
    intro i k
    have hmem : (s.deleteUninstalledBundleStats b uid appIndex).currentStats i =
        s.deleteMemEvent b uid appIndex (s.deleteMemUsageStats b uid appIndex
          (s.currentStats i)) := by
      cases i <;> rfl
    rw [hmem]
    by_cases happ : appIndex ≠ 0
    · simp only [hkeys, deleteMemEvent, deleteMemUsageStats, if_pos happ]
      exact Entries.getElem?_foldl_erase (fun key => key) [getBundleUsageKey b uid] _ k
    · simp only [hkeys, deleteMemEvent, deleteMemUsageStats, if_neg happ]
      exact Entries.getElem?_foldl_erase (getBundleUsageKey b) _ _ k
  refine h.after (R := fun R k x => k ∉ keys ∧ R k x) fun i => ?_
  funext k x
  unfold BundleActivePeriodStats.Runs
  rw [hstats]
  by_cases hk : k ∈ keys
  · simp [hk]
  · simp [hk]

theorem sameRuns_queryBundleStatsInfos (s : ServiceState) (k b e userId : ℤ) (n : String) :
    SameRuns s (s.queryBundleStatsInfos k b e userId n).2 := by
  unfold queryBundleStatsInfos
  split
  · exact .refl s
  · simp only
    split_ifs
    all_goals first
      | exact .refl s
      | exact sameRuns_setStats (BundleActivePeriodStats.runs_mapEntries fun _ _ x => by
          cases x <;> rfl)

end ServiceState

end DeviceUsageStats
