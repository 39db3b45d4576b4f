import DeviceUsageStats.Sanity.Keyed

/-! What a report does to the entry of one usage key, in each of the four period stats of a service: it is
a function of that entry and of the event, and the identity if the event is of another key. -/

namespace DeviceUsageStats

variable {k : String} {event : BundleActiveEvent} {launch : Bool}

/-- The screen and keyguard events only run the trackers of a period. -/
def EventId.isTrackerEvent : EventId → Bool
  | .screenInteractive | .screenNonInteractive | .keyguardShown | .keyguardHidden => true
  | _ => false

/-- An update of a period stats on the entry of a usage key. -/
def updatedEntry (k : String) (event : BundleActiveEvent) (e : Option BundleActivePackageStats) :
    Option BundleActivePackageStats :=
  if event.eventId = .shutdown ∨ event.eventId = .flush then
    e.map (·.update "" event.timeStamp event.eventId event.abilityId)
  else if event.eventId.isBundleEvent ∧ getBundleUsageKey event.bundleName event.uid = k then
    some ((e.getD { bundleName := event.bundleName, uid := event.uid }).update
      event.continuousTaskAbilityName event.timeStamp event.eventId event.abilityId)
  else e

/-- A report on the entry of a usage key. -/
def reportedEntry (k : String) (event : BundleActiveEvent) (launch : Bool)
    (e : Option BundleActivePackageStats) : Option BundleActivePackageStats :=
  if event.eventId.isTrackerEvent then e
  else if launch ∧ getBundleUsageKey event.bundleName event.uid = k then
    (updatedEntry k event e).map (·.incrementBundleLaunchedCount)
  else updatedEntry k event e

theorem updatedEntry_of_ne (htick : ¬ (event.eventId = .shutdown ∨ event.eventId = .flush))
    (hk : getBundleUsageKey event.bundleName event.uid ≠ k) (e : Option BundleActivePackageStats) :
    updatedEntry k event e = e := by
  rw [updatedEntry, if_neg htick, if_neg fun h => hk h.2]

/-- An event of another key leaves the entry alone, unless it closes every session. -/
theorem reportedEntry_of_ne (htick : ¬ (event.eventId = .shutdown ∨ event.eventId = .flush))
    (hk : getBundleUsageKey event.bundleName event.uid ≠ k) (e : Option BundleActivePackageStats) :
    reportedEntry k event launch e = e := by
  unfold reportedEntry
  rw [updatedEntry_of_ne htick hk]
  split_ifs with _ hown
  · rfl
  · exact absurd hown.2 hk
  · rfl

/-- The end of the counting is always set anew. -/
theorem BundleActivePackageStats.update_endTimeStamp (name b a : String) (t endTime uid : ℤ)
    (id : EventId) :
    ({ endTimeStamp := endTime, bundleName := b, uid := uid } : BundleActivePackageStats).update
        name t id a =
      ({ bundleName := b, uid := uid } : BundleActivePackageStats).update name t id a := by
  cases id <;> rfl

theorem getElem?_extendEndTime (p : BundleActivePeriodStats) (t : ℤ) (k : String) :
    (p.extendEndTime t).bundleStats[k]? = p.bundleStats[k]? := by
  unfold BundleActivePeriodStats.extendEndTime
  split_ifs <;> rfl

theorem BundleActivePeriodStats.getElem?_update (p : BundleActivePeriodStats)
    (uids : PackageContainUidMap) (event : BundleActiveEvent) (k : String) :
    (p.update uids event.bundleName event.continuousTaskAbilityName event.timeStamp event.eventId
      event.abilityId event.uid).1.bundleStats[k]? = updatedEntry k event p.bundleStats[k]? := by
  unfold BundleActivePeriodStats.update updatedEntry
  split_ifs with htick hbundle hown hnot
  · rw [getElem?_extendEndTime]
    exact Entries.getElem?_mapEntries _ _ _
  · simp only [getElem?_extendEndTime, Std.TreeMap.getElem?_insert]
    rw [if_pos (by simp [hown.2]), ← hown.2]
    unfold BundleActivePeriodStats.getOrCreateUsageStats
    cases p.bundleStats[getBundleUsageKey event.bundleName event.uid]? with
    | some e => rfl
    | none => exact congrArg some (BundleActivePackageStats.update_endTimeStamp ..)
  · simp only [getElem?_extendEndTime, Std.TreeMap.getElem?_insert]
    rw [if_neg fun h => hown ⟨hbundle, Std.LawfulEqCmp.eq_of_compare h⟩]
  · exact absurd hnot.1 hbundle
  · rw [getElem?_extendEndTime]

namespace ServiceState

/-- The entry of a usage key in a period stats. -/
def entryOf (s : ServiceState) (k : String) (i : IntervalType) : Option BundleActivePackageStats :=
  (s.currentStats i).bundleStats[k]?

theorem entryOf_setStats (s : ServiceState) (i j : IntervalType) (p : BundleActivePeriodStats)
    (k : String) :
    (s.setStats i p).entryOf k j = if j = i then p.bundleStats[k]? else s.entryOf k j := by
  unfold entryOf setStats
  simp only [Function.update_apply]
  split_ifs <;> rfl

theorem entryOf_updateStats (s : ServiceState) (event : BundleActiveEvent) (i j : IntervalType)
    (k : String) :
    (updateStats i event.bundleName event.continuousTaskAbilityName event.timeStamp event.eventId
      event.abilityId event.uid s).entryOf k j =
        if j = i then updatedEntry k event (s.entryOf k j) else s.entryOf k j := by
  have hset := entryOf_setStats s i j ((s.currentStats i).update s.packageContainUidMap
    event.bundleName event.continuousTaskAbilityName event.timeStamp event.eventId event.abilityId
    event.uid).1 k
  rw [BundleActivePeriodStats.getElem?_update] at hset
  refine hset.trans ?_
  split_ifs with hj
  · rw [hj, entryOf]
  · rfl

theorem entryOf_updatePeriodStatsOf (s : ServiceState) (event : BundleActiveEvent) (launch : Bool)
    (i j : IntervalType) (k : String) :
    (updatePeriodStatsOf event launch s i).entryOf k j =
      if j = i then reportedEntry k event launch (s.entryOf k j) else s.entryOf k j := by
  have htracker : ∀ p : BundleActivePeriodStats, p.bundleStats = (s.currentStats i).bundleStats →
      event.eventId.isTrackerEvent = true →
        (s.setStats i p).entryOf k j =
          if j = i then reportedEntry k event launch (s.entryOf k j) else s.entryOf k j := by
    intro p hp hid
    rw [entryOf_setStats, hp, reportedEntry, if_pos hid]
    split_ifs with hj
    · rw [hj, entryOf]
    · rfl
  unfold updatePeriodStatsOf
  simp only
  split
  · next hid => exact htracker _ rfl (by rw [hid]; rfl)
  · next hid => exact htracker _ rfl (by rw [hid]; rfl)
  · next hid => exact htracker _ rfl (by rw [hid]; rfl)
  · next hid => exact htracker _ rfl (by rw [hid]; rfl)
  · next h₁ h₂ h₃ h₄ =>
    have hid : ¬ event.eventId.isTrackerEvent = true := by
      unfold EventId.isTrackerEvent
      split <;> simp_all
    rw [reportedEntry, if_neg hid]
    cases launch with
    | false =>
      have hlaunch : ¬ (false = true ∧ getBundleUsageKey event.bundleName event.uid = k) := by simp
      rw [if_neg Bool.false_ne_true, if_neg hlaunch]
      exact entryOf_updateStats s event i j k
    | true =>
      rw [if_pos rfl, entryOf_setStats]
      by_cases hj : j = i
      · have hown := entryOf_updateStats s event i j k
        rw [if_pos hj] at hown
        rw [if_pos hj, if_pos hj, ← hown, Std.TreeMap.getElem?_modify, ← hj]
        simp only [true_and, Std.LawfulEqCmp.compare_eq_iff_eq]
        split_ifs with hk
        · rw [hk]
          rfl
        · rfl
      · rw [if_neg hj, if_neg hj, entryOf_updateStats, if_neg hj]

theorem entryOf_notifyStatsChanged (s : ServiceState) (k : String) (i : IntervalType) :
    s.notifyStatsChanged.entryOf k i = s.entryOf k i := by
  unfold notifyStatsChanged
  split_ifs <;> rfl

theorem entryOf_updatePeriodStats (s : ServiceState) (event : BundleActiveEvent) (launch : Bool)
    (k : String) (i : IntervalType) :
    (s.updatePeriodStats event launch).entryOf k i =
      reportedEntry k event launch (s.entryOf k i) := by
  have hloop : (IntervalType.all.foldl (updatePeriodStatsOf event launch) s).entryOf k i =
      reportedEntry k event launch (s.entryOf k i) := by
    unfold IntervalType.all
    simp only [List.foldl_cons, List.foldl_nil, entryOf_updatePeriodStatsOf]
    cases i <;> simp
  unfold updatePeriodStats
  simp only
  split_ifs
  · rw [entryOf_notifyStatsChanged, hloop]
  · exact hloop

/-! ### Whole reports -/

variable (tz : TimeZone) {s s' : ServiceState} {i : IntervalType}

theorem entryOf_congr (h : (s'.currentStats i).bundleStats = (s.currentStats i).bundleStats) :
    s'.entryOf k i = s.entryOf k i := by
  unfold entryOf
  rw [h]

/-- A report on the entry of a usage key is the rollover and the report. -/
theorem entryOf_reportEvent (s : ServiceState) (event : BundleActiveEvent) (k : String)
    (i : IntervalType) : (s.reportEvent tz event).entryOf k i =
      reportedEntry k event ((s.renewIfExpired tz event.timeStamp).launchesBundle event)
        ((s.renewIfExpired tz event.timeStamp).entryOf k i) := by
  simp only [reportEvent]
  set s₁ := s.renewIfExpired tz event.timeStamp
  set s₂ := if event.eventId ≠ .systemInteractive ∧ event.eventId ≠ .flush then
    s₁.addDailyEvent event else s₁ with hs₂
  have hadd : s₂.entryOf k i = s₁.entryOf k i := by
    rw [hs₂]
    split_ifs
    · exact entryOf_congr (bundleStats_addDailyEvent s₁ event i)
    · rfl
  have hlaunch : s₂.launchesBundle event = s₁.launchesBundle event := by
    rw [hs₂]
    split_ifs <;> rfl
  rw [← hadd, ← hlaunch]
  split_ifs with h
  · rw [h]
    exact entryOf_updatePeriodStats _ event true k i
  · rw [Bool.not_eq_true] at h
    rw [h]
    exact entryOf_updatePeriodStats s₂ event false k i

/-- The bundle in the foreground after a report. -/
def lastForeground (last : String) (event : BundleActiveEvent) : String :=
  if event.eventId = .abilityForeground ∧ event.bundleName ≠ "" then event.bundleName else last

theorem lastForegroundBundle_updatePeriodStats (s : ServiceState) (event : BundleActiveEvent)
    (launch : Bool) : (s.updatePeriodStats event launch).lastForegroundBundle =
      s.lastForegroundBundle := by
  have hstep : ∀ (s : ServiceState) i,
      (updatePeriodStatsOf event launch s i).lastForegroundBundle = s.lastForegroundBundle := by
    intro s i
    unfold updatePeriodStatsOf
    simp only
    split <;> first | rfl | (split_ifs <;> rfl)
  have hloop : (IntervalType.all.foldl (updatePeriodStatsOf event launch) s).lastForegroundBundle =
      s.lastForegroundBundle :=
    List.foldlRecOn (motive := fun s' : ServiceState => s'.lastForegroundBundle =
      s.lastForegroundBundle) _ _ rfl fun s' ih i _ => (hstep s' i).trans ih
  rw [← hloop]
  unfold updatePeriodStats notifyStatsChanged
  simp only
  split_ifs <;> rfl

theorem lastForegroundBundle_reportEvent (s : ServiceState) (event : BundleActiveEvent) :
    (s.reportEvent tz event).lastForegroundBundle =
      lastForeground (s.renewIfExpired tz event.timeStamp).lastForegroundBundle event := by
  simp only [reportEvent]
  set s₁ := s.renewIfExpired tz event.timeStamp
  set s₂ := if event.eventId ≠ .systemInteractive ∧ event.eventId ≠ .flush then
    s₁.addDailyEvent event else s₁ with hs₂
  have hadd : s₂.lastForegroundBundle = s₁.lastForegroundBundle := by
    rw [hs₂]
    split_ifs <;> rfl
  rw [← hadd]
  split_ifs with hlaunch
  · obtain ⟨hid, hnamed, -⟩ := of_decide_eq_true hlaunch
    rw [lastForegroundBundle_updatePeriodStats, lastForeground, if_pos ⟨hid, hnamed⟩]
  · rw [lastForegroundBundle_updatePeriodStats, lastForeground]
    split_ifs with hforeground
    · by_contra hne
      exact hlaunch (decide_eq_true ⟨hforeground.1, hforeground.2, Ne.symm hne⟩)
    · rfl

end ServiceState
end DeviceUsageStats
