import DeviceUsageStats.Lib.Unwinding
import DeviceUsageStats.Proofs.MergeStats
import DeviceUsageStats.Sanity.HistoryOps
import DeviceUsageStats.Sanity.PeriodEntries
import DeviceUsageStats.Sanity.UsageKeys

/-! Whether two bundles interfere. What is kept of a bundle (its entries in the period stats, its group
history, its merged totals) is found under its usage key alone, so the events of another bundle leave it as
it is if the keys differ, and each of the three shows them if the keys are equal. Shutdowns and flushes
are events of the device and not of a bundle. -/

namespace DeviceUsageStats

open Unwinding

abbrev BundleIdentity := String × ℤ

namespace BundleIdentity

def key (p : BundleIdentity) : String := getBundleUsageKey p.1 p.2

def owns (p : BundleIdentity) (event : BundleActiveEvent) : Bool :=
  event.bundleName = p.1 ∧ event.uid = p.2 ∧ event.eventId ≠ .shutdown ∧ event.eventId ≠ .flush

/-- The other name is this one and a beginning of this decimal uid, and the rest of this uid is the
other. -/
def Absorbs (p q : BundleIdentity) : Prop :=
  ∃ d : String, q.1 = p.1 ++ d ∧ toString p.2 = d ++ toString q.2

theorem key_eq_iff (p q : BundleIdentity) : p.key = q.key ↔ p.Absorbs q ∨ q.Absorbs p := by
  unfold key getBundleUsageKey Absorbs
  simp only [← String.toList_inj, String.toList_append, List.append_eq_append_iff]
  refine or_congr ⟨?_, ?_⟩ ⟨?_, ?_⟩
  · rintro ⟨d, hname, huid⟩
    exact ⟨String.ofList d, by simpa using hname, by simpa using huid⟩
  · rintro ⟨d, hname, huid⟩
    exact ⟨d.toList, by simpa using hname, by simpa using huid⟩
  · rintro ⟨d, hname, huid⟩
    exact ⟨String.ofList d, by simpa using hname, by simpa using huid⟩
  · rintro ⟨d, hname, huid⟩
    exact ⟨d.toList, by simpa using hname, by simpa using huid⟩

variable {p q : BundleIdentity}

theorem owns_key {event : BundleActiveEvent} (h : q.owns event = true) :
    getBundleUsageKey event.bundleName event.uid = q.key ∧
      ¬ (event.eventId = .shutdown ∨ event.eventId = .flush) := by
  unfold owns at h
  obtain ⟨hname, huid, hshutdown, hflush⟩ := of_decide_eq_true h
  exact ⟨by rw [key, hname, huid], not_or.2 ⟨hshutdown, hflush⟩⟩

/-! ### Package stats -/

open ServiceState (lastForeground)

/-- Reports of one day. Whether a foreground event under the key of the first bundle counts a launch, as the
last bundle in the foreground was another, does not hang on the events of the second. -/
structure Undisturbed (p q : BundleIdentity) (s : ServiceState) (l : List BundleActiveEvent) : Prop where
  sameDay : ∀ event ∈ l, event.timeStamp < s.dailyExpiryDate.time
  launches : ∀ l₁ event l₂, l = l₁ ++ event :: l₂ →
    getBundleUsageKey event.bundleName event.uid = p.key → event.eventId = .abilityForeground →
      event.bundleName ≠ "" → (event.bundleName = l₁.foldl lastForeground s.lastForegroundBundle ↔
        event.bundleName = (l₁.filter (!q.owns ·)).foldl lastForeground s.lastForegroundBundle)

theorem Undisturbed.init {s : ServiceState} {l l' : List BundleActiveEvent}
    (h : Undisturbed p q s (l ++ l')) : Undisturbed p q s l where
  sameDay event hmem := h.sameDay event (List.mem_append_left _ hmem)
  launches l₁ event l₂ hl := h.launches l₁ event (l₂ ++ l') (by rw [hl]; simp)

/-- After undisturbed reports the entries of the first bundle in the four period stats are those without the
events of the second. -/
def StatsApart (p q : BundleIdentity) : Prop :=
  ∀ (tz : TimeZone) (s : ServiceState) (l : List BundleActiveEvent), Undisturbed p q s l →
    (l.foldl (ServiceState.reportEvent tz) s).entryOf p.key =
      ((l.filter (!q.owns ·)).foldl (ServiceState.reportEvent tz) s).entryOf p.key

section Reports

variable (tz : TimeZone) {s : ServiceState} {event : BundleActiveEvent}

theorem renewIfExpired_of_lt (h : event.timeStamp < s.dailyExpiryDate.time) :
    s.renewIfExpired tz event.timeStamp = s := if_neg (not_le.2 h)

theorem foldl_reportEvent_sameDay (l : List BundleActiveEvent)
    (h : ∀ event ∈ l, event.timeStamp < s.dailyExpiryDate.time) :
    (l.foldl (ServiceState.reportEvent tz) s).dailyExpiryDate = s.dailyExpiryDate ∧
      (l.foldl (ServiceState.reportEvent tz) s).lastForegroundBundle =
        l.foldl lastForeground s.lastForegroundBundle := by
  induction l generalizing s with
  | nil => exact ⟨rfl, rfl⟩
  | cons event l ih =>
    have hrenew := renewIfExpired_of_lt tz (h event (List.mem_cons_self ..))
    have hexpiry : (s.reportEvent tz event).dailyExpiryDate = s.dailyExpiryDate :=
      ((ServiceState.keptInMemory_memoryOnly s).reportEvent tz event
        (by rw [hrenew]; exact .refl s)).expiry
    obtain ⟨hexpiry', hlast⟩ := ih (s := s.reportEvent tz event) fun event' hmem => by
      rw [hexpiry]
      exact h event' (List.mem_cons_of_mem _ hmem)
    rw [List.foldl_cons, List.foldl_cons, hexpiry', hlast, hexpiry,
      ServiceState.lastForegroundBundle_reportEvent, hrenew]
    exact ⟨rfl, rfl⟩

theorem reportedEntry_launch {k : String} {launch launch' : Bool}
    (h : getBundleUsageKey event.bundleName event.uid = k → launch = launch')
    (e : Option BundleActivePackageStats) :
    reportedEntry k event launch e = reportedEntry k event launch' e := by
  by_cases hk : getBundleUsageKey event.bundleName event.uid = k
  · rw [h hk]
  · simp only [reportedEntry, hk, and_false, if_false]

theorem statsApart (h : p.key ≠ q.key) : StatsApart p q := by
  intro tz s l hl
  induction l using List.reverseRecOn with
  | nil => rfl
  | append_singleton l event ih =>
    have ih := ih hl.init
    have hday : event.timeStamp < s.dailyExpiryDate.time := hl.sameDay event (by simp)
    obtain ⟨hexpiry, hlast⟩ := foldl_reportEvent_sameDay tz l hl.init.sameDay
    obtain ⟨hexpiry', hlast'⟩ := foldl_reportEvent_sameDay tz (l.filter (!q.owns ·))
      fun event hmem => hl.init.sameDay event (List.mem_of_mem_filter hmem)
    rw [List.foldl_append, List.filter_append]
    set s₁ := l.foldl (ServiceState.reportEvent tz) s
    set t₁ := (l.filter (!q.owns ·)).foldl (ServiceState.reportEvent tz) s with ht₁
    funext i
    rw [List.foldl_cons, List.foldl_nil, ServiceState.entryOf_reportEvent,
      renewIfExpired_of_lt tz (hexpiry.symm ▸ hday), congrFun ih i]
    cases hq : q.owns event with
    | true =>
      obtain ⟨hkey, htick⟩ := owns_key hq
      rw [reportedEntry_of_ne htick fun heq => h (heq.symm.trans hkey)]
      simp [hq, ht₁]
    | false =>
      have hlaunch : getBundleUsageKey event.bundleName event.uid = p.key →
          s₁.launchesBundle event = t₁.launchesBundle event := by
        intro hkey
        unfold ServiceState.launchesBundle
        rw [hlast, hlast', decide_eq_decide]
        refine and_congr_right fun hid => and_congr_right fun hnamed => not_congr ?_
        exact hl.launches l event [] rfl hkey hid hnamed
      rw [reportedEntry_launch hlaunch]
      simp [hq, ← ht₁, ServiceState.entryOf_reportEvent,
        renewIfExpired_of_lt tz (hexpiry'.symm ▸ hday)]

theorem launch_of_reportedEntry {k : String} {launch launch' : Bool}
    (hkey : getBundleUsageKey event.bundleName event.uid = k) (hid : event.eventId = .abilityForeground)
    {e : Option BundleActivePackageStats}
    (h : reportedEntry k event launch e = reportedEntry k event launch' e) : launch = launch' := by
  obtain ⟨r, hr⟩ : ∃ r, updatedEntry k event e = some r := by
    unfold updatedEntry
    simp [hid, hkey, EventId.isBundleEvent]
  have hcount : r.incrementBundleLaunchedCount ≠ r := fun heq => by
    have hcounts := congrArg BundleActivePackageStats.bundleStartedCount heq
    simp [BundleActivePackageStats.incrementBundleLaunchedCount] at hcounts
  have hreported : ∀ launch, reportedEntry k event launch e =
      some (if launch then r.incrementBundleLaunchedCount else r) := fun launch => by
    unfold reportedEntry
    cases launch <;> simp [hid, hkey, hr, EventId.isTrackerEvent]
  rw [hreported, hreported, Option.some_inj] at h
  cases launch <;> cases launch'
  · rfl
  · exact absurd h.symm hcount
  · exact absurd h hcount
  · rfl

/-- Within a day and with different keys the condition on the launches is exact. -/
theorem undisturbed_iff (h : p.key ≠ q.key) {l : List BundleActiveEvent}
    (hday : ∀ event ∈ l, event.timeStamp < s.dailyExpiryDate.time) :
    Undisturbed p q s l ↔ ∀ l₁, l₁ <+: l → (l₁.foldl (ServiceState.reportEvent tz) s).entryOf p.key =
      ((l₁.filter (!q.owns ·)).foldl (ServiceState.reportEvent tz) s).entryOf p.key := by
  refine ⟨fun hl l₁ ⟨l₂, hsplit⟩ => statsApart h tz s l₁ (hsplit ▸ hl).init, fun hsame =>
    ⟨hday, fun l₁ event l₂ hl hkey hid hnamed => ?_⟩⟩
  have hfirst : ∀ event ∈ l₁, event.timeStamp < s.dailyExpiryDate.time := fun event hmem =>
    hday event (by rw [hl]; exact List.mem_append_left _ hmem)
  have hevent : event.timeStamp < s.dailyExpiryDate.time := hday event (by rw [hl]; simp)
  obtain ⟨hexpiry, hlast⟩ := foldl_reportEvent_sameDay tz l₁ hfirst
  obtain ⟨hexpiry', hlast'⟩ := foldl_reportEvent_sameDay tz (l₁.filter (!q.owns ·))
    fun event hmem => hfirst event (List.mem_of_mem_filter hmem)
  have hbefore := hsame l₁ ⟨event :: l₂, hl.symm⟩
  have hafter := congrFun (hsame (l₁ ++ [event]) ⟨l₂, by rw [hl]; simp⟩) IntervalType.daily
  have hshown : q.owns event = false := by
    rw [← Bool.not_eq_true]
    exact fun howns => h (hkey.symm.trans (owns_key howns).1)
  rw [List.foldl_append, List.filter_append, List.filter_cons_of_pos (by simp [hshown]),
    List.filter_nil, List.foldl_append, List.foldl_cons, List.foldl_nil, List.foldl_cons,
    List.foldl_nil, ServiceState.entryOf_reportEvent, ServiceState.entryOf_reportEvent,
    renewIfExpired_of_lt tz (hexpiry.symm ▸ hevent), renewIfExpired_of_lt tz (hexpiry'.symm ▸ hevent),
    hbefore] at hafter
  have hlaunch := launch_of_reportedEntry hkey hid hafter
  unfold ServiceState.launchesBundle at hlaunch
  rw [hlast, hlast', decide_eq_decide] at hlaunch
  simpa [hid, hnamed, not_iff_not] using hlaunch

end Reports

def useOf (q : BundleIdentity) : BundleActiveEvent :=
  { bundleName := q.1, uid := q.2, eventId := .abilityForeground }

theorem owns_useOf (q : BundleIdentity) : q.owns q.useOf = true := by simp [owns, useOf]

theorem not_statsApart (h : p.key = q.key) : ¬ StatsApart p q := by
  intro hapart
  set s : ServiceState := { userId := 0, dailyExpiryDate := { time := 1 } } with hs
  have hday : q.useOf.timeStamp < s.dailyExpiryDate.time := Int.zero_lt_one
  have hundisturbed : Undisturbed p q s [q.useOf] := by
    refine ⟨fun event hmem => List.mem_singleton.1 hmem ▸ hday, fun l₁ event l₂ hl _ _ _ => ?_⟩
    obtain rfl : l₁ = [] := by
      rcases l₁ with _ | ⟨x, l₁⟩
      · rfl
      · simp at hl
    rfl
  have hentry := congrFun (hapart utc s [q.useOf] hundisturbed) IntervalType.daily
  rw [List.filter_cons_of_neg (by simp [owns_useOf]), List.foldl_cons, List.foldl_nil,
    ServiceState.entryOf_reportEvent, renewIfExpired_of_lt utc hday] at hentry
  have hused : ∀ launch, (reportedEntry p.key q.useOf launch none).isSome = true := fun launch => by
    rw [h]
    cases launch <;>
      simp [reportedEntry, updatedEntry, useOf, EventId.isTrackerEvent, EventId.isBundleEvent, key]
  change reportedEntry p.key q.useOf _ none = none at hentry
  have hnone := hused (s.launchesBundle q.useOf)
  rw [hentry] at hnone
  cases hnone

/-! ### Group histories -/

/-- A report to the group controller: the event, the clock, the user and whether the bundle is
installed. -/
structure GroupReport where
  event : BundleActiveEvent
  bootBasedTimeStamp : ℤ
  userId : ℤ
  isBundleInstalled : Bool

def GroupReport.apply (c : BundleActiveGroupController) (s : HistoryState) (r : GroupReport) :
    HistoryState :=
  c.reportEvent s r.event r.bootBasedTimeStamp r.userId r.isBundleInstalled

/-- Reports to the group controller: the events of the second bundle do not change the history of the
first, for any user. -/
def HistoryApart (p q : BundleIdentity) : Prop :=
  ∀ c : BundleActiveGroupController, NonInterfering HistoryState.Named (GroupReport.apply c)
    (fun r => q.owns r.event) (fun s userId => s.historyOf userId p.key)

/-- The clocks of two states and the histories of a key agree. -/
structure SameHistory (k : String) (s t : HistoryState) : Prop where
  left : s.Named
  right : t.Named
  clocks : { s.toBundleActiveUserHistory with userHistory := {} } =
    { t.toBundleActiveUserHistory with userHistory := {} }
  history : ∀ userId, s.historyOf userId k = t.historyOf userId k

variable {k : String} {s s' t t' : HistoryState}

open HistoryState (Puts)

theorem SameHistory.found (h : SameHistory k s t) {b : String} {uid : ℤ}
    (hk : getBundleUsageKey b uid = k) (u time : ℤ) :
    s.foundHistory b u time uid = t.foundHistory b u time uid := by
  have hnew : s.newUsageHistory b time uid = t.newUsageHistory b time uid :=
    congrArg (·.newUsageHistory b time uid) h.clocks
  rw [HistoryState.foundHistory, HistoryState.foundHistory, hk, h.history, hnew]

theorem SameHistory.reported (h : SameHistory k s t) (c : BundleActiveGroupController)
    (e : BundleActivePackageHistory) (event : BundleActiveEvent) (reason : ℕ) (time u : ℤ) :
    HistoryState.reportedHistory c s e event reason time u =
      HistoryState.reportedHistory c t e event reason time u := by
  have hreported := congrArg (fun h : BundleActiveUserHistory =>
    (h.reportUsage e event (c.usageOf event time).1 reason (c.usageOf event time).2.1
      (c.usageOf event time).2.2 u).1) h.clocks
  exact hreported

theorem clocks_of_puts {u : ℤ} {k' : String} {e : BundleActivePackageHistory}
    (h : Puts u k' e s s') : { s'.toBundleActiveUserHistory with userHistory := {} } =
      { s.toBundleActiveUserHistory with userHistory := {} } := by
  rw [h.object]

theorem SameHistory.puts (h : SameHistory k s t) {u : ℤ} {k' : String}
    {e e' : BundleActivePackageHistory} (hs : Puts u k' e s s') (ht : Puts u k' e' t t')
    (he : k' = k → e = e') : SameHistory k s' t' where
  left := hs.named h.left
  right := ht.named h.right
  clocks := by rw [clocks_of_puts hs, clocks_of_puts ht, h.clocks]
  history userId := by
    rw [hs.entry, ht.entry, h.history]
    split_ifs with hown
    · rw [he hown.2.symm]
    · rfl

theorem SameHistory.puts_left (h : SameHistory k s t) {u : ℤ} {k' : String}
    {e : BundleActivePackageHistory} (hs : Puts u k' e s s') (hk : k' ≠ k) :
    SameHistory k s' t where
  left := hs.named h.left
  right := h.right
  clocks := by rw [clocks_of_puts hs, h.clocks]
  history userId := by
    rw [hs.entry, if_neg fun hown => hk hown.2.symm, h.history]

theorem unwinds_groupReport (h : p.key ≠ q.key) (c : BundleActiveGroupController) :
    Unwinds (GroupReport.apply c) (fun r => q.owns r.event) (SameHistory p.key) where
  consistent s t r hst := by
    unfold GroupReport.apply
    by_cases hidle : c.bundleGroupEnable = false ∨ r.isBundleInstalled = false ∨
        eventIdMatchReason r.event.eventId = none
    · rwa [HistoryState.reportEvent_of_idle hidle, HistoryState.reportEvent_of_idle hidle]
    · obtain ⟨henable, hinstalled, hreason⟩ : c.bundleGroupEnable = true ∧
          r.isBundleInstalled = true ∧ eventIdMatchReason r.event.eventId ≠ none := by
        simpa using hidle
      obtain ⟨reason, hreason⟩ := Option.ne_none_iff_exists'.1 hreason
      rw [hinstalled]
      refine hst.puts (HistoryState.puts_reportEvent hst.left _ henable hreason _ _)
        (HistoryState.puts_reportEvent hst.right _ henable hreason _ _) fun hk => ?_
      rw [hst.found hk, hst.reported]
  respects s t r hr hst := by
    obtain ⟨hkey, -⟩ := owns_key hr
    rcases HistoryState.reportEvent_spec (c := c) hst.left r.event r.bootBasedTimeStamp r.userId
      r.isBundleInstalled with heq | ⟨reason, -, hputs⟩
    · unfold GroupReport.apply
      rwa [heq]
    · exact hst.puts_left hputs fun heq => h (heq.symm.trans hkey)

theorem historyApart (h : p.key ≠ q.key) : HistoryApart p q := fun c =>
  (unwinds_groupReport h c).nonInterfering (fun _ hs => ⟨hs, hs, rfl, fun _ => rfl⟩)
    fun _ _ hst => funext hst.history

theorem not_historyApart (h : p.key = q.key) : ¬ HistoryApart p q := by
  intro hapart
  have hnamed : (HistoryState.new {} 0).Named := rfl
  refine not_nonInterfering (s := HistoryState.new {} 0) (a := ⟨q.useOf, 0, 0, true⟩) hnamed
    (owns_useOf q) (fun hview => ?_) (hapart {})
  have hputs := HistoryState.puts_reportEvent (c := {}) hnamed q.useOf rfl
    (rfl : _ = some groupEventReasonForeground) 0 0
  have hentry := congrFun hview 0
  rw [h] at hentry
  have hself : ((HistoryState.new {} 0).historyOf 0 q.key) ≠ none := by
    rw [← hentry]
    exact ne_of_eq_of_ne hputs.self (Option.some_ne_none _)
  exact hself rfl

/-! ### Merged totals -/

def mergedOf (p : BundleIdentity) (packageStats : List BundleActivePackageStats) :
    Option BundleActivePackageStats :=
  (mergePackageStats packageStats).find? (·.identity = p)

/-- Merges: the statistics of the second bundle do not change the merged entry of the first. -/
def MergedApart (p q : BundleIdentity) : Prop :=
  ∀ packageStats : List BundleActivePackageStats,
    p.mergedOf packageStats = p.mergedOf (packageStats.filter (·.identity ≠ q))

theorem usageKey_mergeSamePackageStats (left right : BundleActivePackageStats) :
    (mergeSamePackageStats left right).usageKey = left.usageKey :=
  BundleActivePackageStats.usageKey_eq ((SameOtherFields.refl left).merge right).identity

theorem usageKey_foldl_mergeInto (l : List BundleActivePackageStats) (hl : ∀ s ∈ l, s.usageKey = k)
    {r : BundleActivePackageStats} (hr : l.foldl mergeInto none = some r) : r.usageKey = k := by
  induction l using List.reverseRecOn generalizing r with
  | nil => cases hr
  | append_singleton l s ih =>
    rw [List.foldl_append] at hr
    obtain rfl := Option.some.inj hr
    cases hmerged : l.foldl mergeInto none with
    | none => exact hl s (by simp)
    | some left =>
      exact (usageKey_mergeSamePackageStats left s).trans
        (ih (fun s' hs' => hl s' (List.mem_append_left _ hs')) hmerged)

theorem usageKey_merged {packageStats : List BundleActivePackageStats} {r : BundleActivePackageStats}
    (hr : (packageStats.foldl mergePackageStat {})[k]? = some r) : r.usageKey = k := by
  rw [getElem?_merged] at hr
  exact usageKey_foldl_mergeInto _ (fun s hs => of_decide_eq_true (List.mem_filter.1 hs).2) hr

theorem mergedOf_eq (p : BundleIdentity) (packageStats : List BundleActivePackageStats) :
    p.mergedOf packageStats =
      ((packageStats.foldl mergePackageStat {})[p.key]?).filter (·.identity = p) := by
  have hentry : ∀ r, r ∈ mergePackageStats packageStats → r.identity = p →
      (packageStats.foldl mergePackageStat {})[p.key]? = some r := by
    intro r hr hid
    obtain ⟨k, hk⟩ := mem_mergePackageStats.1 hr
    have hkey : p.key = k := by
      rw [← usageKey_merged hk, ← hid]
      rfl
    rw [hkey, hk]
  unfold mergedOf
  ext r
  rw [Option.filter_eq_some_iff]
  refine ⟨fun hfind => ?_, fun ⟨hkey, hid⟩ => ?_⟩
  · have hid := List.find?_some hfind
    exact ⟨hentry r (List.mem_of_find?_eq_some hfind) (of_decide_eq_true hid), hid⟩
  · have hmem : r ∈ mergePackageStats packageStats := mem_mergePackageStats.2 ⟨_, hkey⟩
    obtain ⟨r', hr'⟩ : ∃ r', (mergePackageStats packageStats).find? (·.identity = p) = some r' :=
      Option.isSome_iff_exists.1 (List.find?_isSome.2 ⟨r, hmem, hid⟩)
    have hid' := List.find?_some hr'
    have hkey' := hentry r' (List.mem_of_find?_eq_some hr') (of_decide_eq_true hid')
    rw [hr', ← hkey', hkey]

theorem mergedApart (h : p.key ≠ q.key) : MergedApart p q := by
  intro packageStats
  rw [mergedOf_eq, mergedOf_eq, stepAt_mergePackageStat.getElem?_foldl_filter]
  intro s hs
  refine decide_eq_true fun hq => h ?_
  rw [← hs, ← hq]
  rfl

/-- An entry of a bundle. -/
def statsOf (p : BundleIdentity) : BundleActivePackageStats := { bundleName := p.1, uid := p.2 }

theorem identity_statsOf (p : BundleIdentity) : p.statsOf.identity = p := rfl

theorem usageKey_statsOf (p : BundleIdentity) : p.statsOf.usageKey = p.key := rfl

theorem not_mergedApart (hne : p ≠ q) (h : p.key = q.key) : ¬ MergedApart p q := by
  intro hapart
  have hmerged := hapart [q.statsOf, p.statsOf]
  have hid : (mergeSamePackageStats q.statsOf p.statsOf).identity = q :=
    ((SameOtherFields.refl q.statsOf).merge p.statsOf).identity
  rw [mergedOf_eq, mergedOf_eq, getElem?_merged, getElem?_merged] at hmerged
  simp [identity_statsOf, usageKey_statsOf, h, hne, mergeInto] at hmerged
  rw [Option.filter_some, Option.filter_some, if_neg (by simpa [hid] using hne.symm),
    if_pos (by simp [identity_statsOf])] at hmerged
  cases hmerged

/-! ### Interference -/

/-- Neither bundle changes what is kept of the other, and their usage keys differ. -/
structure Apart (p q : BundleIdentity) : Prop where
  stats : StatsApart p q ∧ StatsApart q p
  history : HistoryApart p q ∧ HistoryApart q p
  merged : MergedApart p q ∧ MergedApart q p
  key : p.key ≠ q.key

/-- Two bundles are apart exactly if neither absorbs the other; if one does, they interfere in each of
the three, in both directions. -/
theorem apart_iff (p q : BundleIdentity) (hne : p ≠ q) :
    (Apart p q ↔ ¬ p.Absorbs q ∧ ¬ q.Absorbs p) ∧
      (p.Absorbs q ∨ q.Absorbs p →
        (¬ StatsApart p q ∧ ¬ StatsApart q p) ∧ (¬ HistoryApart p q ∧ ¬ HistoryApart q p) ∧
          (¬ MergedApart p q ∧ ¬ MergedApart q p) ∧ p.key = q.key) := by
  rw [← not_or, ← key_eq_iff]
  refine ⟨⟨fun h => h.key, fun h => ?_⟩, fun h => ?_⟩
  · have h' := Ne.symm h
    exact ⟨⟨statsApart h, statsApart h'⟩, ⟨historyApart h, historyApart h'⟩,
      ⟨mergedApart h, mergedApart h'⟩, h⟩
  · exact ⟨⟨not_statsApart h, not_statsApart h.symm⟩, ⟨not_historyApart h, not_historyApart h.symm⟩,
      ⟨not_mergedApart hne h, not_mergedApart hne.symm h.symm⟩, h⟩

/-- Two applications of one user, the second of whose names ends in a digit. -/
def app : BundleIdentity := ("com.example.app", 120010)
def appOne : BundleIdentity := ("com.example.app1", 20010)

theorem apart_iff_apps : ¬ Apart app appOne := fun h =>
  ((apart_iff app appOne (by decide)).1.1 h).1 ⟨"1", by decide, by decide⟩

theorem not_apart_apps :
    app ≠ appOne ∧ app.key = appOne.key ∧ ¬ Apart app appOne ∧
      ¬ StatsApart app appOne ∧ ¬ HistoryApart app appOne ∧ ¬ MergedApart app appOne := by
  have hne : app ≠ appOne := by decide
  have hkey : app.key = appOne.key := by decide
  exact ⟨hne, hkey, fun h => h.key hkey, not_statsApart hkey, not_historyApart hkey,
    not_mergedApart hne hkey⟩

end BundleIdentity
end DeviceUsageStats
