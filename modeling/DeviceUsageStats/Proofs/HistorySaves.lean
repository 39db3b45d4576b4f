import DeviceUsageStats.Proofs.GroupAgeing

/-! Saves of the histories. While every check finds an entry for its bundle and no report moves the
first-use time of a forced entry back, an entry that is not marked as changed is the entry of its row, so
a load after a save gives every entry back. -/

namespace DeviceUsageStats
namespace HistoryState

variable {s s' : HistoryState} {u uid t : ℤ} {k b : String} {e : BundleActivePackageHistory}
  {c : BundleActiveGroupController}

/-- The row of an entry holds all of its persisted fields. -/
def InRow (e : BundleActivePackageHistory) (row : Option BundleHistoryRow) : Prop :=
  row.map loadedHistory = some e

theorem saveLaw_inRow : SaveLaw InRow where
  loaded _ := rfl
  written _ _ := rfl

/-- A check finds an entry, or the one that it creates has a group to be held up in: the clock is before
its (unset) timeouts. -/
def CheckFinds (c : BundleActiveGroupController) (s : HistoryState) (bundleName : String)
    (userId uid bootBasedTimeStamp : ℤ) : Prop :=
  (s.historyOf userId (getBundleUsageKey bundleName uid)).isSome ∨
    s.getBootBasedTimeStamp bootBasedTimeStamp < 0 ∧
      ∃ i, c.screenTimeLevel i ≤ 0 ∧ c.bootTimeLevel i ≤ 0

/-- A report of a forced entry that is not marked does not move its first-use time. -/
def ReportKeepsFirstUse (c : BundleActiveGroupController) (s : HistoryState)
    (event : BundleActiveEvent) (userId : ℤ) (isBundleInstalled : Bool) : Prop :=
  c.bundleGroupEnable = true → isBundleInstalled = true →
    (eventIdMatchReason event.eventId).isSome → ∀ e,
      s.historyOf userId (getBundleUsageKey event.bundleName event.uid) = some e → e.IsForced →
      e.isChanged = false → e.bundlefirstUseTimeStamp ≤ event.timeStamp

/-- Reports, settings, checks, saves and restarts that mark what they change. -/
def MarksChanges (c : BundleActiveGroupController) (s : HistoryState) : HistoryOp → Prop
  | .reportEvent event _ userId isBundleInstalled =>
    ReportKeepsFirstUse c s event userId isBundleInstalled
  | .checkAndUpdateGroup bundleName userId uid bootBasedTimeStamp =>
    CheckFinds c s bundleName userId uid bootBasedTimeStamp
  | .checkEachBundleState userId allBundlesForUser bootBasedTimeStamp =>
    ∀ oneBundle ∈ allBundlesForUser, CheckFinds c s oneBundle.1 userId oneBundle.2 bootBasedTimeStamp
  | .onBundleUninstalled _ _ _ _ => False
  | .onUserRemoved _ => False
  | _ => True

/-- Unmarked entries are in their rows, and every row is the row of an entry. -/
structure Persistent (s : HistoryState) : Prop where
  inv : Inv InRow s
  covered : ∀ u k, s.historyOf u k = none → s.stored u k = none

theorem Persistent.keyFree (h : Persistent s) (u : ℤ) (b : String) (uid : ℤ) : KeyFree s u b uid := by
  intro hnone row hrow
  rw [h.covered u _ hnone] at hrow
  cases hrow

theorem persistent_new (tables : HistoryTables) (t : ℤ) : Persistent (new tables t) where
  inv := inv_new saveLaw_inRow tables t
  covered u k hnone := by
    rw [historyOf_new] at hnone
    exact Option.map_eq_none_iff.1 hnone

theorem Persistent.puts (h : Persistent s) (hputs : Puts u (getBundleUsageKey b uid) e s s') (t : ℤ)
    (hident : e.bundleName = (s.foundHistory b u t uid).bundleName ∧
      e.uid = (s.foundHistory b u t uid).uid)
    (hsaved : e.isChanged = false → InRow e (s.stored u (getBundleUsageKey b uid))) :
    Persistent s' where
  inv := hputs.inv_found h.inv (h.keyFree u b uid) hident hsaved
  covered u' k' hnone := by
    rw [hputs.entry] at hnone
    rw [hputs.stored]
    split_ifs at hnone
    exact h.covered u' k' hnone

theorem Persistent.writeBundleUsage (h : Persistent s) (u : ℤ) :
    Persistent (s.writeBundleUsage u) where
  inv := h.inv.writeBundleUsage saveLaw_inRow u
  covered u' k hnone := by
    by_cases hu : u ∈ s.userHistory
    · rw [historyOf_writeBundleUsage h.inv.toKept hu] at hnone
      rw [stored_writeBundleUsage h.inv.toKept hu]
      split_ifs at hnone ⊢ with heq
      · rw [Option.map_eq_none_iff] at hnone
        rw [hnone, heq]
        exact h.covered u k hnone
      · exact h.covered u' k hnone
    · rw [writeBundleUsage_of_not_mem hu] at hnone ⊢
      exact h.covered u' k hnone

/-- An entry that a lookup finds unmarked is in its row. -/
theorem Persistent.found (h : Persistent s)
    (he : s.historyOf u (getBundleUsageKey b uid) = some e)
    (hchanged : (s.foundHistory b u t uid).isChanged = false) :
    InRow (s.foundHistory b u t uid) (s.stored u (getBundleUsageKey b uid)) := by
  have hfound : s.foundHistory b u t uid = e := by
    rw [foundHistory, he]
    rfl
  rw [hfound] at hchanged ⊢
  exact h.inv.saved u _ e he hchanged

theorem inRow_reportedHistory (h : Persistent s) {event : BundleActiveEvent} {eventReason : ℕ}
    (keeps : ∀ e, s.historyOf u (getBundleUsageKey event.bundleName event.uid) = some e → e.IsForced →
      e.isChanged = false → e.bundlefirstUseTimeStamp ≤ event.timeStamp)
    (hchanged : (reportedHistory c s (s.foundHistory event.bundleName u t event.uid) event eventReason
      t u).isChanged = false) :
    InRow (reportedHistory c s (s.foundHistory event.bundleName u t event.uid) event eventReason t u)
      (s.stored u (getBundleUsageKey event.bundleName event.uid)) := by
  by_cases forced : (s.foundHistory event.bundleName u t event.uid).IsForced
  · rw [reportedHistory_of_forced forced] at hchanged ⊢
    cases he : s.historyOf u (getBundleUsageKey event.bundleName event.uid) with
    | none =>
      rw [foundHistory, he] at forced
      exact absurd forced (not_forced_newUsageHistory _ _ t _)
    | some e =>
      have hfound : s.foundHistory event.bundleName u t event.uid = e := by
        rw [foundHistory, he]
        rfl
      have hsame : ({ s.foundHistory event.bundleName u t event.uid with
          bundlefirstUseTimeStamp := min
            (s.foundHistory event.bundleName u t event.uid).bundlefirstUseTimeStamp
            event.timeStamp } : BundleActivePackageHistory) =
          s.foundHistory event.bundleName u t event.uid := by
        rw [hfound] at forced hchanged ⊢
        rw [min_eq_left (keeps e he forced hchanged)]
      rw [hsame]
      exact h.found he hchanged
  · obtain ⟨e₁, -, -, heq⟩ :=
      reportedHistory_of_not_forced (c := c) (s := s) forced event eventReason t u
    rw [heq, (useHistory_spec _ e₁ _ _ _ _ _).2.2.2] at hchanged
    cases hchanged

theorem checkedHistory_of_not_changed (h : (checkedHistory c s e t).isChanged = false) :
    checkedHistory c s e t = e := by
  unfold checkedHistory at h ⊢
  split_ifs at h ⊢
  · rfl
  · split at h
    · rfl
    · split_ifs at h ⊢
      · unfold setHistory at h ⊢
        split_ifs at h ⊢
        rfl
      · rfl

/-- A fresh entry is held up in the most active group while the clock is before its unset timeouts. -/
theorem changed_checkedHistory_new (b : String) (uid : ℤ) (hclock : s.getBootBasedTimeStamp t < 0)
    {i : Fin 4} (hscreen : c.screenTimeLevel i ≤ 0) (hboot : c.bootTimeLevel i ≤ 0) :
    (checkedHistory c s (s.newUsageHistory b t uid) t).isChanged = true := by
  have hreached : Reached c s (s.newUsageHistory b t uid) t i := by
    constructor
    · have hdiff : s.getScreenOnTimeStamp t -
          (s.newUsageHistory b t uid).lastScreenUsedTimeStamp = 0 := sub_self _
      omega
    · have hdiff : s.getBootBasedTimeStamp t -
          (s.newUsageHistory b t uid).lastBootFromUsedTimeStamp = 0 := sub_self _
      omega
  have hages : Ages (s.newUsageHistory b t uid) := by
    left
    change groupControlReasonDefault &&& groupControlReasonMask = groupControlReasonDefault
    decide
  have hgroup := checkedHistory_group (c := c) (s := s) (t := t) hages
  cases hlevel : levelOf c s (s.newUsageHistory b t uid) t with
  | none => exact absurd hreached (levelOf_eq_none.1 hlevel i)
  | some j =>
    have hheld : (s.newUsageHistory b t uid).bundleAliveTimeoutTimeStamp >
        s.getBootBasedTimeStamp t := hclock
    rw [hlevel, Option.map_some, Option.getD_some, agedGroup, if_pos hheld] at hgroup
    by_contra hchanged
    rw [checkedHistory_of_not_changed (Bool.not_eq_true _ ▸ hchanged)] at hgroup
    exact absurd hgroup (by decide : activeGroupNever ≠ activeGroupAlive)

theorem inRow_checkedHistory (h : Persistent s) (finds : CheckFinds c s b u uid t)
    (hchanged : (checkedHistory c s (s.foundHistory b u t uid) t).isChanged = false) :
    InRow (checkedHistory c s (s.foundHistory b u t uid) t)
      (s.stored u (getBundleUsageKey b uid)) := by
  have hsame := checkedHistory_of_not_changed hchanged
  cases he : s.historyOf u (getBundleUsageKey b uid) with
  | some e =>
    rw [hsame] at hchanged ⊢
    exact h.found he hchanged
  | none =>
    rcases finds with hsome | ⟨hclock, i, hscreen, hboot⟩
    · rw [he] at hsome
      cases hsome
    · rw [foundHistory, he, Option.getD_none, changed_checkedHistory_new b uid hclock hscreen hboot]
        at hchanged
      cases hchanged

theorem Persistent.check (h : Persistent s) (finds : CheckFinds c s b u uid t) :
    Persistent (c.checkAndUpdateGroup s b u uid t) :=
  h.puts (checkAndUpdateGroup_spec h.inv.named b u uid t) t (touch_checkedHistory _ t).ident
    (inRow_checkedHistory h finds)

theorem CheckFinds.check {u' uid' t' : ℤ} {b' : String} (hs : s.Named)
    (finds : CheckFinds c s b u uid t) :
    CheckFinds c (c.checkAndUpdateGroup s b' u' uid' t') b u uid t := by
  have hputs := checkAndUpdateGroup_spec (c := c) hs b' u' uid' t'
  rcases finds with hsome | ⟨hclock, hlevel⟩
  · left
    rw [hputs.entry]
    split_ifs
    · rfl
    · exact hsome
  · right
    refine ⟨?_, hlevel⟩
    rw [hputs.object]
    exact hclock

theorem Persistent.checkEach (h : Persistent s) (u : ℤ) (bundles : List (String × ℤ)) (t : ℤ)
    (finds : ∀ oneBundle ∈ bundles, CheckFinds c s oneBundle.1 u oneBundle.2 t) :
    Persistent (c.checkEachBundleState s u bundles t) := by
  unfold BundleActiveGroupController.checkEachBundleState
  induction bundles generalizing s with
  | nil => exact h
  | cons oneBundle bundles ih =>
    refine ih (h.check (finds oneBundle (List.mem_cons_self ..))) fun other hother => ?_
    exact (finds other (List.mem_cons_of_mem _ hother)).check h.inv.named

theorem Persistent.setTo {newGroup : ℤ} (h : Persistent s)
    (hset : SetTo u (getBundleUsageKey b uid)
      (setHistory (s.foundHistory b u t uid) newGroup groupControlReasonForced) s s') :
    Persistent s' := by
  obtain ⟨s₁, flushed, changes, hputs, -, rfl⟩ := hset.set
  have h₁ : Persistent s₁ := by
    refine h.puts hputs t (setHistory_ident _ newGroup groupControlReasonForced) fun hchanged => ?_
    unfold setHistory at hchanged ⊢
    split_ifs at hchanged ⊢ with hsame
    -- a fresh entry is not forced, so one that is set to what it was is not fresh
    cases he : s.historyOf u (getBundleUsageKey b uid) with
    | some e => exact h.found he hchanged
    | none =>
      rw [foundHistory, he] at hsame
      exact absurd hsame.2 (by decide : groupControlReasonDefault ≠ groupControlReasonForced)
  have h₂ : Persistent (if flushed = true then s₁.writeBundleUsage u else s₁) := by
    split_ifs
    · exact h₁.writeBundleUsage u
    · exact h₁
  exact ⟨h₂.inv.withChanges changes, h₂.covered⟩

theorem persistent_apply (h : Persistent s) (op : HistoryOp) (marks : MarksChanges c s op) :
    Persistent (s.apply c op) := by
  cases op with
  | reportEvent event t u installed =>
    by_cases hreports : c.bundleGroupEnable = false ∨ installed = false
    · have hsame : c.reportEvent s event t u installed = s := if_pos hreports
      rw [apply, hsame]
      exact h
    · rcases reportEvent_spec (c := c) h.inv.named event t u installed with
        heq | ⟨reason, hreason, hputs⟩
      · rw [apply, heq]
        exact h
      · obtain ⟨hable, hinstalled⟩ := not_or.1 hreports
        refine h.puts hputs t (touch_reportedHistory _ hreason t u).ident
          (inRow_reportedHistory h (marks ?_ ?_ ?_))
        · exact Bool.not_eq_false _ ▸ hable
        · exact Bool.not_eq_false _ ▸ hinstalled
        · rw [hreason]
          rfl
  | checkAndUpdateGroup b u uid t => exact h.check marks
  | checkEachBundleState u bundles t => exact h.checkEach u bundles t marks
  | setAppGroup b newGroup u t isFlush installed =>
    exact (setAppGroupOfBundle_induct (I := Persistent) h.inv.named h
      fun _ _ _ _ h₁ _ hset => h₁.setTo hset).2
  | updateBootBasedAndScreenTime on t isShutdown =>
    obtain ⟨hmemory, -, htable⟩ := updateBootBasedAndScreenTime_histories s on t isShutdown
    refine ⟨h.inv.updateBootBasedAndScreenTime on t isShutdown, fun u k hnone => ?_⟩
    rw [apply, historyOf_congr hmemory htable] at hnone
    rw [apply, stored, htable]
    exact h.covered u k hnone
  | writeBundleUsage u => exact h.writeBundleUsage u
  | onBundleUninstalled u b uid appIndex => exact marks.elim
  | onUserRemoved u => exact marks.elim
  | restart saved t => exact persistent_new _ t

theorem persistent_run {Start : HistoryTables → Prop} (run : Run c Start (MarksChanges c) s) :
    Persistent s := by
  induction run with
  | start tables t => exact persistent_new tables t
  | step op _ marks ih => exact persistent_apply ih op marks

def inMemory (s : HistoryState) (u : ℤ) (k : String) : Option BundleActivePackageHistory :=
  (s.userHistory[u]?).bind (·[k]?)

/-- A load after a save of a user gives every entry in memory back. -/
def LoadsSaved (s : HistoryState) (u : ℤ) : Prop :=
  ∀ k e, s.inMemory u k = some e →
    ∃ loaded, (s.writeBundleUsage u).getBundleHistoryData u = some loaded ∧
      loaded[k]? = some { e with isChanged := false }

theorem Persistent.loadsSaved (h : Persistent s) (u : ℤ) : LoadsSaved s u := by
  intro k e he
  obtain ⟨m, hm, hk⟩ := Option.bind_eq_some_iff.1 he
  have hu : u ∈ s.userHistory := by
    rw [Std.TreeMap.mem_iff_isSome_getElem?, hm]
    rfl
  have h' := h.writeBundleUsage u
  have hview : (s.writeBundleUsage u).historyOf u k = some (unmarked e) := by
    rw [historyOf_writeBundleUsage_self hu, historyOf_of_memory hm, hk]
    rfl
  have hload : (((s.writeBundleUsage u).getBundleHistoryData u).getD {})[k]? =
      some (unmarked e) :=
    (getElem?_getBundleHistoryData h'.inv.named u k).trans (h'.inv.saved u k _ hview rfl)
  cases hdata : (s.writeBundleUsage u).getBundleHistoryData u with
  | none =>
    rw [hdata] at hload
    simp at hload
  | some loaded =>
    rw [hdata] at hload
    exact ⟨loaded, rfl, hload⟩

/-- In every state of a run that marks its changes an unmarked entry in memory is that of its row, and a
load after a save gives every entry in memory back. -/
theorem histories_saved {Start : HistoryTables → Prop} (run : Run c Start (MarksChanges c) s)
    (u : ℤ) :
    (∀ k e, s.inMemory u k = some e → e.isChanged = false →
      (s.stored u k).map loadedHistory = some e) ∧ LoadsSaved s u := by
  have h := persistent_run run
  refine ⟨fun k e he hchanged => ?_, h.loadsSaved u⟩
  obtain ⟨m, hm, hk⟩ := Option.bind_eq_some_iff.1 he
  exact h.inv.saved u k e (by rw [historyOf_of_memory hm, hk]) hchanged

def mailUsed : BundleActiveEvent :=
  { bundleName := "com.example.mail", eventId := .abilityForeground, timeStamp := 1709251200000
    uid := 20010001 }

/-- A bundle that was used once, with a save and a restart, and then checked. -/
def checkedAfterRestart : HistoryState :=
  let c := BundleActiveGroupController.init false
  (((new {} 1000).apply c (.reportEvent mailUsed 5000 100 true)).apply c (.restart [100] 7000)).apply c
    (.checkAndUpdateGroup "com.example.mail" 100 20010001 9000)

theorem histories_saved_afterRestart : LoadsSaved checkedAfterRestart 100 := by
  have hnone : (new {} 1000).historyOf 100
      (getBundleUsageKey mailUsed.bundleName mailUsed.uid) = none := by decide +kernel
  have run : Run (.init false) (fun _ => True) (MarksChanges (.init false))
      ((new {} 1000).apply (.init false) (.reportEvent mailUsed 5000 100 true)) := by
    refine .step (.reportEvent mailUsed 5000 100 true) (.start {} 1000 trivial) ?_
    intro _ _ _ e he
    rw [hnone] at he
    cases he
  have hrestart := Run.step (.restart [100] 7000) run trivial
  have hfinds : CheckFinds (.init false)
      (((new {} 1000).apply (.init false) (.reportEvent mailUsed 5000 100 true)).apply (.init false)
        (.restart [100] 7000)) "com.example.mail" 100 20010001 9000 := .inl (by decide +kernel)
  exact (histories_saved (.step (.checkAndUpdateGroup "com.example.mail" 100 20010001 9000)
    hrestart hfinds) 100).2

/-- A bundle that was set to `activeGroupDaily` and saved before its first use. -/
def usedAfterSetting : HistoryState :=
  let c := BundleActiveGroupController.init false
  (((new {} 1000).apply c (.checkAndUpdateGroup "com.example.mail" 100 20010001 5000)).apply c
    (.setAppGroup "com.example.mail" activeGroupDaily 100 6000 true true)).apply c
    (.reportEvent mailUsed 7000 100 true)

/-- A save loses the first-use time of the forced entry, which the report has not marked. -/
theorem not_loadsSaved_usedAfterSetting :
    Run (.init false) (fun _ => True) (fun _ _ => True) usedAfterSetting ∧
      ¬ LoadsSaved usedAfterSetting 100 := by
  constructor
  · exact .step (.reportEvent mailUsed 7000 100 true)
      (.step (.setAppGroup "com.example.mail" activeGroupDaily 100 6000 true true)
        (.step (.checkAndUpdateGroup "com.example.mail" 100 20010001 5000)
          (.start {} 1000 trivial) trivial) trivial) trivial
  · intro h
    let e : BundleActivePackageHistory :=
      { bundleName := "com.example.mail", uid := 20010001, currentGroup := activeGroupDaily
        reasonInGroup := groupControlReasonForced, lastBootFromUsedTimeStamp := 4000
        lastScreenUsedTimeStamp := 0, bundlefirstUseTimeStamp := 1709251200000 }
    obtain ⟨loaded, hdata, hk⟩ := h "com.example.mail20010001" e (by decide +kernel)
    have hload : ((usedAfterSetting.writeBundleUsage 100).getBundleHistoryData 100).bind
        (·["com.example.mail20010001"]?) = some e := by
      rw [hdata]
      exact hk
    revert hload
    decide +kernel

end HistoryState
end DeviceUsageStats
