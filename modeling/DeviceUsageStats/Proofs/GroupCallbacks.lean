import DeviceUsageStats.Lib.Transitions
import DeviceUsageStats.Sanity.HistoryRun

/-! The group changes that are reported for an entry replay its group. A use and a setting each report
a change exactly when they change the group, with the groups before and after. -/

namespace DeviceUsageStats
namespace HistoryState

variable {s : HistoryState} {u uid : ℤ} {b : String} {e : BundleActivePackageHistory}

/-- The changes take the group from one to the other. -/
abbrev GroupsReplay (group : ℤ) (changes : List AppGroupCallbackInfo) (group' : ℤ) : Prop :=
  Transitions.Replays AppGroupCallbackInfo.oldGroup AppGroupCallbackInfo.newGroup group changes group'

def entryOf (s : HistoryState) (userId : ℤ) (key : String) : Option BundleActivePackageHistory :=
  (s.userHistory[userId]?).bind (·[key]?)

inductive EntryCall where
  | reportUsage (event : BundleActiveEvent) (newGroup : ℤ) (groupReason : ℕ)
    (bootBasedTimeStamp timeUntilNextCheck userId : ℤ)
  | setAppGroup (bootBasedTimeStamp newGroup : ℤ) (groupReason : ℕ) (isFlush : Bool)
  | updateBootBasedAndScreenTime (isScreenOn : Bool) (bootBasedTimeStamp : ℤ) (isShutdown : Bool)
  | writeBundleUsage (userId : ℤ)

/-- `ReportUsage` on the entry that the caller holds: the map shares it. -/
def reportUsageOf (s : HistoryState) (owner : ℤ) (key : String) (event : BundleActiveEvent)
    (newGroup : ℤ) (groupReason : ℕ) (bootBasedTimeStamp timeUntilNextCheck userId : ℤ) :
    HistoryState :=
  match s.entryOf owner key with
  | none => s
  | some e =>
    let (e, changes) := s.reportUsage e event newGroup groupReason bootBasedTimeStamp
      timeUntilNextCheck userId
    { s.putEntry owner key e with groupChanges := s.groupChanges ++ changes }

def call (u : ℤ) (b : String) (uid : ℤ) (s : HistoryState) : EntryCall → HistoryState
  | .reportUsage event newGroup groupReason bootBasedTimeStamp timeUntilNextCheck userId =>
    s.reportUsageOf u (getBundleUsageKey b uid) event newGroup groupReason bootBasedTimeStamp
      timeUntilNextCheck userId
  | .setAppGroup bootBasedTimeStamp newGroup groupReason isFlush =>
    (s.setAppGroup b u uid bootBasedTimeStamp newGroup groupReason isFlush).2
  | .updateBootBasedAndScreenTime isScreenOn bootBasedTimeStamp isShutdown =>
    s.updateBootBasedAndScreenTime isScreenOn bootBasedTimeStamp isShutdown
  | .writeBundleUsage userId => s.writeBundleUsage userId

/-! ### The two operations -/

theorem groupsReplay_useHistory (h : BundleActiveUserHistory) {group : ℤ}
    (he : e.currentGroup = group) (newGroup : ℤ) (groupReason : ℕ) (t u : ℤ) (b : String) :
    GroupsReplay group (h.useHistory e newGroup groupReason t u b).2
      (h.useHistory e newGroup groupReason t u b).1.currentGroup := by
  subst he
  have hgroup : (h.useHistory e newGroup groupReason t u b).1.currentGroup =
      if e.currentGroup > newGroup then newGroup else e.currentGroup := by
    unfold BundleActiveUserHistory.useHistory
    by_cases ht : t > 0 <;> simp [ht]
  have hchanges : (h.useHistory e newGroup groupReason t u b).2 =
      if e.currentGroup = (if e.currentGroup > newGroup then newGroup else e.currentGroup) then []
      else [⟨u, e.currentGroup, newGroup, groupControlReasonUsage ||| groupReason, b⟩] := by
    unfold BundleActiveUserHistory.useHistory
    by_cases ht : t > 0 <;> simp [ht]
  rw [hgroup, hchanges]
  rcases lt_or_ge newGroup e.currentGroup with hlt | hge
  · -- the group falls, so the new group of the event is the one that is stored
    rw [if_pos hlt, if_neg hlt.ne']
    exact ⟨rfl, hlt.ne', rfl⟩
  · rw [if_neg hge.not_gt, if_pos rfl]
    rfl

theorem groupsReplay_reportUsage (h : BundleActiveUserHistory) (e : BundleActivePackageHistory)
    (event : BundleActiveEvent) (newGroup : ℤ) (groupReason : ℕ) (t next u : ℤ) :
    GroupsReplay e.currentGroup (h.reportUsage e event newGroup groupReason t next u).2
      (h.reportUsage e event newGroup groupReason t next u).1.currentGroup := by
  unfold BundleActiveUserHistory.reportUsage
  simp only
  split_ifs
  · rfl
  · exact groupsReplay_useHistory h (by rfl) newGroup groupReason t u event.bundleName
  · exact groupsReplay_useHistory h (by rfl) newGroup groupReason t u event.bundleName
  · rfl
  · exact groupsReplay_useHistory h (by rfl) newGroup groupReason t u event.bundleName

theorem entryOf_putEntry (he : s.entryOf u (getBundleUsageKey b uid) = some e)
    (e' : BundleActivePackageHistory) :
    (s.putEntry u (getBundleUsageKey b uid) e').entryOf u (getBundleUsageKey b uid) = some e' := by
  unfold entryOf at he ⊢
  obtain ⟨m, hm, -⟩ := Option.bind_eq_some_iff.1 he
  rw [putEntry, Std.TreeMap.getElem?_modify_self, hm]
  exact Std.TreeMap.getElem?_insert_self

theorem entryOf_writeBundleUsage {k : String} (he : s.entryOf u k = some e) (u' : ℤ) :
    ∃ e', (s.writeBundleUsage u').entryOf u k = some e' ∧ e'.currentGroup = e.currentGroup := by
  unfold entryOf at he ⊢
  obtain ⟨m, hm, hk⟩ := Option.bind_eq_some_iff.1 he
  cases hm' : s.userHistory[u']? with
  | none =>
    have hmem : u' ∉ s.userHistory := by
      rw [Std.TreeMap.mem_iff_isSome_getElem?, hm']
      simp
    rw [writeBundleUsage_of_not_mem hmem]
    exact ⟨e, he, rfl⟩
  | some m' =>
    rw [userHistory_writeBundleUsage hm']
    by_cases hu : u' = u
    · subst hu
      cases hm.symm.trans hm'
      refine ⟨unmarked e, ?_, rfl⟩
      rw [Std.TreeMap.getElem?_insert_self, Option.bind_some, Entries.getElem?_mapEntries, hk]
      rfl
    · rw [Std.TreeMap.getElem?_insert, if_neg fun h => hu (Std.LawfulEqCmp.eq_of_compare h), hm]
      exact ⟨e, hk, rfl⟩

theorem groupChanges_writeBundleUsage (s : HistoryState) (u : ℤ) :
    (s.writeBundleUsage u).groupChanges = s.groupChanges := by
  unfold writeBundleUsage putBundleHistoryData
  split
  · simp only
    split_ifs <;> rfl
  · rfl

theorem groupChanges_updateBootBasedAndScreenTime (s : HistoryState) (on : Bool) (t : ℤ)
    (isShutdown : Bool) :
    (s.updateBootBasedAndScreenTime on t isShutdown).groupChanges = s.groupChanges := by
  unfold updateBootBasedAndScreenTime
  cases s.updatedTimes on t isShutdown with
  | none => rfl
  | some h =>
    simp only [putDurationData]
    split_ifs <;> rfl

/-- What a call adds to the log takes the group of the entry from before to after. -/
def CallReplays (u : ℤ) (k : String) (group : ℤ) (s s' : HistoryState) : Prop :=
  ∃ e' changes, s'.entryOf u k = some e' ∧ s'.groupChanges = s.groupChanges ++ changes ∧
    GroupsReplay group changes e'.currentGroup

theorem callReplays_of_quiet {s' : HistoryState} {k : String}
    (he : ∃ e', s'.entryOf u k = some e' ∧ e'.currentGroup = e.currentGroup)
    (hchanges : s'.groupChanges = s.groupChanges) : CallReplays u k e.currentGroup s s' := by
  obtain ⟨e', he', hgroup⟩ := he
  exact ⟨e', [], he', by rw [hchanges, List.append_nil], hgroup.symm⟩

theorem callReplays_reportUsage (he : s.entryOf u (getBundleUsageKey b uid) = some e)
    (event : BundleActiveEvent) (newGroup : ℤ) (groupReason : ℕ) (t next u' : ℤ) :
    CallReplays u (getBundleUsageKey b uid) e.currentGroup s
      (s.reportUsageOf u (getBundleUsageKey b uid) event newGroup groupReason t next u') := by
  unfold reportUsageOf
  rw [he]
  exact ⟨_, _, entryOf_putEntry he _, rfl, groupsReplay_reportUsage _ e event newGroup groupReason t
    next u'⟩

theorem callReplays_setAppGroup (he : s.entryOf u (getBundleUsageKey b uid) = some e)
    (t newGroup : ℤ) (groupReason : ℕ) (isFlush : Bool) :
    CallReplays u (getBundleUsageKey b uid) e.currentGroup s
      (s.setAppGroup b u uid t newGroup groupReason isFlush).2 := by
  have hfound : (s.getUsageHistoryForBundle b u t false uid).1 = some e := by
    unfold entryOf at he
    obtain ⟨m, hm, hk⟩ := Option.bind_eq_some_iff.1 he
    simp [getUsageHistoryForBundle, getUserHistory, hm, getUsageHistoryInUserHistory, hk]
  unfold setAppGroup
  rw [hfound]
  simp only
  split_ifs with hsame hflush hgroup hgroup
  · exact callReplays_of_quiet ⟨e, he, rfl⟩ rfl
  · obtain ⟨e', he', hgroup'⟩ := entryOf_writeBundleUsage (entryOf_putEntry he
      { e with currentGroup := newGroup, reasonInGroup := groupReason, isChanged := true }) u
    refine ⟨e', [], he', ?_, hgroup.trans hgroup'.symm⟩
    simp [groupChanges_writeBundleUsage, putEntry]
  · obtain ⟨e', he', hgroup'⟩ := entryOf_writeBundleUsage (entryOf_putEntry he
      { e with currentGroup := newGroup, reasonInGroup := groupReason, isChanged := true }) u
    exact ⟨e', _, he', congrArg (· ++ _) (groupChanges_writeBundleUsage _ u), rfl, hgroup,
      hgroup'.symm⟩
  · exact ⟨_, [], entryOf_putEntry he _, rfl, hgroup⟩
  · exact ⟨_, _, entryOf_putEntry he _, rfl, rfl, hgroup, rfl⟩

/-! ### Runs of calls -/

theorem callReplays_call (he : s.entryOf u (getBundleUsageKey b uid) = some e) (c : EntryCall) :
    CallReplays u (getBundleUsageKey b uid) e.currentGroup s (s.call u b uid c) := by
  cases c with
  | reportUsage event newGroup groupReason t next u' =>
    exact callReplays_reportUsage he event newGroup groupReason t next u'
  | setAppGroup t newGroup groupReason isFlush =>
    exact callReplays_setAppGroup he t newGroup groupReason isFlush
  | updateBootBasedAndScreenTime on t isShutdown =>
    have hsame := updateBootBasedAndScreenTime_histories s on t isShutdown
    refine callReplays_of_quiet ⟨e, ?_, rfl⟩ (groupChanges_updateBootBasedAndScreenTime s on t _)
    rw [entryOf, call, hsame.1]
    exact he
  | writeBundleUsage u' =>
    exact callReplays_of_quiet (entryOf_writeBundleUsage he u') (groupChanges_writeBundleUsage s u')

/-- Over a run of calls on one entry the reported changes form a chain of real changes from the group
the entry had to the group it has. -/
theorem groupChanges_replay (he : s.entryOf u (getBundleUsageKey b uid) = some e)
    (calls : List EntryCall) :
    ∃ e' changes,
      (calls.foldl (call u b uid) s).entryOf u (getBundleUsageKey b uid) = some e' ∧
      (calls.foldl (call u b uid) s).groupChanges = s.groupChanges ++ changes ∧
      GroupsReplay e.currentGroup changes e'.currentGroup := by
  induction calls generalizing s e with
  | nil => exact ⟨e, [], he, (List.append_nil _).symm, rfl⟩
  | cons c calls ih =>
    obtain ⟨e₁, changes, he₁, hlog, hreplay⟩ := callReplays_call he c
    obtain ⟨e₂, changes', he₂, hlog', hreplay'⟩ := ih he₁
    refine ⟨e₂, changes ++ changes', he₂, ?_, hreplay.append hreplay'⟩
    rw [List.foldl_cons, hlog', hlog, List.append_assoc]

def newBundle : HistoryState :=
  ((new {} 1000).getUsageHistoryForBundle "com.example.mail" 100 1000 true 20010001).2

/-- A use, a setting, and a use that comes too late to move the forced group. -/
def usedAndSet : List EntryCall :=
  [.reportUsage { bundleName := "com.example.mail", uid := 20010001 } activeGroupAlive
      groupEventReasonForeground 5000 3605000 100,
    .setAppGroup 6000 activeGroupRare groupControlReasonForced true,
    .reportUsage { bundleName := "com.example.mail", uid := 20010001 } activeGroupAlive
      groupEventReasonForeground 7000 3607000 100]

theorem groupChanges_replay_usedAndSet :
    ∃ e' changes,
      (usedAndSet.foldl (call 100 "com.example.mail" 20010001) newBundle).entryOf 100
          (getBundleUsageKey "com.example.mail" 20010001) = some e' ∧
        (usedAndSet.foldl (call 100 "com.example.mail" 20010001) newBundle).groupChanges =
          newBundle.groupChanges ++ changes ∧
        GroupsReplay activeGroupNever changes e'.currentGroup :=
  groupChanges_replay (e := newBundle.newUsageHistory "com.example.mail" 1000 20010001)
    (by decide +kernel) usedAndSet

end HistoryState
end DeviceUsageStats
