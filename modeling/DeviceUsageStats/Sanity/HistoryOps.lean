import DeviceUsageStats.Sanity.UserHistory

/-! What the operations of the group controller do to the histories. A save of a user writes the
changed entries and no others; a report and a check change one entry; an entry that is not marked as
changed agrees with its row, in the sense that each use of the invariant needs. -/

namespace DeviceUsageStats
namespace HistoryState

open BundleHistoryRow (ident place)

variable {s s' : HistoryState} {u u' uid t : ℤ} {k b : String} {e e' : BundleActivePackageHistory}
  {c : BundleActiveGroupController}

/-- The mark of a change is taken off. -/
def unmarked (e : BundleActivePackageHistory) : BundleActivePackageHistory :=
  { e with isChanged := false }

theorem unmarked_of_not_changed (h : e.isChanged = false) : unmarked e = e := by
  unfold unmarked
  rw [← h]

theorem historyOf_of_memory {m : OneUserHistory} (hm : s.userHistory[u]? = some m) (k : String) :
    s.historyOf u k = m[k]? := by
  rw [historyOf, hm]

/-! ### Saves -/

theorem writeBundleUsage_of_not_mem (h : u ∉ s.userHistory) : s.writeBundleUsage u = s := by
  have hnone : s.userHistory[u]? = none := by
    rw [Std.TreeMap.mem_iff_isSome_getElem?] at h
    exact Option.not_isSome_iff_eq_none.1 h
  rw [writeBundleUsage, hnone]

theorem bundleHistoryTable_writeBundleUsage {m : OneUserHistory} (hs : s.Named)
    (hm : s.userHistory[u]? = some m)
    (hkeyed : ∀ k e, m[k]? = some e → getBundleUsageKey e.bundleName e.uid = k) :
    (s.writeBundleUsage u).bundleHistoryTable.getD [] =
      Upsert.upsert ident (s.bundleHistoryTable.getD []) (savedValues u m) := by
  unfold writeBundleUsage putBundleHistoryData
  rw [hm]
  cases htable : s.bundleHistoryTable with
  | none =>
    rw [Named, htable] at hs
    simp [hs, putHistoryRows_eq hkeyed]
  | some rows =>
    rw [Named, htable] at hs
    simp [hs, htable, putHistoryRows_eq hkeyed]

/-- A save puts the changed entries of the user into their rows. -/
theorem stored_writeBundleUsage (kept : Kept s) (hu : u ∈ s.userHistory) (u' : ℤ) (k : String) :
    (s.writeBundleUsage u).stored u' k =
      (((if u' = u then s.historyOf u k else none).filter (·.isChanged)).map
        (bundleHistoryRow u)).or (s.stored u' k) := by
  rw [Std.TreeMap.mem_iff_isSome_getElem?, Option.isSome_iff_exists] at hu
  obtain ⟨m, hm⟩ := hu
  have hkeyed : ∀ k e, m[k]? = some e → getBundleUsageKey e.bundleName e.uid = k :=
    fun k e he => kept.keyed u k e (by rw [historyOf_of_memory hm, he])
  have hrows := bundleHistoryTable_writeBundleUsage kept.named hm hkeyed
  have hnodup : ((savedValues u m).map ident).Nodup := by
    have h : (((savedValues u m).map ident).map place).Nodup := by
      rw [List.map_map]
      exact nodup_savedValues hkeyed u
    exact h.of_map _
  -- a row without a value of its own identity stays
  have hreplace : ∀ row, (∀ v ∈ savedValues u m, v.ident ≠ row.ident) →
      Upsert.replace ident (savedValues u m) row = row := fun row h => by
    rw [Upsert.replace, List.find?_eq_none.2 fun v hv heq => h v hv (of_decide_eq_true heq)]
    rfl
  have hread : (s.writeBundleUsage u).stored u' k =
      ((s.stored u' k).map (Upsert.replace ident (savedValues u m))).or
        ((savedValues u m).find? fun row => place row.ident = (u', k)) := by
    rw [stored, hrows]
    exact Upsert.find?_upsert place (u', k) _ _
  rw [hread]
  by_cases hu : u' = u
  · subst hu
    rw [if_pos rfl, find?_savedValues hkeyed, historyOf_of_memory hm]
    cases hrow : s.stored u' k with
    | none => simp
    | some row =>
      rw [Option.map_some, Option.some_or]
      cases he : (m[k]?).filter (·.isChanged) with
      | none =>
        rw [hreplace row fun v hv heq => ?_]
        · rfl
        · obtain ⟨k', e, hk', hchanged, -, hplace⟩ := (mem_savedValues hkeyed).1 hv
          have hk := place_of_stored hrow
          rw [heq] at hplace
          have hkk : k = k' := by rw [← hk.2]; exact (Prod.mk.inj hplace).2
          rw [← hkk] at hk'
          rw [hk', Option.filter_some, if_pos hchanged] at he
          cases he
      | some e =>
        obtain ⟨hk, hchanged⟩ := Option.filter_eq_some_iff.1 he
        have hown := kept.own u' k e row (by rw [historyOf_of_memory hm, hk]) hrow
        have hident : row.ident = (bundleHistoryRow u' e).ident := by
          simp only [ident, bundleHistoryRow, hown.1, hown.2, (place_of_stored hrow).1]
        have hvalue : bundleHistoryRow u' e ∈ savedValues u' m :=
          List.mem_map.2 ⟨e, List.mem_filter.2 ⟨List.mem_map.2 ⟨(k, e),
            Std.TreeMap.mem_toList_iff_getElem?_eq_some.2 hk, rfl⟩, hchanged⟩, rfl⟩
        rw [Option.map_some, Option.some_or, Upsert.replace, hident,
          Upsert.find?_of_nodup hnodup hvalue]
        rfl
  · have hnone : (savedValues u m).find? (fun row => place row.ident = (u', k)) = none := by
      rw [List.find?_eq_none]
      intro row hrow hplace
      obtain ⟨k', e, -, -, -, hplace'⟩ := (mem_savedValues hkeyed).1 hrow
      exact hu (Prod.mk.inj ((of_decide_eq_true hplace).symm.trans hplace')).1
    rw [if_neg hu, hnone]
    cases hrow : s.stored u' k with
    | none => rfl
    | some row =>
      rw [Option.map_some, hreplace row fun v hv heq => ?_]
      · rfl
      · obtain ⟨k', e, -, -, -, hplace⟩ := (mem_savedValues hkeyed).1 hv
        rw [heq] at hplace
        exact hu ((place_of_stored hrow).1.symm.trans (Prod.mk.inj hplace).1)

theorem userHistory_writeBundleUsage {m : OneUserHistory} (hm : s.userHistory[u]? = some m) :
    (s.writeBundleUsage u).userHistory =
      s.userHistory.insert u (Entries.mapEntries (fun _ => unmarked) m) := by
  unfold writeBundleUsage putBundleHistoryData
  rw [hm]
  simp only
  split_ifs <;> rfl

theorem historyOf_writeBundleUsage_self (hu : u ∈ s.userHistory) (k : String) :
    (s.writeBundleUsage u).historyOf u k = (s.historyOf u k).map unmarked := by
  rw [Std.TreeMap.mem_iff_isSome_getElem?, Option.isSome_iff_exists] at hu
  obtain ⟨m, hm⟩ := hu
  unfold historyOf
  rw [userHistory_writeBundleUsage hm, Std.TreeMap.getElem?_insert_self, hm]
  exact Entries.getElem?_mapEntries _ m k

theorem mem_writeBundleUsage (u u' : ℤ) :
    u' ∈ (s.writeBundleUsage u).userHistory ↔ u' ∈ s.userHistory := by
  by_cases hu : u ∈ s.userHistory
  · have hmem := hu
    rw [Std.TreeMap.mem_iff_isSome_getElem?, Option.isSome_iff_exists] at hmem
    obtain ⟨m, hm⟩ := hmem
    rw [userHistory_writeBundleUsage hm, Std.TreeMap.mem_insert]
    refine ⟨fun h => h.elim (fun heq => ?_) id, .inr⟩
    rwa [← Std.LawfulEqCmp.eq_of_compare heq]
  · rw [writeBundleUsage_of_not_mem hu]

theorem historyOf_writeBundleUsage (kept : Kept s) (hu : u ∈ s.userHistory) (u' : ℤ) (k : String) :
    (s.writeBundleUsage u).historyOf u' k =
      if u' = u then (s.historyOf u k).map unmarked else s.historyOf u' k := by
  by_cases h : u' = u
  · rw [if_pos h, h, historyOf_writeBundleUsage_self hu]
  · have hstored := stored_writeBundleUsage kept hu u' k
    have hmem := hu
    rw [Std.TreeMap.mem_iff_isSome_getElem?, Option.isSome_iff_exists] at hmem
    obtain ⟨m, hm⟩ := hmem
    unfold historyOf
    rw [userHistory_writeBundleUsage hm, Std.TreeMap.getElem?_insert,
      if_neg fun heq => h (Std.LawfulEqCmp.eq_of_compare heq).symm, if_neg h, hstored, if_neg h]
    rfl

theorem named_writeBundleUsage (hs : s.Named) (u : ℤ) : (s.writeBundleUsage u).Named := by
  unfold writeBundleUsage putBundleHistoryData
  cases s.userHistory[u]? with
  | none => exact hs
  | some m =>
    unfold Named at hs ⊢
    simp only
    split_ifs with hname
    · rw [hname] at hs
      simp [hname, ← hs]
    · simp

/-! ### Reports and checks -/

theorem Puts.withChanges (h : Puts u k e s s') (changes : List AppGroupCallbackInfo) :
    Puts u k e s { s' with groupChanges := changes } :=
  ⟨h.object, h.tables, h.entry⟩

/-- The entry after a report. -/
def reportedHistory (c : BundleActiveGroupController) (s : HistoryState)
    (e : BundleActivePackageHistory) (event : BundleActiveEvent) (eventReason : ℕ) (t u : ℤ) :
    BundleActivePackageHistory :=
  (s.reportUsage e event (c.usageOf event t).1 eventReason (c.usageOf event t).2.1
    (c.usageOf event t).2.2 u).1

theorem reportEvent_of_idle {event : BundleActiveEvent} {installed : Bool}
    (h : c.bundleGroupEnable = false ∨ installed = false ∨ eventIdMatchReason event.eventId = none)
    (t u : ℤ) : c.reportEvent s event t u installed = s := by
  unfold BundleActiveGroupController.reportEvent
  split_ifs with hskip
  · rfl
  · have hreason := (h.resolve_left fun h => hskip (.inl h)).resolve_left fun h => hskip (.inr h)
    rw [hreason]

theorem puts_reportEvent (hs : s.Named) (event : BundleActiveEvent) {eventReason : ℕ}
    (henable : c.bundleGroupEnable = true)
    (hreason : eventIdMatchReason event.eventId = some eventReason) (t u : ℤ) :
    Puts u (getBundleUsageKey event.bundleName event.uid)
      (reportedHistory c s (s.foundHistory event.bundleName u t event.uid) event eventReason t u)
      s (c.reportEvent s event t u true) := by
  obtain ⟨s₁, hget, hu, -, hputs⟩ :=
    getUsageHistoryForBundle_true hs event.bundleName u t event.uid
  have hclock : ∀ (e : BundleActivePackageHistory) (g : ℤ) (r : ℕ) (t₁ t₂ : ℤ),
      s₁.reportUsage e event g r t₁ t₂ u = s.reportUsage e event g r t₁ t₂ u := by
    intro e g r t₁ t₂
    rw [hputs.object]
    rfl
  unfold BundleActiveGroupController.reportEvent
  rw [if_neg (by simp [henable]), hreason]
  simp only [hget]
  rw [hclock]
  exact (hputs.trans (puts_putEntry hu _ _)).withChanges _

theorem reportEvent_spec (hs : s.Named) (event : BundleActiveEvent) (t u : ℤ) (installed : Bool) :
    c.reportEvent s event t u installed = s ∨
      ∃ eventReason, eventIdMatchReason event.eventId = some eventReason ∧
        Puts u (getBundleUsageKey event.bundleName event.uid)
          (reportedHistory c s (s.foundHistory event.bundleName u t event.uid) event eventReason t u)
          s (c.reportEvent s event t u installed) := by
  cases henable : c.bundleGroupEnable with
  | false => exact .inl (reportEvent_of_idle (.inl henable) t u)
  | true =>
    cases hinstalled : installed with
    | false => exact .inl (reportEvent_of_idle (.inr (.inl rfl)) t u)
    | true =>
      cases hreason : eventIdMatchReason event.eventId with
      | none => exact .inl (reportEvent_of_idle (.inr (.inr hreason)) t u)
      | some eventReason => exact .inr ⟨eventReason, rfl, puts_reportEvent hs event henable hreason t u⟩

/-- The highest level that an entry has reached. -/
def levelOf (c : BundleActiveGroupController) (s : HistoryState) (e : BundleActivePackageHistory)
    (t : ℤ) : Option (Fin 4) :=
  (List.finRange 4).reverse.find? (s.levelReached e t c.screenTimeLevel c.bootTimeLevel)

/-- The entry after a group has been set for it. -/
def setHistory (e : BundleActivePackageHistory) (newGroup : ℤ) (groupReason : ℕ) :
    BundleActivePackageHistory :=
  if e.currentGroup = newGroup ∧ e.reasonInGroup = groupReason then e
  else { e with currentGroup := newGroup, reasonInGroup := groupReason, isChanged := true }

/-- The entry after a check. -/
def checkedHistory (c : BundleActiveGroupController) (s : HistoryState)
    (e : BundleActivePackageHistory) (t : ℤ) : BundleActivePackageHistory :=
  if e.IsForced then e
  else
    match BundleActiveGroupController.checkedGroup e ((levelOf c s e t).map levelGroup)
      (s.getBootBasedTimeStamp t) with
    | none => e
    | some (newGroup, groupReason, notTimeout) =>
      if e.currentGroup < newGroup ∨ notTimeout then setHistory e newGroup groupReason else e

theorem checkAndUpdateGroup_spec (hs : s.Named) (b : String) (u uid t : ℤ) :
    Puts u (getBundleUsageKey b uid) (checkedHistory c s (s.foundHistory b u t uid) t) s
      (c.checkAndUpdateGroup s b u uid t) := by
  obtain ⟨s₁, hget, hu, -, hputs⟩ := getUsageHistoryForBundle_true hs b u t uid
  set e := s.foundHistory b u t uid
  have hlevel : c.getNewGroup s₁ b u t uid = (levelOf c s e t).map levelGroup := by
    unfold BundleActiveGroupController.getNewGroup getLevelIndex levelOf
    rw [getUsageHistoryForBundle_false b u t uid hu, hputs.self, hputs.object]
    rfl
  have hclock : s₁.getBootBasedTimeStamp t = s.getBootBasedTimeStamp t := by
    rw [hputs.object]
    rfl
  unfold BundleActiveGroupController.checkAndUpdateGroup checkedHistory
  simp only [hget, hlevel, hclock]
  split_ifs with hforced
  · exact hputs
  · cases BundleActiveGroupController.checkedGroup e ((levelOf c s e t).map levelGroup)
      (s.getBootBasedTimeStamp t) with
    | none => exact hputs
    | some result =>
      obtain ⟨newGroup, groupReason, notTimeout⟩ := result
      simp only
      split_ifs with hset
      · rcases setAppGroup_spec hu hputs.self t newGroup groupReason false with
          ⟨hg, hr, heq⟩ | ⟨hne, s₂, hputs₂, -, heq⟩
        · rw [heq, setHistory, if_pos ⟨hg, hr⟩]
          exact hputs
        · rw [heq, setHistory, if_neg hne]
          exact (hputs.trans hputs₂).withChanges _
      · exact hputs

/-- How a report or a check may touch an entry: not at all, its first-use time if it is forced, and
anything but its identity if it is not; what changes is marked and not forced. -/
inductive Touch (e : BundleActivePackageHistory) : BundleActivePackageHistory → Prop where
  | look : Touch e e
  | first (forced : e.IsForced) (timeStamp : ℤ) :
    Touch e { e with bundlefirstUseTimeStamp := min e.bundlefirstUseTimeStamp timeStamp }
  | use (e' : BundleActivePackageHistory) (before : ¬ e.IsForced) (after : ¬ e'.IsForced)
    (bundleName : e'.bundleName = e.bundleName) (uid : e'.uid = e.uid)
    (changed : e'.isChanged = true) : Touch e e'

theorem Touch.ident (h : Touch e e') : e'.bundleName = e.bundleName ∧ e'.uid = e.uid := by
  cases h with
  | look => exact ⟨rfl, rfl⟩
  | first => exact ⟨rfl, rfl⟩
  | use e' before after bundleName uid changed => exact ⟨bundleName, uid⟩

theorem Touch.sticky (h : Touch e e') (forced : e.IsForced) :
    e'.currentGroup = e.currentGroup ∧ e'.reasonInGroup = e.reasonInGroup := by
  cases h with
  | look => exact ⟨rfl, rfl⟩
  | first => exact ⟨rfl, rfl⟩
  | use e' before => exact absurd forced before

theorem not_forced_of_control {e : BundleActivePackageHistory}
    (h : e.controlReason = groupControlReasonUsage ∨ e.controlReason = groupControlReasonTimeout) :
    ¬ e.IsForced := by
  intro hforced
  rw [BundleActivePackageHistory.IsForced] at hforced
  rcases h with h | h <;> rw [hforced] at h <;> revert h <;> decide

theorem not_forced_newUsageHistory (h : BundleActiveUserHistory) (b : String) (t uid : ℤ) :
    ¬ (h.newUsageHistory b t uid).IsForced := by
  change ¬ groupControlReasonDefault &&& groupControlReasonMask = groupControlReasonForced
  decide

theorem control_of_eventReason {event : BundleActiveEvent} {eventReason : ℕ}
    (h : eventIdMatchReason event.eventId = some eventReason) :
    (groupControlReasonUsage ||| eventReason) &&& groupControlReasonMask =
      groupControlReasonUsage := by
  unfold eventIdMatchReason at h
  split at h <;> first | (obtain rfl := Option.some.inj h; decide) | cases h

theorem reportedHistory_of_forced {e : BundleActivePackageHistory} (forced : e.IsForced)
    (event : BundleActiveEvent) (eventReason : ℕ) (t u : ℤ) :
    reportedHistory c s e event eventReason t u =
      { e with bundlefirstUseTimeStamp := min e.bundlefirstUseTimeStamp event.timeStamp } := by
  unfold reportedHistory BundleActiveUserHistory.reportUsage
  exact congrArg Prod.fst (if_pos forced)

/-- A report uses an entry that is not forced, after setting its times. -/
theorem reportedHistory_of_not_forced {e : BundleActivePackageHistory} (forced : ¬ e.IsForced)
    (event : BundleActiveEvent) (eventReason : ℕ) (t u : ℤ) :
    ∃ e₁ : BundleActivePackageHistory, e₁.bundleName = e.bundleName ∧ e₁.uid = e.uid ∧
      reportedHistory c s e event eventReason t u =
        (s.useHistory e₁ (c.usageOf event t).1 eventReason (c.usageOf event t).2.1 u
          event.bundleName).1 := by
  have hgroup : (c.usageOf event t).1 = activeGroupAlive ∨
      (c.usageOf event t).1 = activeGroupDaily := by
    unfold BundleActiveGroupController.usageOf
    split
    · exact .inr rfl
    all_goals exact .inl rfl
  unfold reportedHistory BundleActiveUserHistory.reportUsage
  generalize c.usageOf event t = usage at hgroup ⊢
  obtain ⟨newGroup, usedAt, timeUntilNextCheck⟩ := usage
  simp only at hgroup ⊢
  split_ifs with hforced htime halive hdaily
  · exact absurd hforced forced
  · refine ⟨_, ?_, ?_, rfl⟩ <;> rfl
  · refine ⟨_, ?_, ?_, rfl⟩ <;> rfl
  · exact absurd hgroup (not_or.2 ⟨halive, hdaily⟩)
  · refine ⟨_, ?_, ?_, rfl⟩ <;> rfl

theorem useHistory_spec (h : BundleActiveUserHistory) (e : BundleActivePackageHistory)
    (newGroup : ℤ) (groupReason : ℕ) (t u : ℤ) (b : String) :
    (h.useHistory e newGroup groupReason t u b).1.bundleName = e.bundleName ∧
      (h.useHistory e newGroup groupReason t u b).1.uid = e.uid ∧
      (h.useHistory e newGroup groupReason t u b).1.reasonInGroup =
        groupControlReasonUsage ||| groupReason ∧
      (h.useHistory e newGroup groupReason t u b).1.isChanged = true := by
  unfold BundleActiveUserHistory.useHistory
  refine ⟨?_, ?_, rfl, rfl⟩
  · simp only
    split_ifs <;> rfl
  · simp only
    split_ifs <;> rfl

theorem touch_reportedHistory (e : BundleActivePackageHistory) {event : BundleActiveEvent}
    {eventReason : ℕ} (hreason : eventIdMatchReason event.eventId = some eventReason) (t u : ℤ) :
    Touch e (reportedHistory c s e event eventReason t u) := by
  by_cases forced : e.IsForced
  · rw [reportedHistory_of_forced forced]
    exact Touch.first (e := e) forced event.timeStamp
  · obtain ⟨e₁, hname, huid, heq⟩ :=
      reportedHistory_of_not_forced (c := c) (s := s) forced event eventReason t u
    obtain ⟨hname', huid', hreason', hchanged⟩ := useHistory_spec
      s.toBundleActiveUserHistory e₁ (c.usageOf event t).1 eventReason (c.usageOf event t).2.1 u
      event.bundleName
    rw [heq]
    refine .use _ forced (not_forced_of_control (.inl ?_)) (hname'.trans hname) (huid'.trans huid)
      hchanged
    rw [BundleActivePackageHistory.controlReason, hreason']
    exact control_of_eventReason hreason

theorem checkedGroup_reason {e : BundleActivePackageHistory} (hforced : ¬ e.IsForced)
    {level : Option ℤ} {adjusted newGroup : ℤ} {groupReason : ℕ} {notTimeout : Bool}
    (h : BundleActiveGroupController.checkedGroup e level adjusted =
      some (newGroup, groupReason, notTimeout)) :
    groupReason &&& groupControlReasonMask ≠ groupControlReasonForced := by
  unfold BundleActiveGroupController.checkedGroup at h
  simp only at h
  split at h
  · cases h
  · split_ifs at h with hages
    all_goals
      obtain ⟨-, rfl, -⟩ := by simpa using h
      first | exact hforced | decide

theorem touch_checkedHistory (e : BundleActivePackageHistory) (t : ℤ) :
    Touch e (checkedHistory c s e t) := by
  unfold checkedHistory
  split_ifs with hforced
  · exact .look
  · cases hgroup : BundleActiveGroupController.checkedGroup e ((levelOf c s e t).map levelGroup)
      (s.getBootBasedTimeStamp t) with
    | none => exact .look
    | some result =>
      obtain ⟨newGroup, groupReason, notTimeout⟩ := result
      have hreason := checkedGroup_reason hforced hgroup
      simp only
      unfold setHistory
      split_ifs
      · exact .look
      · exact .use _ hforced hreason rfl rfl rfl
      · exact .look

/-! ### Settings -/

/-- A state after an entry was set, possibly saved, and the change reported. -/
structure SetTo (userId : ℤ) (key : String) (e : BundleActivePackageHistory)
    (s s' : HistoryState) : Prop where
  set : ∃ s₁ flushed changes, Puts userId key e s s₁ ∧ userId ∈ s₁.userHistory ∧
    s' = { (if flushed = true then s₁.writeBundleUsage userId else s₁) with
      groupChanges := changes }

theorem SetTo.mem (h : SetTo u k e s s') : u ∈ s'.userHistory := by
  obtain ⟨s₁, flushed, changes, -, hu, rfl⟩ := h.set
  change u ∈ (if flushed = true then s₁.writeBundleUsage u else s₁).userHistory
  split_ifs
  · exact (mem_writeBundleUsage u u).2 hu
  · exact hu

theorem SetTo.named (h : SetTo u k e s s') (hs : s.Named) : s'.Named := by
  obtain ⟨s₁, flushed, changes, hputs, -, rfl⟩ := h.set
  change (if flushed = true then s₁.writeBundleUsage u else s₁).Named
  split_ifs
  · exact named_writeBundleUsage (hputs.named hs) u
  · exact hputs.named hs

/-- Only the mark of the entry that was set may be gone. -/
theorem SetTo.self (h : SetTo u k e s s') :
    ∃ changed, s'.historyOf u k = some { e with isChanged := changed } := by
  obtain ⟨s₁, flushed, changes, hputs, hu, rfl⟩ := h.set
  change ∃ changed, (if flushed = true then s₁.writeBundleUsage u else s₁).historyOf u k = _
  split_ifs
  · refine ⟨false, ?_⟩
    rw [historyOf_writeBundleUsage_self hu, hputs.self]
    rfl
  · exact ⟨e.isChanged, hputs.self⟩

theorem SetTo.of_puts (hputs : Puts u k e s s') (h : SetTo u k e' s' s'') : SetTo u k e' s s'' := by
  obtain ⟨s₁, flushed, changes, hputs₁, hu, heq⟩ := h.set
  exact ⟨s₁, flushed, changes, hputs.trans hputs₁, hu, heq⟩

theorem setAppGroup_setTo (hu : u ∈ s.userHistory)
    (he : s.historyOf u (getBundleUsageKey b uid) = some e) (t newGroup : ℤ) (reason : ℕ)
    (isFlush : Bool) : SetTo u (getBundleUsageKey b uid) (setHistory e newGroup reason) s
      (s.setAppGroup b u uid t newGroup reason isFlush).2 := by
  rcases setAppGroup_spec hu he t newGroup reason isFlush with
    ⟨hg, hr, heq⟩ | ⟨hne, s₁, hputs, hu₁, heq⟩
  · rw [heq, setHistory, if_pos ⟨hg, hr⟩]
    refine ⟨s, false, s.groupChanges, ⟨rfl, rfl, fun u' k' => ?_⟩, hu, rfl⟩
    split_ifs with h
    · rw [h.1, h.2, he]
    · rfl
  · rw [heq, setHistory, if_neg hne]
    exact ⟨s₁, isFlush, _, hputs, hu₁, rfl⟩

theorem setHistory_group (e : BundleActivePackageHistory) (newGroup : ℤ) (reason : ℕ) :
    (setHistory e newGroup reason).currentGroup = newGroup ∧
      (setHistory e newGroup reason).reasonInGroup = reason := by
  unfold setHistory
  split_ifs with h
  · exact h
  · exact ⟨rfl, rfl⟩

theorem setHistory_ident (e : BundleActivePackageHistory) (newGroup : ℤ) (reason : ℕ) :
    (setHistory e newGroup reason).bundleName = e.bundleName ∧
      (setHistory e newGroup reason).uid = e.uid := by
  unfold setHistory
  split_ifs <;> exact ⟨rfl, rfl⟩

/-- A second setting finds the group set. -/
theorem SetTo.again {newGroup : ℤ} {reason : ℕ}
    (h : SetTo u (getBundleUsageKey b uid) (setHistory e newGroup reason) s s') (t : ℤ)
    (isFlush : Bool) : (s'.setAppGroup b u uid t newGroup reason isFlush).2 = s' := by
  obtain ⟨changed, hself⟩ := h.self
  rcases setAppGroup_spec h.mem hself t newGroup reason isFlush with ⟨-, -, heq⟩ | ⟨hne, -⟩
  · rw [heq]
  · exact absurd (setHistory_group e newGroup reason) hne

/-- A round at a key that contains the bundle's name sets the entry of the bundle under the uid of the
visited one. -/
theorem setAppGroupStep_set {r : ErrCode × HistoryState} (hs : r.2.Named) (b : String) (u : ℤ)
    (newGroup : ℤ) (reason : ℕ) (t : ℤ) (isFlush : Bool)
    {entry : String × BundleActivePackageHistory} (hname : keyContains entry.1 b = true) :
    SetTo u (getBundleUsageKey b entry.2.uid)
      (setHistory (r.2.foundHistory b u t entry.2.uid) newGroup reason) r.2
      (setAppGroupStep b u newGroup reason t isFlush r entry).2 := by
  obtain ⟨s₁, hget, hu, -, hputs⟩ := getUsageHistoryForBundle_true hs b u t entry.2.uid
  have hset := setAppGroup_setTo hu hputs.self t newGroup reason isFlush
  have hagain := hset.again t isFlush
  unfold setAppGroupStep
  rw [if_pos hname]
  simp only [hget]
  -- an entry added behind the current key is visited again
  split
  · rw [hagain]
    exact .of_puts hputs hset
  · exact .of_puts hputs hset

theorem setAppGroupStep_spec {r : ErrCode × HistoryState} (hs : r.2.Named) (b : String) (u : ℤ)
    (newGroup : ℤ) (reason : ℕ) (t : ℤ) (isFlush : Bool)
    (entry : String × BundleActivePackageHistory) :
    (setAppGroupStep b u newGroup reason t isFlush r entry).2 = r.2 ∨
      keyContains entry.1 b = true ∧ SetTo u (getBundleUsageKey b entry.2.uid)
        (setHistory (r.2.foundHistory b u t entry.2.uid) newGroup reason) r.2
        (setAppGroupStep b u newGroup reason t isFlush r entry).2 := by
  by_cases hname : keyContains entry.1 b
  · exact .inr ⟨hname, setAppGroupStep_set hs b u newGroup reason t isFlush hname⟩
  · left
    unfold setAppGroupStep
    rw [if_neg hname]

end HistoryState
end DeviceUsageStats
