import DeviceUsageStats.Sanity.HistoryRun

/-! The ageing of a group. A check of a bundle whose group was not set from outside moves it to the group
of the highest level that its entry has reached, unless a timeout holds it up; with the timeouts over a
group only becomes less active. -/

namespace DeviceUsageStats
namespace HistoryState

variable {s s' : HistoryState} {u uid t : ℤ} {k b : String} {e : BundleActivePackageHistory}
  {c : BundleActiveGroupController}

/-- The reason of an entry is by default, by usage or by timeout. -/
def Ages (e : BundleActivePackageHistory) : Prop :=
  e.controlReason = groupControlReasonDefault ∨ e.controlReason = groupControlReasonUsage ∨
    e.controlReason = groupControlReasonTimeout

/-- Both thresholds of a level are reached. -/
def Reached (c : BundleActiveGroupController) (s : HistoryState) (e : BundleActivePackageHistory)
    (t : ℤ) (i : Fin 4) : Prop :=
  s.getScreenOnTimeStamp t - e.lastScreenUsedTimeStamp ≥ c.screenTimeLevel i ∧
    s.getBootBasedTimeStamp t - e.lastBootFromUsedTimeStamp ≥ c.bootTimeLevel i

theorem find?_levels (p : Fin 4 → Bool) :
    ((List.finRange 4).reverse.find? p = none ↔ ∀ i, ¬ p i = true) ∧
      ∀ i, (List.finRange 4).reverse.find? p = some i ↔
        p i = true ∧ ∀ j, i < j → ¬ p j = true := by
  revert p
  decide

theorem levelOf_eq_none : levelOf c s e t = none ↔ ∀ i, ¬ Reached c s e t i := by
  refine (find?_levels _).1.trans (forall_congr' fun i => ?_)
  simp [BundleActiveUserHistory.levelReached, Reached]

theorem levelOf_eq_some {i : Fin 4} :
    levelOf c s e t = some i ↔ Reached c s e t i ∧ ∀ j, i < j → ¬ Reached c s e t j := by
  refine ((find?_levels _).2 i).trans ?_
  simp [BundleActiveUserHistory.levelReached, Reached]

theorem not_forced_of_ages (h : Ages e) : ¬ e.IsForced := by
  rcases h with h | h
  · rw [BundleActivePackageHistory.IsForced, h]
    decide
  · exact not_forced_of_control h

/-- The group that a check gives an entry whose level is known. -/
def agedGroup (e : BundleActivePackageHistory) (levelGroup adjusted : ℤ) : ℤ :=
  if e.bundleAliveTimeoutTimeStamp > adjusted then activeGroupAlive
  else if e.bundleDailyTimeoutTimeStamp > adjusted ∧ levelGroup ≥ activeGroupDaily then
    activeGroupDaily
  else max e.currentGroup levelGroup

theorem activeGroupAlive_le_levelGroup (i : Fin 4) : activeGroupAlive ≤ levelGroup i := by
  revert i
  decide

theorem checkedHistory_group (h : Ages e) :
    (checkedHistory c s e t).currentGroup =
      ((levelOf c s e t).map fun i =>
        agedGroup e (levelGroup i) (s.getBootBasedTimeStamp t)).getD e.currentGroup := by
  have hages : e.controlReason = groupControlReasonDefault ∨
    e.controlReason = groupControlReasonUsage ∨ e.controlReason = groupControlReasonTimeout := h
  unfold checkedHistory BundleActiveGroupController.checkedGroup
  rw [if_neg (not_forced_of_ages h)]
  simp only [hages, if_true]
  cases levelOf c s e t with
  | none => rfl
  | some i =>
    have halive := activeGroupAlive_le_levelGroup i
    simp only [Option.map_some, Option.getD_some, agedGroup, ge_iff_le, halive, true_and]
    by_cases ha : e.bundleAliveTimeoutTimeStamp > s.getBootBasedTimeStamp t
    · rw [if_pos ha, if_pos ha]
      simp only [or_true, if_true]
      exact (setHistory_group e _ _).1
    · rw [if_neg ha, if_neg ha]
      by_cases hd : activeGroupDaily ≤ levelGroup i ∧
          e.bundleDailyTimeoutTimeStamp > s.getBootBasedTimeStamp t
      · rw [if_pos hd, if_pos hd.symm]
        simp only [or_true, if_true]
        exact (setHistory_group e _ _).1
      · rw [if_neg hd, if_neg fun h => hd h.symm]
        simp only [Bool.false_eq_true, or_false]
        split_ifs with hlt
        · rw [(setHistory_group e _ _).1, max_eq_right hlt.le]
        · rw [max_eq_left (not_lt.1 hlt)]

theorem checkedGroup_ages (h : Ages e) {level : Option ℤ} {adjusted newGroup : ℤ} {groupReason : ℕ}
    {notTimeout : Bool} (hgroup : BundleActiveGroupController.checkedGroup e level adjusted =
      some (newGroup, groupReason, notTimeout)) :
    groupReason &&& groupControlReasonMask = groupControlReasonUsage ∨
      groupReason &&& groupControlReasonMask = groupControlReasonTimeout := by
  have hages : e.controlReason = groupControlReasonDefault ∨
    e.controlReason = groupControlReasonUsage ∨ e.controlReason = groupControlReasonTimeout := h
  unfold BundleActiveGroupController.checkedGroup at hgroup
  simp only [hages, if_true] at hgroup
  split at hgroup
  · cases hgroup
  · split_ifs at hgroup
    all_goals
      obtain ⟨-, rfl, -⟩ := by simpa using hgroup
      decide

theorem checkedHistory_ages (h : Ages e) :
    Ages (checkedHistory c s e t) ∧
      (checkedHistory c s e t).bundleAliveTimeoutTimeStamp = e.bundleAliveTimeoutTimeStamp ∧
      (checkedHistory c s e t).bundleDailyTimeoutTimeStamp = e.bundleDailyTimeoutTimeStamp := by
  unfold checkedHistory
  rw [if_neg (not_forced_of_ages h)]
  cases hgroup : BundleActiveGroupController.checkedGroup e ((levelOf c s e t).map levelGroup)
    (s.getBootBasedTimeStamp t) with
  | none => exact ⟨h, rfl, rfl⟩
  | some result =>
    obtain ⟨newGroup, groupReason, notTimeout⟩ := result
    simp only
    unfold setHistory
    split_ifs
    · exact ⟨h, rfl, rfl⟩
    · exact ⟨.inr (checkedGroup_ages h hgroup), rfl, rfl⟩
    · exact ⟨h, rfl, rfl⟩

/-! ### Runs of checks -/

/-- The groups of the entries of a key age and no timeout holds them up any more. -/
structure Expired (u : ℤ) (k : String) (t : ℤ) (e : BundleActivePackageHistory) (s : HistoryState) :
    Prop where
  named : s.Named
  entry : s.historyOf u k = some e
  ages : Ages e
  alive : e.bundleAliveTimeoutTimeStamp ≤ s.getBootBasedTimeStamp t
  daily : e.bundleDailyTimeoutTimeStamp ≤ s.getBootBasedTimeStamp t

inductive CheckStep (c : BundleActiveGroupController) : ℤ × HistoryState → ℤ × HistoryState → Prop
    where
  | check {t t' : ℤ} (s : HistoryState) (later : t ≤ t') (bundleName : String) (userId uid : ℤ) :
    CheckStep c (t, s) (t', c.checkAndUpdateGroup s bundleName userId uid t')
  | checkEach {t t' : ℤ} (s : HistoryState) (later : t ≤ t') (userId : ℤ)
    (allBundlesForUser : List (String × ℤ)) :
    CheckStep c (t, s) (t', c.checkEachBundleState s userId allBundlesForUser t')
  | screen {t t' : ℤ} (s : HistoryState) (later : t ≤ t') (isScreenOn isShutdown : Bool) :
    CheckStep c (t, s) (t', s.updateBootBasedAndScreenTime isScreenOn t' isShutdown)

theorem Expired.later {t' : ℤ} (h : Expired u k t e s) (hle : t ≤ t') : Expired u k t' e s := by
  have hclock : s.getBootBasedTimeStamp t ≤ s.getBootBasedTimeStamp t' := by
    unfold BundleActiveUserHistory.getBootBasedTimeStamp
    omega
  exact ⟨h.named, h.entry, h.ages, h.alive.trans hclock, h.daily.trans hclock⟩

theorem Expired.check (h : Expired u k t e s) (b : String) (u' uid : ℤ) :
    ∃ e', Expired u k t e' (c.checkAndUpdateGroup s b u' uid t) ∧
      e.currentGroup ≤ e'.currentGroup := by
  have hputs := checkAndUpdateGroup_spec (c := c) h.named b u' uid t
  have hclock : (c.checkAndUpdateGroup s b u' uid t).getBootBasedTimeStamp t =
      s.getBootBasedTimeStamp t := by
    rw [hputs.object]
    rfl
  by_cases hat : u = u' ∧ k = getBundleUsageKey b uid
  · have hfound : s.foundHistory b u' t uid = e := by
      rw [foundHistory, ← hat.1, ← hat.2, h.entry]
      rfl
    rw [hfound] at hputs
    obtain ⟨hages, halive, hdaily⟩ := checkedHistory_ages (c := c) (s := s) (t := t) h.ages
    refine ⟨checkedHistory c s e t, ⟨hputs.named h.named, ?_, hages, ?_, ?_⟩, ?_⟩
    · rw [hputs.entry, if_pos hat]
    · rw [halive, hclock]
      exact h.alive
    · rw [hdaily, hclock]
      exact h.daily
    · rw [checkedHistory_group h.ages]
      cases levelOf c s e t with
      | none => exact le_rfl
      | some i =>
        rw [Option.map_some, Option.getD_some, agedGroup, if_neg (not_lt.2 h.alive),
          if_neg fun hd => not_lt.2 h.daily hd.1]
        exact le_max_left ..
  · refine ⟨e, ⟨hputs.named h.named, ?_, h.ages, ?_, ?_⟩, le_rfl⟩
    · rw [hputs.entry, if_neg hat]
      exact h.entry
    · rw [hclock]
      exact h.alive
    · rw [hclock]
      exact h.daily

theorem Expired.step {p p' : ℤ × HistoryState} (h : Expired u k p.1 e p.2)
    (step : CheckStep c p p') :
    ∃ e', Expired u k p'.1 e' p'.2 ∧ e.currentGroup ≤ e'.currentGroup := by
  cases step with
  | check s later b u' uid => exact (h.later later).check b u' uid
  | @checkEach t t' s later u' bundles =>
    refine List.foldlRecOn
      (motive := fun s => ∃ e', Expired u k t' e' s ∧ e.currentGroup ≤ e'.currentGroup)
      bundles _ ⟨e, h.later later, le_rfl⟩ ?_
    rintro s₁ ⟨e₁, h₁, hle₁⟩ oneBundle -
    obtain ⟨e₂, h₂, hle₂⟩ := h₁.check (c := c) oneBundle.1 u' oneBundle.2
    exact ⟨e₂, h₂, hle₁.trans hle₂⟩
  | @screen t t' s later on isShutdown =>
    have h' := h.later later
    obtain ⟨hmemory, hname, htable⟩ := updateBootBasedAndScreenTime_histories s on t' isShutdown
    have hclock := getBootBasedTimeStamp_updateBootBasedAndScreenTime s on isShutdown t' t'
    refine ⟨e, ⟨?_, ?_, h'.ages, ?_, ?_⟩, le_rfl⟩
    · rw [Named, hname, htable]
      exact h'.named
    · rw [historyOf_congr hmemory htable]
      exact h'.entry
    · rw [hclock]
      exact h'.alive
    · rw [hclock]
      exact h'.daily

theorem Expired.steps {p p' : ℤ × HistoryState} (h : Expired u k p.1 e p.2)
    (steps : Relation.ReflTransGen (CheckStep c) p p') :
    ∃ e', Expired u k p'.1 e' p'.2 ∧ e.currentGroup ≤ e'.currentGroup := by
  induction steps with
  | refl => exact ⟨e, h, le_rfl⟩
  | tail _ step ih =>
    obtain ⟨e₁, h₁, hle₁⟩ := ih
    obtain ⟨e₂, h₂, hle₂⟩ := h₁.step step
    exact ⟨e₂, h₂, hle₁.trans hle₂⟩

/-- The group that a check gives an entry: none without a level, else by the timeouts and the level. -/
def AgedBy (c : BundleActiveGroupController) (s : HistoryState) (e e' : BundleActivePackageHistory)
    (t : ℤ) : Prop :=
  ((∀ i, ¬ Reached c s e t i) → e'.currentGroup = e.currentGroup) ∧
    ∀ i, Reached c s e t i → (∀ j, i < j → ¬ Reached c s e t j) →
      e'.currentGroup =
        if e.bundleAliveTimeoutTimeStamp > s.getBootBasedTimeStamp t then activeGroupAlive
        else if e.bundleDailyTimeoutTimeStamp > s.getBootBasedTimeStamp t ∧
            levelGroup i ≥ activeGroupDaily then activeGroupDaily
        else max e.currentGroup (levelGroup i)

/-- The ageing law of a check, and that over a run of checks after both timeouts no group becomes more
active. -/
theorem group_ages {Start : HistoryTables → Prop} {Allowed : HistoryState → HistoryOp → Prop}
    (run : Run c Start Allowed s) :
    (∀ b u uid t, Ages (s.foundHistory b u t uid) →
      ∃ e', (c.checkAndUpdateGroup s b u uid t).historyOf u (getBundleUsageKey b uid) = some e' ∧
        AgedBy c s (s.foundHistory b u t uid) e' t) ∧
    ∀ u k t e p p', s.historyOf u k = some e → Ages e →
      e.bundleAliveTimeoutTimeStamp ≤ s.getBootBasedTimeStamp t →
      e.bundleDailyTimeoutTimeStamp ≤ s.getBootBasedTimeStamp t →
      Relation.ReflTransGen (CheckStep c) (t, s) p → Relation.ReflTransGen (CheckStep c) p p' →
      ∃ e₁ e₂, p.2.historyOf u k = some e₁ ∧ p'.2.historyOf u k = some e₂ ∧
        e₁.currentGroup ≤ e₂.currentGroup := by
  refine ⟨fun b u uid t hages => ⟨_, (checkAndUpdateGroup_spec (named_run run) b u uid t).self, ?_⟩,
    fun u k t e p p' he hages halive hdaily steps steps' => ?_⟩
  · rw [AgedBy, checkedHistory_group hages]
    constructor
    · intro hnone
      rw [levelOf_eq_none.2 hnone]
      rfl
    · intro i hreached hhighest
      rw [levelOf_eq_some.2 ⟨hreached, hhighest⟩]
      rfl
  · have h : Expired u k t e s := ⟨named_run run, he, hages, halive, hdaily⟩
    obtain ⟨e₁, h₁, -⟩ := h.steps steps
    obtain ⟨e₂, h₂, hle⟩ := h₁.steps steps'
    exact ⟨e₁, e₂, h₁.entry, h₂.entry, hle⟩

def usedBundle : HistoryState :=
  (new {} 1000).apply (.init false) (.reportEvent
    { bundleName := "com.example.mail", eventId := .abilityForeground, timeStamp := 1709251200000
      uid := 20010001 } 5000 100 true)

/-- Fourteen hours later, the screen off all the time, a check finds the second level. -/
theorem group_ages_halfDay :
    (∃ e', (BundleActiveGroupController.checkAndUpdateGroup (.init false) usedBundle
          "com.example.mail" 100 20010001 50400000).historyOf 100 "com.example.mail20010001" =
        some e' ∧ e'.currentGroup = activeGroupDaily) ∧
      ∃ e₁ e₂, usedBundle.historyOf 100 "com.example.mail20010001" = some e₁ ∧
        (BundleActiveGroupController.checkAndUpdateGroup (.init false) usedBundle
          "com.example.mail" 100 20010001 50400000).historyOf 100 "com.example.mail20010001" =
          some e₂ ∧ e₁.currentGroup ≤ e₂.currentGroup := by
  have run : Run (.init false) (fun _ => True) (fun _ _ => True) usedBundle :=
    .step (.reportEvent _ _ _ _) (.start {} 1000 trivial) trivial
  let e : BundleActivePackageHistory :=
    { bundleName := "com.example.mail", uid := 20010001, currentGroup := activeGroupAlive
      reasonInGroup := groupControlReasonUsage ||| groupEventReasonForeground
      lastBootFromUsedTimeStamp := 4000, lastScreenUsedTimeStamp := 0
      bundleAliveTimeoutTimeStamp := 3604000, isChanged := true
      bundlefirstUseTimeStamp := 1709251200000 }
  have he : usedBundle.historyOf 100 "com.example.mail20010001" = some e := by decide +kernel
  have hfound : usedBundle.foundHistory "com.example.mail" 100 50400000 20010001 = e := by
    decide +kernel
  have hages : Ages e := .inr (.inl (by decide))
  obtain ⟨hcheck, hrun⟩ := group_ages run
  constructor
  · obtain ⟨e', he', haged⟩ := hcheck "com.example.mail" 100 20010001 50400000 (hfound ▸ hages)
    refine ⟨e', he', ?_⟩
    rw [hfound] at haged
    rw [haged.2 1 (by unfold Reached; decide +kernel) (by unfold Reached; decide +kernel)]
    decide +kernel
  · exact hrun 100 "com.example.mail20010001" 50400000 e (50400000, usedBundle) _ he hages
      (by decide +kernel) (by decide +kernel) .refl
      (.single (.check _ le_rfl "com.example.mail" 100 20010001))

end HistoryState
end DeviceUsageStats
