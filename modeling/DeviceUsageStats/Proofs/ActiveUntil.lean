import DeviceUsageStats.Proofs.EntryRuns

/-! A use keeps a bundle active for a time. Until the time-out of a use has passed, whatever else is
reported, checked, set for other bundles or saved leaves the bundle in the group of the use or in a more
active one. -/

namespace DeviceUsageStats
namespace HistoryState

variable {s s' : HistoryState} {u u' uid t : ℤ} {k k' b : String} {e e' : BundleActivePackageHistory}
  {c : BundleActiveGroupController} {g T : ℤ}

/-- The entry is that of a uid, free to move and at least as active as a group, and its time-out for the
group lies at a time or later. -/
structure Active (uid g T : ℤ) (e : BundleActivePackageHistory) : Prop where
  own : e.uid = uid
  free : ¬ e.IsForced
  group : e.currentGroup ≤ g
  timeout : g = activeGroupAlive ∧ T ≤ e.bundleAliveTimeoutTimeStamp ∨
    g = activeGroupDaily ∧ T ≤ e.bundleDailyTimeoutTimeStamp

/-! ### One entry -/

theorem useHistory_active (h : BundleActiveUserHistory) (e : BundleActivePackageHistory)
    (newGroup : ℤ) {event : BundleActiveEvent} {eventReason : ℕ}
    (hreason : eventIdMatchReason event.eventId = some eventReason) (t u : ℤ) (b : String)
    (own : e.uid = uid) (hgroup : e.currentGroup ≤ g ∨ newGroup ≤ g)
    (htimeout : g = activeGroupAlive ∧ T ≤ e.bundleAliveTimeoutTimeStamp ∨
      g = activeGroupDaily ∧ T ≤ e.bundleDailyTimeoutTimeStamp) :
    Active uid g T (h.useHistory e newGroup eventReason t u b).1 := by
  have hcontrol := control_of_eventReason hreason
  unfold BundleActiveUserHistory.useHistory
  refine ⟨?_, not_forced_of_control (.inl hcontrol), ?_, ?_⟩
  · by_cases ht : t > 0
    · simpa [ht] using own
    · simpa [ht] using own
  · by_cases ht : t > 0
    all_goals
      simp only [ht, if_true, if_false]
      split_ifs <;> omega
  · by_cases ht : t > 0
    · simpa [ht] using htimeout
    · simpa [ht] using htimeout

theorem Active.reported (h : Active uid g T e) {event : BundleActiveEvent} {eventReason : ℕ}
    (hreason : eventIdMatchReason event.eventId = some eventReason) (t u : ℤ) :
    Active uid g T (reportedHistory c s e event eventReason t u) := by
  unfold reportedHistory BundleActiveUserHistory.reportUsage
  simp only
  split_ifs with hforced htime halive hdaily
  · exact absurd hforced h.free
  · refine useHistory_active _ _ _ hreason _ _ _ h.own (.inl h.group) (h.timeout.imp ?_ id)
    exact fun ⟨hg, hT⟩ => ⟨hg, hT.trans (le_max_right _ _)⟩
  · refine useHistory_active _ _ _ hreason _ _ _ h.own (.inl h.group) (h.timeout.imp id ?_)
    exact fun ⟨hg, hT⟩ => ⟨hg, hT.trans (le_max_right _ _)⟩
  · exact ⟨h.own, h.free, h.group, h.timeout⟩
  · exact useHistory_active _ _ _ hreason _ _ _ h.own (.inl h.group) h.timeout

theorem active_reportedHistory (own : e.uid = uid) (free : ¬ e.IsForced) {event : BundleActiveEvent} {eventReason : ℕ}
    (hreason : eventIdMatchReason event.eventId = some eventReason) (t u : ℤ)
    (hahead : (c.usageOf event t).2.1 < (c.usageOf event t).2.2) :
    Active uid (c.usageOf event t).1 (s.getBootBasedTimeStamp (c.usageOf event t).2.2)
      (reportedHistory c s e event eventReason t u) := by
  have hgroup : (c.usageOf event t).1 = activeGroupAlive ∨
      (c.usageOf event t).1 = activeGroupDaily := by
    unfold BundleActiveGroupController.usageOf
    split
    · exact .inr rfl
    all_goals exact .inl rfl
  unfold reportedHistory BundleActiveUserHistory.reportUsage
  generalize c.usageOf event t = usage at hgroup hahead ⊢
  obtain ⟨newGroup, usedAt, timeUntilNextCheck⟩ := usage
  simp only at hgroup hahead ⊢
  have hnext : s.getBootBasedTimeStamp timeUntilNextCheck =
      s.bootBasedDuration + (timeUntilNextCheck - s.bootBasedTimeStamp) := by
    unfold BundleActiveUserHistory.getBootBasedTimeStamp
    omega
  rw [hnext]
  split_ifs with hforced halive hdaily
  · exact absurd hforced free
  · exact useHistory_active _ _ _ hreason _ _ _ own (.inr le_rfl) (.inl ⟨halive, le_max_left _ _⟩)
  · exact useHistory_active _ _ _ hreason _ _ _ own (.inr le_rfl) (.inr ⟨hdaily, le_max_left _ _⟩)
  · exact absurd hgroup (not_or.2 ⟨halive, hdaily⟩)

theorem levelGroup_ge (i : Fin 4) : activeGroupAlive ≤ levelGroup i := by
  fin_cases i <;> decide

theorem Active.checkedGroup_le (h : Active uid g T e) {level : Option ℤ} {adjusted newGroup : ℤ}
    {groupReason : ℕ} {notTimeout : Bool} (hlevel : ∀ group ∈ level, activeGroupAlive ≤ group)
    (hbefore : adjusted < T)
    (hchecked : BundleActiveGroupController.checkedGroup e level adjusted =
      some (newGroup, groupReason, notTimeout)) : newGroup ≤ g := by
  unfold BundleActiveGroupController.checkedGroup at hchecked
  simp only at hchecked
  split at hchecked
  · cases hchecked
  · rename_i found hfound
    have halive : activeGroupAlive ≤ found := by
      split_ifs at hfound
      · exact hlevel found hfound
      · cases hfound
        exact le_max_right _ _
    have hle : activeGroupAlive ≤ g := by
      rcases h.timeout with ⟨rfl, -⟩ | ⟨rfl, -⟩ <;> decide
    split_ifs at hchecked with hfirst hsecond
    · cases hchecked
      exact hle
    · cases hchecked
      rcases h.timeout with ⟨-, hT⟩ | ⟨rfl, -⟩
      · exact absurd ⟨halive, by omega⟩ hfirst
      · exact le_rfl
    all_goals
      cases hchecked
      rcases h.timeout with ⟨-, hT⟩ | ⟨rfl, hT⟩
      · exact absurd ⟨halive, by omega⟩ hfirst
      · by_contra hgt
        exact hsecond ⟨by omega, by omega⟩

theorem Active.checked (h : Active uid g T e) (hbefore : s.getBootBasedTimeStamp t < T) :
    Active uid g T (checkedHistory c s e t) := by
  have hlevel : ∀ group ∈ (levelOf c s e t).map levelGroup, activeGroupAlive ≤ group := by
    intro group hgroup
    obtain ⟨i, -, rfl⟩ := Option.map_eq_some_iff.1 hgroup
    exact levelGroup_ge i
  unfold checkedHistory
  rw [if_neg h.free]
  cases hchecked : BundleActiveGroupController.checkedGroup e ((levelOf c s e t).map levelGroup)
    (s.getBootBasedTimeStamp t) with
  | none => exact h
  | some result =>
    obtain ⟨newGroup, groupReason, notTimeout⟩ := result
    have hle := h.checkedGroup_le hlevel hbefore hchecked
    have hreason := checkedGroup_reason h.free hchecked
    simp only
    unfold setHistory
    split_ifs
    · exact h
    · exact ⟨h.own, hreason, hle, h.timeout⟩
    · exact h

/-! ### Runs -/

/-- A check of the entry of a key comes before a time; no setting, uninstall or removal takes it, and the
service lives on. -/
def Undisturbed (u : ℤ) (k : String) (timeUntilNextCheck : ℤ) (op : HistoryOp) : Prop :=
  Spared u k op ∧ ∀ t, ChecksAt u k t op → t < timeUntilNextCheck

theorem hasActive_apply (inv : Inv ForcedSaved s) {next : ℤ} (hT : s.getBootBasedTimeStamp next = T)
    (hactive : HasEntry u k (Active uid g T) s) (op : HistoryOp) (free : NamesFree s op)
    (undisturbed : Undisturbed u k next op) : HasEntry u k (Active uid g T) (s.apply c op) := by
  refine hasEntry_apply inv hactive (fun e he => ⟨he.own, he.free, he.group, he.timeout⟩) op free
    undisturbed.1 (fun _ event reason t e hreason he => he.reported hreason t u)
    fun t s₁ e hat hclock he => ?_
  refine he.checked ?_
  have hbefore := undisturbed.2 t hat
  rw [hclock, ← hT]
  unfold BundleActiveUserHistory.getBootBasedTimeStamp
  omega

/-- A step that leaves the entry of a key until a time. -/
def UndisturbedStep (c : BundleActiveGroupController) (u : ℤ) (k : String) (timeUntilNextCheck : ℤ)
    (s s' : HistoryState) : Prop :=
  ∃ op, NamesFree s op ∧ Undisturbed u k timeUntilNextCheck op ∧ s.apply c op = s'

/-- The time-outs of an initialised controller are positive, and the clock starts at 0. -/
theorem usageOf_init_ahead (debug : Bool) (event : BundleActiveEvent) (ht : 0 ≤ t) :
    ((BundleActiveGroupController.init debug).usageOf event t).2.1 <
      ((BundleActiveGroupController.init debug).usageOf event t).2.2 := by
  unfold BundleActiveGroupController.usageOf BundleActiveGroupController.init
  cases debug <;> split <;> simp [groupOneHour, groupOneMinute] <;> omega

/-- A bundle that is not forced and is reported stays in the group of the use or in a more active one for
all that happens before the time-out. -/
theorem active_until {debug : Bool} (inv : Inv ForcedSaved s) (event : BundleActiveEvent)
    {eventReason : ℕ} (ht : 0 ≤ t) (hreason : eventIdMatchReason event.eventId = some eventReason)
    (keyFree : KeyFree s u event.bundleName event.uid)
    (own : ∀ e, s.historyOf u (getBundleUsageKey event.bundleName event.uid) = some e →
      e.uid = event.uid ∧ ¬ e.IsForced)
    (steps : Relation.ReflTransGen (UndisturbedStep (.init debug) u
      (getBundleUsageKey event.bundleName event.uid)
      ((BundleActiveGroupController.init debug).usageOf event t).2.2)
      (s.apply (.init debug) (.reportEvent event t u true)) s') :
    Inv ForcedSaved s' ∧ HasEntry u (getBundleUsageKey event.bundleName event.uid)
      (fun e => e.uid = event.uid ∧
        e.currentGroup ≤ ((BundleActiveGroupController.init debug).usageOf event t).1) s' := by
  have hahead := usageOf_init_ahead debug event ht
  have henable : (BundleActiveGroupController.init debug).bundleGroupEnable = true := rfl
  generalize BundleActiveGroupController.init debug = c at steps hahead henable ⊢
  have hputs := puts_reportEvent (c := c) inv.named event henable hreason t u
  have hfound : (s.foundHistory event.bundleName u t event.uid).uid = event.uid ∧
      ¬ (s.foundHistory event.bundleName u t event.uid).IsForced := by
    unfold foundHistory
    cases he : s.historyOf u (getBundleUsageKey event.bundleName event.uid) with
    | none => exact ⟨rfl, not_forced_newUsageHistory _ event.bundleName t event.uid⟩
    | some e => exact own e he
  have hreported : HasEntry u (getBundleUsageKey event.bundleName event.uid)
      (Active event.uid (c.usageOf event t).1 (s.getBootBasedTimeStamp (c.usageOf event t).2.2))
      (s.apply c (.reportEvent event t u true)) := by
    refine ⟨_, ?_, active_reportedHistory hfound.1 hfound.2 hreason t u hahead⟩
    rw [apply, hputs.entry, if_pos ⟨rfl, rfl⟩]
  have hrun : Inv ForcedSaved s' ∧
      s'.getBootBasedTimeStamp (c.usageOf event t).2.2 =
        s.getBootBasedTimeStamp (c.usageOf event t).2.2 ∧
      HasEntry u (getBundleUsageKey event.bundleName event.uid)
        (Active event.uid (c.usageOf event t).1
          (s.getBootBasedTimeStamp (c.usageOf event t).2.2)) s' := by
    induction steps with
    | refl => exact ⟨inv_apply inv _ keyFree, hputs.clock _, hreported⟩
    | tail _ step ih =>
      obtain ⟨op, free, hundisturbed, rfl⟩ := step
      obtain ⟨hinv, hclock, hactive⟩ := ih
      refine ⟨inv_apply hinv op free, ?_, hasActive_apply hinv hclock hactive op free hundisturbed⟩
      refine (clock_apply hinv op free ?_ _).trans hclock
      rintro saved t rfl
      exact hundisturbed.1
  obtain ⟨hinv, -, e, he, hactive⟩ := hrun
  exact ⟨hinv, e, he, hactive.own, hactive.group⟩

end HistoryState
end DeviceUsageStats
