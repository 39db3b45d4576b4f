import DeviceUsageStats.Proofs.ForcedGroup

/-! One entry over the operations of one life of the service. A property of the entry of a key that the
reports and the checks of its bundle keep holds on as long as nothing is set for the bundle and the bundle
and its user are there. -/

namespace DeviceUsageStats
namespace HistoryState

variable {s s' : HistoryState} {u u' uid t : ℤ} {k k' b : String} {e e' : BundleActivePackageHistory}
  {c : BundleActiveGroupController} {P : BundleActivePackageHistory → Prop}

def HasEntry (u : ℤ) (k : String) (P : BundleActivePackageHistory → Prop) (s : HistoryState) : Prop :=
  ∃ e, s.historyOf u k = some e ∧ P e

theorem HasEntry.of_view (h : HasEntry u k P s) (hview : s'.historyOf u k = s.historyOf u k) :
    HasEntry u k P s' := by
  unfold HasEntry
  rw [hview]
  exact h

theorem HasEntry.puts (h : HasEntry u k P s)
    (hputs : Puts u' (getBundleUsageKey b uid) e s s')
    (hkeep : u' = u → getBundleUsageKey b uid = k → P (s.foundHistory b u' t uid) → P e) :
    HasEntry u k P s' := by
  by_cases hat : u = u' ∧ k = getBundleUsageKey b uid
  · obtain ⟨e₀, he₀, hP⟩ := h
    have hfound : s.foundHistory b u' t uid = e₀ := by
      rw [foundHistory, ← hat.1, ← hat.2, he₀]
      rfl
    refine ⟨e, ?_, hkeep hat.1.symm hat.2.symm (hfound ▸ hP)⟩
    rw [hputs.entry, if_pos hat]
  · refine h.of_view ?_
    rw [hputs.entry, if_neg hat]

theorem HasEntry.writeBundleUsage (h : HasEntry u k P s) (kept : Kept s)
    (hunmarked : ∀ e, P e → P (unmarked e)) (u' : ℤ) : HasEntry u k P (s.writeBundleUsage u') := by
  by_cases hu' : u' ∈ s.userHistory
  · obtain ⟨e, he, hP⟩ := h
    unfold HasEntry
    rw [historyOf_writeBundleUsage kept hu']
    split_ifs with heq
    · exact ⟨unmarked e, by rw [← heq, he]; rfl, hunmarked e hP⟩
    · exact ⟨e, he, hP⟩
  · rw [writeBundleUsage_of_not_mem hu']
    exact h

theorem HasEntry.setTo (h : HasEntry u k P s) (hunmarked : ∀ e, P e → P (unmarked e))
    (hne : ¬ (u = u' ∧ k = k')) (hset : SetTo u' k' e s s')
    (kept : ∀ s₁, Puts u' k' e s s₁ → Kept s₁) : HasEntry u k P s' := by
  obtain ⟨s₁, flushed, changes, hputs, -, rfl⟩ := hset.set
  have h₁ : HasEntry u k P s₁ := h.of_view (by rw [hputs.entry, if_neg hne])
  change HasEntry u k P (if flushed = true then s₁.writeBundleUsage u' else s₁)
  split_ifs
  · exact h₁.writeBundleUsage (kept s₁ hputs) hunmarked u'
  · exact h₁

theorem historyOf_onBundleUninstalled (kept : Kept s) (u' : ℤ) (b : String) (uid appIndex : ℤ)
    (hkey : ¬ (u' = u ∧ b.toList <+: k.toList)) :
    (s.onBundleUninstalled u' b uid appIndex).historyOf u k = s.historyOf u k := by
  by_cases hu : u = u'
  · subst hu
    unfold onBundleUninstalled
    cases hm : s.userHistory[u]? with
    | none => rfl
    | some m =>
      rw [historyOf_of_memory hm, historyOf_of_memory Std.TreeMap.getElem?_insert_self,
        getElem?_deleteUsageGroupCache]
      have hstarts : ¬ b.toList <+: k.toList := fun h => hkey ⟨rfl, h⟩
      cases m[k]? <;> simp [hstarts]
  · exact (onBundleUninstalled_spec kept u' b uid appIndex).2 u k hu

/-! ### The clock of one life of the service -/

theorem Puts.clock (h : Puts u k e s s') (t : ℤ) :
    s'.getBootBasedTimeStamp t = s.getBootBasedTimeStamp t := by
  rw [h.object]
  rfl

theorem clock_writeBundleUsage (s : HistoryState) (u t : ℤ) :
    (s.writeBundleUsage u).getBootBasedTimeStamp t = s.getBootBasedTimeStamp t := by
  unfold writeBundleUsage putBundleHistoryData
  split
  · simp only
    split_ifs <;> rfl
  · rfl

theorem SetTo.clock (h : SetTo u k e s s') (t : ℤ) :
    s'.getBootBasedTimeStamp t = s.getBootBasedTimeStamp t := by
  obtain ⟨s₁, flushed, changes, hputs, -, rfl⟩ := h.set
  change BundleActiveUserHistory.getBootBasedTimeStamp
    (if flushed = true then s₁.writeBundleUsage u else s₁).toBundleActiveUserHistory t = _
  split_ifs
  · rw [clock_writeBundleUsage, hputs.clock]
  · exact hputs.clock t

theorem clock_onBundleUninstalled (s : HistoryState) (u : ℤ) (b : String) (uid appIndex t : ℤ) :
    (s.onBundleUninstalled u b uid appIndex).getBootBasedTimeStamp t =
      s.getBootBasedTimeStamp t := by
  unfold onBundleUninstalled
  split <;> rfl

theorem clock_apply (inv : Inv ForcedSaved s) (op : HistoryOp) (free : NamesFree s op)
    (hlife : ∀ saved t, op ≠ .restart saved t) (t : ℤ) :
    (s.apply c op).getBootBasedTimeStamp t = s.getBootBasedTimeStamp t := by
  cases op with
  | reportEvent event t' u installed =>
    rcases reportEvent_spec (c := c) inv.named event t' u installed with heq | ⟨_, -, hputs⟩
    · rw [apply, heq]
    · exact hputs.clock t
  | checkAndUpdateGroup b u uid t' => exact (checkAndUpdateGroup_spec inv.named b u uid t').clock t
  | checkEachBundleState u bundles t' =>
    refine (checkEach_induct (I := fun s₁ => s₁.getBootBasedTimeStamp t = s.getBootBasedTimeStamp t)
      inv free rfl fun s₁ inv₁ h₁ oneBundle _ => ?_).2
    exact ((checkAndUpdateGroup_spec inv₁.named oneBundle.1 u oneBundle.2 t').clock t).trans h₁
  | setAppGroup b newGroup u t' isFlush installed =>
    refine (setAppGroupOfBundle_induct (I := fun s₁ => s₁.getBootBasedTimeStamp t =
      s.getBootBasedTimeStamp t) inv.named rfl ?_).2
    rintro s₁ uid s₂ - h₁ - hset
    exact (hset.clock t).trans h₁
  | updateBootBasedAndScreenTime on t' isShutdown =>
    exact getBootBasedTimeStamp_updateBootBasedAndScreenTime s on isShutdown t' t
  | writeBundleUsage u => exact clock_writeBundleUsage s u t
  | onBundleUninstalled u b uid appIndex => exact clock_onBundleUninstalled s u b uid appIndex t
  | onUserRemoved u => rfl
  | restart saved t' => exact absurd rfl (hlife saved t')

/-! ### Operations -/

/-- Nothing is set for the bundle of a key, the bundle and its user stay, and the service lives on. -/
def Spared (u : ℤ) (k : String) : HistoryOp → Prop
  | .setAppGroup bundleName _ userId _ _ _ =>
    userId = u → ∀ uid, getBundleUsageKey bundleName uid ≠ k
  | .onBundleUninstalled userId bundleName _ _ => ¬ (userId = u ∧ bundleName.toList <+: k.toList)
  | .onUserRemoved userId => userId ≠ u
  | .restart _ _ => False
  | _ => True

def ChecksAt (u : ℤ) (k : String) (t : ℤ) : HistoryOp → Prop
  | .checkAndUpdateGroup bundleName userId uid bootBasedTimeStamp =>
    userId = u ∧ getBundleUsageKey bundleName uid = k ∧ bootBasedTimeStamp = t
  | .checkEachBundleState userId allBundlesForUser bootBasedTimeStamp =>
    userId = u ∧ (∃ oneBundle ∈ allBundlesForUser, getBundleUsageKey oneBundle.1 oneBundle.2 = k) ∧
      bootBasedTimeStamp = t
  | _ => False

def Reports (u : ℤ) (k : String) : HistoryOp → Prop
  | .reportEvent event _ userId _ =>
    userId = u ∧ getBundleUsageKey event.bundleName event.uid = k
  | _ => False

theorem hasEntry_apply (inv : Inv ForcedSaved s) (hP : HasEntry u k P s)
    (hunmarked : ∀ e, P e → P (unmarked e)) (op : HistoryOp) (free : NamesFree s op)
    (spared : Spared u k op)
    (hreported : Reports u k op → ∀ (event : BundleActiveEvent) (eventReason : ℕ) (t : ℤ) (e : _),
      eventIdMatchReason event.eventId = some eventReason → P e →
        P (reportedHistory c s e event eventReason t u))
    (hchecked : ∀ (t : ℤ) (s₁ : HistoryState) (e : _), ChecksAt u k t op →
      s₁.getBootBasedTimeStamp t = s.getBootBasedTimeStamp t → P e → P (checkedHistory c s₁ e t)) :
    HasEntry u k P (s.apply c op) := by
  cases op with
  | reportEvent event t u' installed =>
    rcases reportEvent_spec (c := c) inv.named event t u' installed with
      heq | ⟨reason, hreason, hputs⟩
    · rw [apply, heq]
      exact hP
    · refine hP.puts (t := t) hputs fun hu hk hfound => ?_
      subst hu
      exact hreported ⟨rfl, hk⟩ event reason t _ hreason hfound
  | checkAndUpdateGroup b u' uid t =>
    exact hP.puts (checkAndUpdateGroup_spec inv.named b u' uid t)
      fun hu hk hfound => hchecked t s _ ⟨hu, hk, rfl⟩ rfl hfound
  | checkEachBundleState u' bundles t =>
    refine (checkEach_induct (I := fun s₁ => HasEntry u k P s₁ ∧
      s₁.getBootBasedTimeStamp t = s.getBootBasedTimeStamp t) inv free ⟨hP, rfl⟩
      fun s₁ inv₁ h₁ oneBundle hmem => ?_).2.1
    have hputs := checkAndUpdateGroup_spec (c := c) inv₁.named oneBundle.1 u' oneBundle.2 t
    refine ⟨h₁.1.puts (t := t) hputs fun hu hk hfound => ?_, (hputs.clock t).trans h₁.2⟩
    exact hchecked t s₁ _ ⟨hu, ⟨oneBundle, hmem, hk⟩, rfl⟩ h₁.2 hfound
  | setAppGroup b newGroup u' t isFlush installed =>
    refine (setForced_induct inv free hP fun s₁ uid s₂ h₁ hset hkept => ?_).2
    exact h₁.setTo hunmarked (fun hat => spared hat.1.symm uid hat.2.symm) hset hkept
  | updateBootBasedAndScreenTime on t isShutdown =>
    obtain ⟨hmemory, -, htable⟩ := updateBootBasedAndScreenTime_histories s on t isShutdown
    exact hP.of_view (historyOf_congr hmemory htable u k)
  | writeBundleUsage u' => exact hP.writeBundleUsage inv.toKept hunmarked u'
  | onBundleUninstalled u' b uid appIndex =>
    exact hP.of_view (historyOf_onBundleUninstalled inv.toKept u' b uid appIndex spared)
  | onUserRemoved u' =>
    refine hP.of_view ?_
    rw [apply, historyOf_onUserRemoved, if_neg spared.symm]
  | restart saved t => exact absurd spared not_false

end HistoryState
end DeviceUsageStats
