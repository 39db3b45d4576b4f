import DeviceUsageStats.Proofs.ActiveUntil
import DeviceUsageStats.Proofs.BundleGroups
import DeviceUsageStats.Proofs.GroupHandler

/-! What callers are told about a bundle. The two queries about its group agree, and for a bundle that was
just used they tell that it is in use until its time-out. -/

namespace DeviceUsageStats
namespace HistoryState

variable {s s' : HistoryState} {u u' uid t : ℤ} {b k : String}
  {e : BundleActivePackageHistory} {c : BundleActiveGroupController}

/-! ### The two queries -/

theorem le_queryAppGroup_iff {m : OneUserHistory} (x : ℤ) (b : String) (u t : ℤ) :
    x ≤ m.toList.foldl (fun appGroup entry =>
        match s.scannedHistory b u t entry with
        | none => appGroup
        | some oneBundleHistory => min oneBundleHistory.currentGroup appGroup) activeGroupNever ↔
      x ≤ activeGroupNever ∧
        ∀ entry ∈ m.toList, ∀ e, s.scannedHistory b u t entry = some e → x ≤ e.currentGroup := by
  rw [Entries.le_foldl_iff fun entry => (s.scannedHistory b u t entry).map (·.currentGroup)]
  · simp only [Option.map_eq_some_iff, forall_exists_index, and_imp, forall_apply_eq_imp_iff₂]
  · intro least entry x
    cases s.scannedHistory b u t entry with
    | none => simp
    | some e => simp [and_comm]

theorem isBundleIdle_scan {m : OneUserHistory} (b : String) (u t : ℤ) :
    m.toList.foldl (fun isBundleIdle entry =>
        match s.scannedHistory b u t entry with
        | none => isBundleIdle
        | some oneBundleHistory =>
          if oneBundleHistory.currentGroup ≤ activeGroupRare then 0 else isBundleIdle) (1 : ℤ) =
      if ∀ entry ∈ m.toList, ∀ e, s.scannedHistory b u t entry = some e →
        activeGroupRare < e.currentGroup then 1 else 0 := by
  rw [Entries.foldl_set (fun entry =>
    (s.scannedHistory b u t entry).any (·.currentGroup ≤ activeGroupRare)) 0]
  · have hany : (m.toList.any fun entry =>
        (s.scannedHistory b u t entry).any (·.currentGroup ≤ activeGroupRare)) = true ↔
        ¬ ∀ entry ∈ m.toList, ∀ e, s.scannedHistory b u t entry = some e →
          activeGroupRare < e.currentGroup := by
      simp only [List.any_eq_true, Option.any_eq_true, decide_eq_true_eq]
      push Not
      rfl
    rw [if_congr hany rfl rfl, ite_not]
  · intro idle entry
    cases s.scannedHistory b u t entry with
    | none => simp
    | some e => simp

/-- A bundle is idle for one query exactly if the other finds it in a group beyond the rare ones; a query
that fails for one fails for the other. -/
theorem isBundleIdle_iff_queryAppGroup (s : HistoryState) (b : String) (u t : ℤ) (installed : Bool)
    (hb : b = "" → installed = false) :
    match s.queryAppGroup b u t installed with
    | .error _ => s.isBundleIdle b u t installed = -1
    | .ok appGroup =>
      s.isBundleIdle b u t installed = if activeGroupRare < appGroup then 1 else 0 := by
  unfold queryAppGroup isBundleIdle
  cases installed with
  | false =>
    by_cases hempty : b = ""
    · rw [if_pos hempty]
      rfl
    · rw [if_neg hempty]
      rfl
  | true =>
    rw [if_neg fun h => Bool.false_ne_true (hb h).symm]
    simp only [Bool.true_eq_false, if_false]
    cases s.userHistory[u]? with
    | none => rfl
    | some m =>
      refine (isBundleIdle_scan b u t).trans (if_congr ?_ rfl rfl)
      rw [← Int.add_one_le_iff]
      refine Iff.trans ?_ (le_queryAppGroup_iff (activeGroupRare + 1) b u t).symm
      exact ⟨fun h => ⟨by decide, h⟩, fun h => h.2⟩

/-- A bundle that was only looked up is in the last group, and idle. -/
theorem isBundleIdle_iff_queryAppGroup_new :
    match newBundle.queryAppGroup "com.example.mail" 100 2000 true with
    | .error _ => newBundle.isBundleIdle "com.example.mail" 100 2000 true = -1
    | .ok appGroup => newBundle.isBundleIdle "com.example.mail" 100 2000 true =
        if activeGroupRare < appGroup then 1 else 0 :=
  isBundleIdle_iff_queryAppGroup newBundle "com.example.mail" 100 2000 true (by decide)

/-! ### A bundle that was just used -/

theorem mem_foldl_check (hs : s.Named) (u' t : ℤ) (bundles : List (String × ℤ))
    (hu : u ∈ s.userHistory) : u ∈ (c.checkEachBundleState s u' bundles t).userHistory := by
  refine (List.foldlRecOn (motive := fun s₁ : HistoryState => s₁.Named ∧ u ∈ s₁.userHistory) bundles _
    ⟨hs, hu⟩ fun s₁ h₁ oneBundle _ => ⟨?_, ?_⟩).2
  · exact (checkAndUpdateGroup_spec h₁.1 oneBundle.1 u' oneBundle.2 t).named h₁.1
  · exact (mem_checkAndUpdateGroup h₁.1 oneBundle.1 u' oneBundle.2 t).2 u h₁.2

theorem mem_reportEvent (hs : s.Named) (event : BundleActiveEvent) (t u' : ℤ) (installed : Bool) :
    (u ∈ s.userHistory → u ∈ (c.reportEvent s event t u' installed).userHistory) ∧
      (c.bundleGroupEnable = true → (eventIdMatchReason event.eventId).isSome → installed = true →
        u' ∈ (c.reportEvent s event t u' installed).userHistory) := by
  obtain ⟨s₁, hget, hloaded, -, -⟩ := getUsageHistoryForBundle_true hs event.bundleName u' t event.uid
  have hmem : u ∈ s.userHistory →
      u ∈ (s.getUsageHistoryForBundle event.bundleName u' t true event.uid).2.userHistory :=
    mem_getUsageHistoryForBundle event.bundleName u' t true event.uid
  rw [hget] at hmem
  unfold BundleActiveGroupController.reportEvent
  split_ifs with hskip
  · refine ⟨id, fun henable _ hinstalled => ?_⟩
    simp [henable, hinstalled] at hskip
  · cases eventIdMatchReason event.eventId with
    | none => exact ⟨id, fun _ hnone => by cases hnone⟩
    | some eventReason =>
      simp only [hget]
      exact ⟨fun hu => (mem_putEntry u).2 (hmem hu), fun _ _ _ => (mem_putEntry u').2 hloaded⟩

theorem mem_setAppGroupOfBundle (b : String) (u' newGroup : ℤ) (reason : ℕ) (t : ℤ)
    (isFlush installed : Bool) (hu : u ∈ s.userHistory) :
    u ∈ (s.setAppGroupOfBundle b u' newGroup reason t isFlush installed).2.userHistory := by
  unfold setAppGroupOfBundle
  split_ifs
  · exact hu
  · cases s.userHistory[u']? with
    | none => exact hu
    | some m =>
      refine List.foldlRecOn (motive := fun r : ErrCode × HistoryState => u ∈ r.2.userHistory)
        m.toList _ hu fun r hr entry _ => ?_
      have hlooked := mem_getUsageHistoryForBundle b u' t true entry.2.uid hr
      have hset := mem_setAppGroup b u' entry.2.uid t newGroup reason isFlush hlooked
      have hagain := mem_setAppGroup b u' entry.2.uid t newGroup reason isFlush hset
      unfold setAppGroupStep
      simp only
      generalize (r.2.getUsageHistoryForBundle b u' t true entry.2.uid).2 = s₁ at hset hagain ⊢
      generalize s₁.setAppGroup b u' entry.2.uid t newGroup reason isFlush = r₁ at hset hagain ⊢
      split_ifs
      all_goals first
        | exact hr
        | exact hset
        | exact hagain

theorem mem_apply (hs : s.Named) (hu : u ∈ s.userHistory) (op : HistoryOp) {k : String}
    (spared : Spared u k op) : u ∈ (s.apply c op).userHistory := by
  cases op with
  | reportEvent event t u' installed => exact (mem_reportEvent hs event t u' installed).1 hu
  | checkAndUpdateGroup b u' uid t => exact (mem_checkAndUpdateGroup hs b u' uid t).2 u hu
  | checkEachBundleState u' bundles t => exact mem_foldl_check hs u' t bundles hu
  | setAppGroup b newGroup u' t isFlush installed =>
    exact mem_setAppGroupOfBundle b u' newGroup groupControlReasonForced t isFlush installed hu
  | updateBootBasedAndScreenTime on t isShutdown =>
    rw [apply, (updateBootBasedAndScreenTime_histories s on t isShutdown).1]
    exact hu
  | writeBundleUsage u' => exact (mem_writeBundleUsage u' u).2 hu
  | onBundleUninstalled u' b uid appIndex =>
    simp only [apply, onBundleUninstalled]
    cases s.userHistory[u']? with
    | none => exact hu
    | some m => exact Std.TreeMap.mem_insert.2 (.inr hu)
  | onUserRemoved u' =>
    refine Std.TreeMap.mem_erase.2 ⟨fun heq => spared ?_, hu⟩
    exact Std.LawfulEqCmp.eq_of_compare heq
  | restart saved t => exact absurd spared not_false

/-- For a bundle that was used, the queries tell until its time-out that it is in use, and in a group no
less active than that of the use. -/
theorem used_in_use {debug : Bool} (run : Run (.init debug) (fun _ => True) NamesFree s)
    (event : BundleActiveEvent) {eventReason : ℕ} (ht : 0 ≤ t) (hb : event.bundleName ≠ "")
    (hreason : eventIdMatchReason event.eventId = some eventReason)
    (keyFree : KeyFree s u event.bundleName event.uid)
    (own : ∀ e, s.historyOf u (getBundleUsageKey event.bundleName event.uid) = some e →
      e.uid = event.uid ∧ ¬ e.IsForced)
    (steps : Relation.ReflTransGen (UndisturbedStep (.init debug) u
      (getBundleUsageKey event.bundleName event.uid)
      ((BundleActiveGroupController.init debug).usageOf event t).2.2)
      (s.apply (.init debug) (.reportEvent event t u true)) s') (now : ℤ) :
    s'.isBundleIdle event.bundleName u now true = 0 ∧
      ∃ appGroup, s'.queryAppGroup event.bundleName u now true = .ok appGroup ∧
        appGroup ≤ ((BundleActiveGroupController.init debug).usageOf event t).1 := by
  have inv := inv_run run
  obtain ⟨hinv, e, he, huid, hgroup⟩ := active_until inv event ht hreason keyFree own steps
  have hu : u ∈ s'.userHistory := by
    clear hinv he hgroup
    have hreported : u ∈ (s.apply (.init debug) (.reportEvent event t u true)).userHistory :=
      (mem_reportEvent (u := u) inv.named event t u true).2 rfl (by rw [hreason]; rfl) rfl
    suffices h : Inv ForcedSaved s' ∧ u ∈ s'.userHistory from h.2
    induction steps with
    | refl => exact ⟨inv_apply inv _ keyFree, hreported⟩
    | tail _ step ih =>
      obtain ⟨op, free, hundisturbed, rfl⟩ := step
      exact ⟨inv_apply ih.1 op free, mem_apply ih.1.named ih.2 op hundisturbed.1⟩
  -- the scan visits the entry and looks the bundle up under its uid
  obtain ⟨m, hm⟩ : ∃ m, s'.userHistory[u]? = some m := by
    rwa [Std.TreeMap.mem_iff_isSome_getElem?, Option.isSome_iff_exists] at hu
  have hentry : (getBundleUsageKey event.bundleName event.uid, e) ∈ m.toList := by
    rw [Std.TreeMap.mem_toList_iff_getElem?_eq_some, ← historyOf_of_memory hm]
    exact he
  have hscan : s'.scannedHistory event.bundleName u now
      (getBundleUsageKey event.bundleName event.uid, e) = some e := by
    unfold scannedHistory
    rw [if_pos (keyContains_getBundleUsageKey event.bundleName event.uid), huid,
      getUsageHistoryForBundle_false event.bundleName u now event.uid hu, he]
  generalize BundleActiveGroupController.init debug = c at hgroup ⊢
  constructor
  · have husage : (c.usageOf event t).1 ≤ activeGroupRare := by
      unfold BundleActiveGroupController.usageOf
      split <;> simp [activeGroupAlive, activeGroupDaily, activeGroupRare]
    unfold isBundleIdle
    simp only [Bool.true_eq_false, if_false, hm]
    refine (isBundleIdle_scan event.bundleName u now).trans (if_neg fun hidle => ?_)
    exact absurd (hidle _ hentry e hscan) (not_lt.2 (hgroup.trans husage))
  · unfold queryAppGroup
    rw [if_neg hb]
    simp only [Bool.true_eq_false, if_false, hm]
    refine ⟨_, rfl, le_trans ?_ hgroup⟩
    exact ((le_queryAppGroup_iff _ event.bundleName u now).1 le_rfl).2 _ hentry e hscan

/-- A use, and a check one millisecond before the time-out. -/
theorem used_in_use_checked :
    ((fixedBundle.apply (.init false) (.reportEvent { mailForeground with uid := 20010002 } 7000 100
      true)).apply (.init false) (.checkAndUpdateGroup "com.example.mail" 100 20010002
        3606999)).isBundleIdle "com.example.mail" 100 3606999 true = 0 ∧
    ∃ appGroup, ((fixedBundle.apply (.init false) (.reportEvent { mailForeground with uid := 20010002 }
      7000 100 true)).apply (.init false) (.checkAndUpdateGroup "com.example.mail" 100 20010002
        3606999)).queryAppGroup "com.example.mail" 100 3606999 true = .ok appGroup ∧
      appGroup ≤ activeGroupAlive := by
  have hnone : fixedBundle.historyOf 100 (getBundleUsageKey "com.example.mail" 20010002) = none := by
    decide +kernel
  refine used_in_use (t := 7000) run_fixedBundle { mailForeground with uid := 20010002 } (by decide)
    (by decide) rfl (keyFree_of_stored rfl) (fun e he => nomatch hnone.symm.trans he)
    (.tail .refl ⟨.checkAndUpdateGroup "com.example.mail" 100 20010002 3606999, keyFree_of_stored rfl,
      ⟨trivial, fun t hat => by rw [← hat.2.2]; decide⟩, rfl⟩) 3606999

end HistoryState
end DeviceUsageStats
