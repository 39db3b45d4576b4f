import DeviceUsageStats.Sanity.HistoryRun

/-! A forced group stays. Every writer of the group but a setting from outside leaves a forced entry's
group and reason alone, and a forced entry that is not marked as changed agrees with its row, so a save
and a restart give it back. -/

namespace DeviceUsageStats
namespace HistoryState

variable {s s' : HistoryState} {u uid t : ℤ} {k b : String} {e e' : BundleActivePackageHistory}
  {c : BundleActiveGroupController}

/-- A forced entry has its group and reason in its row. -/
def ForcedSaved (e : BundleActivePackageHistory) (row : Option BundleHistoryRow) : Prop :=
  e.IsForced → row.map (fun row => (row.currentGroup, row.reasonInGroup)) =
    some (e.currentGroup, e.reasonInGroup)

theorem saveLaw_forcedSaved : SaveLaw ForcedSaved where
  loaded _ _ := rfl
  written _ _ _ := rfl

/-! ### The invariant of every run -/

theorem forcedSaved_of_touch (inv : Inv ForcedSaved s) (b : String) (u t uid : ℤ)
    (h : Touch (s.foundHistory b u t uid) e) (hchanged : e.isChanged = false) :
    ForcedSaved e (s.stored u (getBundleUsageKey b uid)) := by
  have hfound : (s.foundHistory b u t uid).isChanged = false →
      ForcedSaved (s.foundHistory b u t uid) (s.stored u (getBundleUsageKey b uid)) := by
    unfold foundHistory
    cases he : s.historyOf u (getBundleUsageKey b uid) with
    | none => exact fun _ hforced => absurd hforced (not_forced_newUsageHistory _ b t uid)
    | some e => exact inv.saved u _ e he
  cases h with
  | look => exact hfound hchanged
  | first => exact hfound hchanged
  | use e before after bundleName uid changed => rw [changed] at hchanged; cases hchanged

theorem forcedSaved_of_set (inv : Inv ForcedSaved s) (b : String) (u t uid newGroup : ℤ)
    (h : (setHistory (s.foundHistory b u t uid) newGroup groupControlReasonForced).isChanged =
      false) :
    ForcedSaved (setHistory (s.foundHistory b u t uid) newGroup groupControlReasonForced)
      (s.stored u (getBundleUsageKey b uid)) := by
  unfold setHistory at h ⊢
  split_ifs at h ⊢
  exact forcedSaved_of_touch inv b u t uid .look h

/-- No lookup of the operation makes an entry under a key where the row of another bundle or uid is stored. -/
def NamesFree (s : HistoryState) : HistoryOp → Prop
  | .reportEvent event _ userId _ => KeyFree s userId event.bundleName event.uid
  | .checkAndUpdateGroup bundleName userId uid _ => KeyFree s userId bundleName uid
  | .checkEachBundleState userId allBundlesForUser _ =>
    ∀ oneBundle ∈ allBundlesForUser, KeyFree s userId oneBundle.1 oneBundle.2
  | .setAppGroup bundleName _ userId _ _ _ =>
    ∀ k e, s.historyOf userId k = some e → keyContains k bundleName = true →
      KeyFree s userId bundleName e.uid
  | _ => True

theorem SetTo.keyFree (hset : SetTo u k e s s') (kept : ∀ s₁, Puts u k e s s₁ → Kept s₁) {u' uid' : ℤ}
    {b' : String} (free : KeyFree s u' b' uid') : KeyFree s' u' b' uid' := by
  obtain ⟨s₁, flushed, changes, hputs, -, rfl⟩ := hset.set
  have h₁ := hputs.keyFree free
  change KeyFree (if flushed = true then s₁.writeBundleUsage u else s₁) u' b' uid'
  split_ifs
  · exact h₁.writeBundleUsage (kept s₁ hputs) u
  · exact h₁

theorem Inv.touch (inv : Inv ForcedSaved s) (free : KeyFree s u b uid) {t : ℤ}
    (htouch : Touch (s.foundHistory b u t uid) e)
    (hputs : Puts u (getBundleUsageKey b uid) e s s') : Inv ForcedSaved s' :=
  hputs.inv_found inv free htouch.ident (forcedSaved_of_touch inv b u t uid htouch)

theorem Inv.set {newGroup : ℤ} (inv : Inv ForcedSaved s) (free : KeyFree s u b uid)
    (hputs : Puts u (getBundleUsageKey b uid)
      (setHistory (s.foundHistory b u t uid) newGroup groupControlReasonForced) s s') :
    Inv ForcedSaved s' :=
  hputs.inv_found inv free (setHistory_ident _ newGroup groupControlReasonForced)
    (forcedSaved_of_set inv b u t uid newGroup)

theorem Inv.setForced {newGroup : ℤ} (inv : Inv ForcedSaved s) (free : KeyFree s u b uid)
    (hset : SetTo u (getBundleUsageKey b uid)
      (setHistory (s.foundHistory b u t uid) newGroup groupControlReasonForced) s s') :
    Inv ForcedSaved s' := by
  obtain ⟨s₁, flushed, changes, hputs, -, rfl⟩ := hset.set
  refine Inv.withChanges ?_ changes
  split_ifs
  · exact (inv.set free hputs).writeBundleUsage saveLaw_forcedSaved u
  · exact inv.set free hputs

theorem Inv.check (inv : Inv ForcedSaved s) (free : KeyFree s u b uid) (t : ℤ) :
    Inv ForcedSaved (c.checkAndUpdateGroup s b u uid t) :=
  inv.touch free (touch_checkedHistory _ t) (checkAndUpdateGroup_spec inv.named b u uid t)

theorem checkEach_induct {I : HistoryState → Prop} {bundles : List (String × ℤ)}
    (inv : Inv ForcedSaved s) (free : ∀ oneBundle ∈ bundles, KeyFree s u oneBundle.1 oneBundle.2)
    (hI : I s) (hstep : ∀ s₁, Inv ForcedSaved s₁ → I s₁ → ∀ oneBundle ∈ bundles,
      I (c.checkAndUpdateGroup s₁ oneBundle.1 u oneBundle.2 t)) :
    Inv ForcedSaved (c.checkEachBundleState s u bundles t) ∧ I (c.checkEachBundleState s u bundles t) := by
  refine (List.foldlRecOn (motive := fun s₁ => (Inv ForcedSaved s₁ ∧ I s₁) ∧
    ∀ oneBundle ∈ bundles, KeyFree s₁ u oneBundle.1 oneBundle.2) bundles _ ⟨⟨inv, hI⟩, free⟩
    fun s₁ h₁ oneBundle hmem => ?_).1
  have hputs := checkAndUpdateGroup_spec (c := c) h₁.1.1.named oneBundle.1 u oneBundle.2 t
  exact ⟨⟨h₁.1.1.check (h₁.2 oneBundle hmem) t, hstep s₁ h₁.1.1 h₁.1.2 oneBundle hmem⟩,
    fun other hother => hputs.keyFree (h₁.2 other hother)⟩

theorem setForced_induct {I : HistoryState → Prop} {newGroup : ℤ} {isFlush installed : Bool}
    (inv : Inv ForcedSaved s)
    (free : ∀ k e, s.historyOf u k = some e → keyContains k b = true → KeyFree s u b e.uid) (hI : I s)
    (hstep : ∀ s₁ uid s₂, I s₁ → SetTo u (getBundleUsageKey b uid)
      (setHistory (s₁.foundHistory b u t uid) newGroup groupControlReasonForced) s₁ s₂ →
      (∀ s₃, Puts u (getBundleUsageKey b uid)
        (setHistory (s₁.foundHistory b u t uid) newGroup groupControlReasonForced) s₁ s₃ → Kept s₃) →
      I s₂) :
    Inv ForcedSaved
        (s.setAppGroupOfBundle b u newGroup groupControlReasonForced t isFlush installed).2 ∧
      I (s.setAppGroupOfBundle b u newGroup groupControlReasonForced t isFlush installed).2 := by
  refine (setAppGroupOfBundle_induct (I := fun s₁ => (Inv ForcedSaved s₁ ∧ I s₁) ∧ ∀ k e,
    s.historyOf u k = some e → keyContains k b = true → KeyFree s₁ u b e.uid) inv.named
    ⟨⟨inv, hI⟩, free⟩ ?_).2.1
  rintro s₁ uid s₂ - ⟨⟨hinv, h₁⟩, hfree⟩ ⟨k, e, he, hname, rfl⟩ hset
  have hkept : ∀ s₃, Puts u (getBundleUsageKey b e.uid)
      (setHistory (s₁.foundHistory b u t e.uid) newGroup groupControlReasonForced) s₁ s₃ → Kept s₃ :=
    fun s₃ hputs => (hinv.set (hfree k e he hname) hputs).toKept
  exact ⟨⟨hinv.setForced (hfree k e he hname) hset, hstep s₁ e.uid s₂ h₁ hset hkept⟩,
    fun k' e' he' hname' => hset.keyFree hkept (hfree k' e' he' hname')⟩

theorem inv_apply (inv : Inv ForcedSaved s) (op : HistoryOp) (free : NamesFree s op) :
    Inv ForcedSaved (s.apply c op) := by
  cases op with
  | reportEvent event t u installed =>
    rcases reportEvent_spec (c := c) inv.named event t u installed with
      heq | ⟨reason, hreason, hputs⟩
    · rw [apply, heq]
      exact inv
    · exact inv.touch free (touch_reportedHistory _ hreason t u) hputs
  | checkAndUpdateGroup b u uid t => exact inv.check free t
  | checkEachBundleState u bundles t =>
    exact (checkEach_induct (I := fun _ => True) inv free trivial fun _ _ _ _ _ => trivial).1
  | setAppGroup b newGroup u t isFlush installed =>
    exact (setForced_induct (I := fun _ => True) inv free trivial fun _ _ _ _ _ _ => trivial).1
  | updateBootBasedAndScreenTime on t isShutdown =>
    exact inv.updateBootBasedAndScreenTime on t isShutdown
  | writeBundleUsage u => exact inv.writeBundleUsage saveLaw_forcedSaved u
  | onBundleUninstalled u b uid appIndex => exact inv.onBundleUninstalled u b uid appIndex
  | onUserRemoved u => exact inv.onUserRemoved saveLaw_forcedSaved u
  | restart saved t => exact inv_new saveLaw_forcedSaved _ t

theorem inv_run {Start : HistoryTables → Prop} (run : Run c Start NamesFree s) : Inv ForcedSaved s := by
  induction run with
  | start tables t _ => exact inv_new saveLaw_forcedSaved tables t
  | step op _ free ih => exact inv_apply ih op free

/-! ### One forced entry -/

def HasGroup (userId : ℤ) (key : String) (group : ℤ) (reason : ℕ) (s : HistoryState) : Prop :=
  ∃ e, s.historyOf userId key = some e ∧ e.currentGroup = group ∧ e.reasonInGroup = reason

/-- No setting for the key and no uninstall of the user; a restart only after a save of the user. -/
def Unset (u : ℤ) (k : String) : HistoryOp → Prop
  | .setAppGroup bundleName _ userId _ _ _ =>
    userId = u → ∀ uid, getBundleUsageKey bundleName uid ≠ k
  | .onBundleUninstalled userId _ _ _ => userId ≠ u
  | .onUserRemoved userId => userId ≠ u
  | .restart saved _ => u ∈ saved
  | _ => True

section HasGroup

variable {g : ℤ} {r : ℕ} {u' : ℤ} {k' : String}

theorem HasGroup.of_view (h : HasGroup u k g r s) (hview : s'.historyOf u k = s.historyOf u k) :
    HasGroup u k g r s' := by
  unfold HasGroup
  rw [hview]
  exact h

theorem HasGroup.touch (h : HasGroup u k g r s) (hr : r &&& groupControlReasonMask =
    groupControlReasonForced) (htouch : Touch (s.foundHistory b u' t uid) e)
    (hputs : Puts u' (getBundleUsageKey b uid) e s s') : HasGroup u k g r s' := by
  obtain ⟨e₀, he₀, rfl, rfl⟩ := h
  by_cases hat : u = u' ∧ k = getBundleUsageKey b uid
  · have hfound : s.foundHistory b u' t uid = e₀ := by
      rw [foundHistory, ← hat.1, ← hat.2, he₀]
      rfl
    rw [hfound] at htouch
    refine ⟨e, ?_, htouch.sticky hr⟩
    rw [hputs.entry, if_pos hat]
  · refine .of_view ⟨e₀, he₀, rfl, rfl⟩ ?_
    rw [hputs.entry, if_neg hat]

theorem HasGroup.writeBundleUsage (h : HasGroup u k g r s) (kept : Kept s) (u' : ℤ) :
    HasGroup u k g r (s.writeBundleUsage u') := by
  by_cases hu' : u' ∈ s.userHistory
  · obtain ⟨e, he, hg, hr⟩ := h
    unfold HasGroup
    rw [historyOf_writeBundleUsage kept hu']
    split_ifs with heq
    · exact ⟨unmarked e, by rw [← heq, he]; rfl, hg, hr⟩
    · exact ⟨e, he, hg, hr⟩
  · rw [writeBundleUsage_of_not_mem hu']
    exact h

theorem HasGroup.setTo (h : HasGroup u k g r s) (hne : ¬ (u = u' ∧ k = k'))
    (hset : SetTo u' k' e s s') (kept : ∀ s₁, Puts u' k' e s s₁ → Kept s₁) :
    HasGroup u k g r s' := by
  obtain ⟨s₁, flushed, changes, hputs, -, rfl⟩ := hset.set
  have h₁ : HasGroup u k g r s₁ := h.of_view (by rw [hputs.entry, if_neg hne])
  change HasGroup u k g r (if flushed = true then s₁.writeBundleUsage u' else s₁)
  split_ifs
  · exact h₁.writeBundleUsage (kept s₁ hputs) u'
  · exact h₁

end HasGroup

/-- What a save has written, or what is not in memory, is not marked. -/
theorem not_changed_writeBundleUsage (kept : Kept s) {u' : ℤ}
    (h : u' = u ∨ ∀ e, s.historyOf u k = some e → e.isChanged = false)
    (he : (s.writeBundleUsage u').historyOf u k = some e) : e.isChanged = false := by
  by_cases hu' : u' ∈ s.userHistory
  · rw [historyOf_writeBundleUsage kept hu'] at he
    split_ifs at he with heq
    · obtain ⟨e₀, -, rfl⟩ := Option.map_eq_some_iff.1 he
      rfl
    · exact h.resolve_left (fun h => heq h.symm) e he
  · rw [writeBundleUsage_of_not_mem hu'] at he
    rcases h with rfl | h
    · have hnone : s.userHistory[u']? = none := by
        rw [Std.TreeMap.mem_iff_isSome_getElem?] at hu'
        exact Option.not_isSome_iff_eq_none.1 hu'
      rw [historyOf, hnone] at he
      obtain ⟨row, -, rfl⟩ := Option.map_eq_some_iff.1 he
      rfl
    · exact h e he

theorem foldl_writeBundleUsage_spec {g : ℤ} {r : ℕ} (inv : Inv ForcedSaved s)
    (hgroup : HasGroup u k g r s) {saved : List ℤ}
    (hsaved : u ∈ saved ∨ ∀ e, s.historyOf u k = some e → e.isChanged = false) :
    Inv ForcedSaved (saved.foldl HistoryState.writeBundleUsage s) ∧
      HasGroup u k g r (saved.foldl HistoryState.writeBundleUsage s) ∧
      ∀ e, (saved.foldl HistoryState.writeBundleUsage s).historyOf u k = some e →
        e.isChanged = false := by
  induction saved generalizing s with
  | nil => exact ⟨inv, hgroup, hsaved.resolve_left (List.not_mem_nil)⟩
  | cons u' saved ih =>
    refine ih (inv.writeBundleUsage saveLaw_forcedSaved u') (hgroup.writeBundleUsage inv.toKept u') ?_
    have hwritten : u' = u ∨ (∀ e, s.historyOf u k = some e → e.isChanged = false) →
        ∀ e, (s.writeBundleUsage u').historyOf u k = some e → e.isChanged = false :=
      fun h' _ => not_changed_writeBundleUsage inv.toKept h'
    rcases hsaved with hmem | hnot
    · rcases List.mem_cons.1 hmem with heq | hmem
      · exact .inr (hwritten (.inl heq.symm))
      · exact .inl hmem
    · exact .inr (hwritten (.inr hnot))

theorem HasGroup.restart {g : ℤ} {r : ℕ} (hgroup : HasGroup u k g r s) (inv : Inv ForcedSaved s)
    (hr : r &&& groupControlReasonMask = groupControlReasonForced) {saved : List ℤ} (hu : u ∈ saved)
    (t : ℤ) : HasGroup u k g r (new (saved.foldl HistoryState.writeBundleUsage s).toHistoryTables
      t) := by
  obtain ⟨h₁, ⟨e, he, rfl, rfl⟩, hnot⟩ := foldl_writeBundleUsage_spec inv hgroup (.inl hu)
  have hrow := h₁.saved u k e he (hnot e he) hr
  obtain ⟨row, hrow, hfields⟩ := Option.map_eq_some_iff.1 hrow
  refine ⟨loadedHistory row, ?_, congrArg Prod.fst hfields, congrArg Prod.snd hfields⟩
  rw [historyOf_new]
  exact congrArg (Option.map loadedHistory) hrow

theorem hasGroup_apply {g : ℤ} {r : ℕ} (inv : Inv ForcedSaved s) (hgroup : HasGroup u k g r s)
    (hr : r &&& groupControlReasonMask = groupControlReasonForced) (op : HistoryOp)
    (free : NamesFree s op) (unset : Unset u k op) : HasGroup u k g r (s.apply c op) := by
  cases op with
  | reportEvent event t u' installed =>
    rcases reportEvent_spec (c := c) inv.named event t u' installed with
      heq | ⟨reason, hreason, hputs⟩
    · rw [apply, heq]
      exact hgroup
    · exact hgroup.touch hr (touch_reportedHistory _ hreason t u') hputs
  | checkAndUpdateGroup b u' uid t =>
    exact hgroup.touch hr (touch_checkedHistory _ t) (checkAndUpdateGroup_spec inv.named b u' uid t)
  | checkEachBundleState u' bundles t =>
    refine (checkEach_induct inv free hgroup fun s₁ inv₁ h₁ oneBundle _ => ?_).2
    exact h₁.touch hr (touch_checkedHistory _ t)
      (checkAndUpdateGroup_spec inv₁.named oneBundle.1 u' oneBundle.2 t)
  | setAppGroup b newGroup u' t isFlush installed =>
    refine (setForced_induct inv free hgroup fun s₁ uid s₂ h₁ hset hkept => ?_).2
    exact h₁.setTo (fun hat => unset hat.1.symm uid hat.2.symm) hset hkept
  | updateBootBasedAndScreenTime on t isShutdown =>
    obtain ⟨hmemory, -, htable⟩ := updateBootBasedAndScreenTime_histories s on t isShutdown
    exact hgroup.of_view (historyOf_congr hmemory htable u k)
  | writeBundleUsage u' => exact hgroup.writeBundleUsage inv.toKept u'
  | onBundleUninstalled u' b uid appIndex =>
    exact hgroup.of_view ((onBundleUninstalled_spec inv.toKept u' b uid appIndex).2 u k unset.symm)
  | onUserRemoved u' =>
    refine hgroup.of_view ?_
    rw [apply, historyOf_onUserRemoved, if_neg unset.symm]
  | restart saved t => exact hgroup.restart inv hr unset t

def UnsetStep (c : BundleActiveGroupController) (u : ℤ) (k : String) (s s' : HistoryState) : Prop :=
  ∃ op, NamesFree s op ∧ Unset u k op ∧ s.apply c op = s'

/-- A forced entry keeps its group and reason until it is set again or uninstalled. -/
theorem forced_sticky (run : Run c (fun _ => True) NamesFree s) (he : s.historyOf u k = some e)
    (forced : e.IsForced) (steps : Relation.ReflTransGen (UnsetStep c u k) s s') :
    ∃ e', s'.historyOf u k = some e' ∧ e'.currentGroup = e.currentGroup ∧
      e'.reasonInGroup = e.reasonInGroup := by
  have h : Inv ForcedSaved s' ∧ HasGroup u k e.currentGroup e.reasonInGroup s' := by
    induction steps with
    | refl => exact ⟨inv_run run, e, he, rfl, rfl⟩
    | tail _ step ih =>
      obtain ⟨op, free, unset, rfl⟩ := step
      exact ⟨inv_apply ih.1 op free, hasGroup_apply ih.1 ih.2 forced op free unset⟩
  exact h.2

/-- A bundle that was checked and then set to `activeGroupFixed`. -/
def fixedBundle : HistoryState :=
  let c := BundleActiveGroupController.init false
  ((new {} 1000).apply c (.checkAndUpdateGroup "com.example.mail" 100 20010001 5000)).apply c
    (.setAppGroup "com.example.mail" activeGroupFixed 100 6000 false true)

def mailForeground : BundleActiveEvent :=
  { bundleName := "com.example.mail", eventId := .abilityForeground, timeStamp := 1709251200000
    uid := 20010001 }

theorem keyFree_of_stored (h : s.stored u (getBundleUsageKey b uid) = none) : KeyFree s u b uid :=
  fun _ row hrow => nomatch h.symm.trans hrow

theorem run_fixedBundle : Run (.init false) (fun _ => True) NamesFree fixedBundle :=
  .step (.setAppGroup _ _ _ _ _ _) (.step (.checkAndUpdateGroup _ _ _ _) (.start {} 1000 trivial)
    (keyFree_of_stored rfl)) fun _ _ _ _ => keyFree_of_stored rfl

/-- A use and a restart after a save leave the group that was set. -/
theorem forced_sticky_restarted : ∃ e',
    ((fixedBundle.apply (.init false) (.reportEvent mailForeground 7000 100 true)).apply
      (.init false) (.restart [100] 8000)).historyOf 100 "com.example.mail20010001" = some e' ∧
      e'.currentGroup = activeGroupFixed ∧ e'.reasonInGroup = groupControlReasonForced := by
  let e : BundleActivePackageHistory :=
    { bundleName := "com.example.mail", uid := 20010001, currentGroup := activeGroupFixed
      reasonInGroup := groupControlReasonForced, lastBootFromUsedTimeStamp := 4000
      lastScreenUsedTimeStamp := 0, isChanged := true, bundlefirstUseTimeStamp := int64Max }
  have he : fixedBundle.historyOf 100 "com.example.mail20010001" = some e := by decide +kernel
  exact forced_sticky run_fixedBundle he (by decide)
    (.tail (.tail .refl ⟨.reportEvent mailForeground 7000 100 true, keyFree_of_stored rfl, trivial, rfl⟩)
      ⟨.restart [100] 8000, trivial, List.mem_singleton_self _, rfl⟩)

/-- User 0 uses app1 with the uid 20010, which is saved, and loses app with the uid 120010, which comes back
and is set. -/
def sharedKey : HistoryState :=
  let c := BundleActiveGroupController.init false
  (((((new {} 1000).apply c (.reportEvent { mailForeground with
      bundleName := "com.example.app1", uid := 20010 } 5000 0 true)).apply c
    (.writeBundleUsage 0)).apply c (.onBundleUninstalled 0 "com.example.app" 120010 0)).apply c
    (.checkAndUpdateGroup "com.example.app" 0 120010 6000)).apply c
      (.setAppGroup "com.example.app" activeGroupFixed 0 7000 false true)

instance (u : ℤ) (k : String) (g : ℤ) (r : ℕ) (s : HistoryState) : Decidable (HasGroup u k g r s) :=
  decidable_of_iff ((s.historyOf u k).map (fun e => (e.currentGroup, e.reasonInGroup)) = some (g, r)) <| by
    rw [Option.map_eq_some_iff, HasGroup]
    simp only [Prod.mk.injEq]

/-- The restart reads the row of app1 first, which has the same key. -/
theorem not_sticky_sharedKey :
    Run (.init false) (fun _ => True) (fun _ _ => True) sharedKey ∧
      HasGroup 0 "com.example.app120010" activeGroupFixed groupControlReasonForced sharedKey ∧
      Unset 0 "com.example.app120010" (.restart [0] 8000) ∧
      ¬ HasGroup 0 "com.example.app120010" activeGroupFixed groupControlReasonForced
        (sharedKey.apply (.init false) (.restart [0] 8000)) := by
  refine ⟨?_, by decide +kernel, List.mem_singleton_self _, by decide +kernel⟩
  unfold sharedKey
  iterate 5 refine .step _ ?_ trivial
  exact .start {} 1000 trivial

end HistoryState
end DeviceUsageStats
